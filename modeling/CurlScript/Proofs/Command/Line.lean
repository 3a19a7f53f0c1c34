import CurlScript.Proofs.Command.Normal
import CurlScript.Proofs.Command.Program
import CurlScript.Proofs.Command.Writing

/-!
A command line for any arguments: each stands in single quotes with a backslash before every
character. The line is in normal form, also where arguments hold runs of spaces or end with one,
and its tokens are the arguments.
-/

namespace CurlScript.Command

open Text

def escapeAll (text : List Char) : List Char :=
  text.flatMap fun c => ['\\', c]

def quoted (text : List Char) : List Char :=
  '\'' :: escapeAll text ++ ['\'']

def commandLine (arguments : List String) : String :=
  String.ofList (['c', 'u', 'r', 'l'] ++
    arguments.flatMap fun argument => ' ' :: quoted argument.toList)

theorem enclosed_escapeAll (mark : Char) (text : List Char) :
    Enclosed mark text (escapeAll text) := by
  induction text with
  | nil => exact .nil
  | cons c rest ih => exact .escaped ih

theorem spelling_quoted (text : List Char) : Spelling text (quoted text) := by
  have whole := Spelling.quoted (.inl rfl) (enclosed_escapeAll '\'' text) .nil
  rwa [List.append_nil] at whole

theorem singleSpaces_cons {c : Char} {text : List Char} (singleSpaces : SingleSpaces text)
    (apart : c = ' ' → text.head? ≠ some ' ') : SingleSpaces (c :: text) := by
  cases text with
  | nil => exact .singleton _
  | cons d rest =>
      refine List.isChain_cons_cons.mpr ⟨?_, singleSpaces⟩
      rintro ⟨isSpace, rfl⟩
      exact apart isSpace rfl

/-- The backslashes keep the spaces of an argument apart, the closing quote its last one from the
space after it. -/
theorem singleSpaces_escapeAll (text : List Char) {rest : List Char}
    (singleSpaces : SingleSpaces rest) :
    SingleSpaces (escapeAll text ++ '\'' :: rest) := by
  induction text with
  | nil => exact singleSpaces_cons singleSpaces (by simp)
  | cons c more ih =>
      apply singleSpaces_cons
      · apply singleSpaces_cons ih
        intro _
        cases more <;> simp [escapeAll]
      · simp

theorem singleSpaces_arguments (arguments : List String) :
    SingleSpaces (arguments.flatMap fun argument => ' ' :: quoted argument.toList) := by
  induction arguments with
  | nil => exact .nil
  | cons argument rest ih =>
      have opened := singleSpaces_escapeAll argument.toList ih
      simpa [quoted] using
        singleSpaces_cons (singleSpaces_cons opened (by simp : '\'' = ' ' → _)) (by simp)

theorem toList_commandLine (arguments : List String) :
    (commandLine arguments).toList =
      'c' :: 'u' :: 'r' :: 'l' :: arguments.flatMap fun argument =>
        ' ' :: quoted argument.toList := by
  rw [commandLine, String.toList_ofList, List.cons_append, List.cons_append, List.cons_append,
    List.singleton_append]

theorem singleSpaces_commandLine (arguments : List String) :
    SingleSpaces (commandLine arguments).toList := by
  rw [toList_commandLine]
  have last := singleSpaces_arguments arguments
  exact singleSpaces_cons (singleSpaces_cons (singleSpaces_cons (singleSpaces_cons last
    (by simp)) (by simp)) (by simp)) (by simp)

theorem onlySpaces_quoted {text : List Char} (onlySpaces : OnlySpaces text) :
    OnlySpaces (quoted text) := by
  intro c member blank
  simp only [quoted, escapeAll, List.cons_append, List.mem_cons, List.mem_append,
    List.mem_flatMap, List.not_mem_nil, or_false] at member
  rcases member with rfl | ⟨d, belongs, rfl | rfl⟩ | rfl
  · exact absurd blank (by decide)
  · exact absurd blank (by decide)
  · exact onlySpaces c belongs blank
  · exact absurd blank (by decide)

theorem onlySpaces_commandLine {arguments : List String}
    (onlySpaces : ∀ argument ∈ arguments, OnlySpaces argument.toList) :
    OnlySpaces (commandLine arguments).toList := by
  rw [commandLine, String.toList_ofList]
  intro c member blank
  rcases List.mem_append.mp member with name | later
  · have nameOnly : OnlySpaces ['c', 'u', 'r', 'l'] := by decide
    exact nameOnly c name blank
  · obtain ⟨argument, belongs, inArgument⟩ := List.mem_flatMap.mp later
    rcases List.mem_cons.mp inArgument with space | inQuoted
    · exact space
    · exact onlySpaces_quoted (onlySpaces argument belongs) c inQuoted blank

theorem getLast?_commandLine (arguments : List String) :
    (commandLine arguments).toList.getLast? ≠ some ' ' := by
  rw [toList_commandLine]
  cases ending : arguments.getLast? with
  | none =>
      rw [List.getLast?_eq_none_iff.mp ending]
      decide
  | some argument =>
      obtain ⟨earlier, rfl⟩ := List.getLast?_eq_some_iff.mp ending
      simp only [List.flatMap_append, List.flatMap_cons, List.flatMap_nil, List.append_nil, quoted,
        ← List.cons_append, ← List.append_assoc, List.getLast?_concat]
      simp

theorem normalize_commandLine {arguments : List String}
    (onlySpaces : ∀ argument ∈ arguments, OnlySpaces argument.toList) :
    normalize (commandLine arguments) = commandLine arguments := by
  have first : (commandLine arguments).toList.head? ≠ some ' ' := by
    rw [toList_commandLine]
    simp
  rw [normalize, normalForm_eq_self (onlySpaces_commandLine onlySpaces)
    (singleSpaces_commandLine arguments) first (getLast?_commandLine arguments),
    String.ofList_toList]

theorem namesCurl_commandLine (arguments : List String) : NamesCurl (commandLine arguments) := by
  have lowered : lower (commandLine arguments).toList =
      "curl".toList ++ lower (arguments.flatMap fun argument => ' ' :: quoted argument.toList) := by
    rw [toList_commandLine]
    rfl
  rw [NamesCurl, lowered]
  cases arguments with
  | nil => exact .inl rfl
  | cons argument rest => exact .inr ⟨_, rfl⟩

theorem following_quoted (arguments : List String) :
    Following arguments (arguments.flatMap fun argument => ' ' :: quoted argument.toList) := by
  induction arguments with
  | nil => exact .nil 0
  | cons argument rest ih => exact .cons 0 (spelling_quoted argument.toList) ih

theorem writing_commandLine (arguments : List String) :
    Writing ("curl" :: arguments) (commandLine arguments).toList := by
  have name : Spelling "curl".toList "curl".toList := .ofBare (by decide)
  rw [commandLine, String.toList_ofList]
  exact .cons 0 name (following_quoted arguments)

theorem tokenize_commandLine {arguments : List String} (nonempty : "" ∉ arguments) :
    tokenize (commandLine arguments) = "curl" :: arguments := by
  have kept : ("curl" :: arguments).filter (· ≠ "") = "curl" :: arguments := by
    refine List.filter_eq_self.mpr fun argument member => decide_eq_true ?_
    rintro rfl
    exact nonempty (by simpa using member)
  rw [← kept]
  exact Scan.tokens_run_writing (writing_commandLine arguments)

end CurlScript.Command
