import CurlScript.Proofs.Command.Spelling

/-!
Command lines that write out arguments, each in any of its spellings, with spaces between and around
them. The scan of such a line finds the arguments again, all but the empty ones.
-/

namespace CurlScript.Command

inductive Following : List String → List Char → Prop
  | nil (spaces : Nat) : Following [] (List.replicate spaces ' ')
  | cons {argument written arguments text} (spaces : Nat) : Spelling argument.toList written →
      Following arguments text →
      Following (argument :: arguments) (List.replicate (spaces + 1) ' ' ++ written ++ text)

/-- `Writing arguments text`: the text writes the arguments out. Spaces may stand ahead of the first
and behind the last of them. -/
inductive Writing : List String → List Char → Prop
  | nil (spaces : Nat) : Writing [] (List.replicate spaces ' ')
  | cons {argument written arguments text} (spaces : Nat) : Spelling argument.toList written →
      Following arguments text →
      Writing (argument :: arguments) (List.replicate spaces ' ' ++ written ++ text)

namespace Scan

theorem run_spaces (spaces : Nat) (done : List String) :
    (neutral done []).run (List.replicate spaces ' ') = neutral done [] := by
  induction spaces with
  | zero => rfl
  | succ spaces ih =>
      rw [List.replicate_succ, run_cons]
      exact ih

/-- One or more spaces end the token that is being read. -/
theorem run_spaces_succ (spaces : Nat) (done : List String) (word : List Char) :
    (neutral done word).run (List.replicate (spaces + 1) ' ') =
      neutral (neutral done word).tokens.reverse [] := by
  rw [List.replicate_succ, run_cons, step_space_neutral, run_spaces]

theorem tokens_neutral_argument (done : List String) (argument : String) :
    (neutral done argument.toList.reverse).tokens =
      done.reverse ++ [argument].filter (· ≠ "") := by
  rw [tokens_neutral]
  by_cases empty : argument = "" <;> simp [empty]

/-- Each argument after spaces becomes a token, unless it is empty. -/
theorem tokens_run_following {arguments : List String} {text : List Char}
    (following : Following arguments text) (done : List String) (word : List Char) :
    ((neutral done word).run text).tokens =
      (neutral done word).tokens ++ arguments.filter (· ≠ "") := by
  induction following generalizing done word with
  | nil spaces =>
      cases spaces with
      | zero => simp
      | succ spaces => rw [run_spaces_succ, tokens_neutral]; simp
  | @cons argument written arguments text spaces spelling _ ih =>
      rw [run_append, run_append, run_spaces_succ, run_spelling spelling, List.append_nil, ih,
        tokens_neutral_argument, List.reverse_reverse, List.append_assoc, ← List.filter_append,
        List.singleton_append]

theorem tokens_run_writing {arguments : List String} {text : List Char}
    (writing : Writing arguments text) :
    ((neutral [] []).run text).tokens = arguments.filter (· ≠ "") := by
  cases writing with
  | nil spaces =>
      rw [run_spaces]
      rfl
  | @cons argument written arguments text spaces spelling following =>
      rw [run_append, run_append, run_spaces, run_spelling spelling, List.append_nil,
        tokens_run_following following, tokens_neutral_argument, List.reverse_nil,
        List.nil_append, ← List.filter_append, List.singleton_append]

end Scan

/-- The tokens of a text that writes arguments out are these arguments, less the empty ones. -/
theorem tokenize_writing {arguments : List String} {text : List Char}
    (writing : Writing arguments text) :
    tokenize (String.ofList text) = arguments.filter (· ≠ "") := by
  rw [tokenize, String.toList_ofList]
  exact Scan.tokens_run_writing writing

def mixedLine : List Char :=
  "  curl ''   \"a b\"\\'c \\\\x'' ".toList

theorem tokenize_writing_mixedLine :
    Writing ["curl", "", "a b'c", "\\x"] mixedLine ∧
      tokenize (String.ofList mixedLine) = ["curl", "a b'c", "\\x"] := by
  have name : Spelling "curl".toList "curl".toList := .ofBare (by simp [IsBare])
  have empty : Spelling "".toList "''".toList := .quoted (.inl rfl) .nil .nil
  have spaced : Enclosed '"' ['a', ' ', 'b'] ['a', ' ', 'b'] :=
    .raw (by decide) (by decide) (.raw (by decide) (by decide) (.raw (by decide) (by decide) .nil))
  have rest : Spelling ['c'] ['c'] := .ofBare (by simp [IsBare])
  have quotes : Spelling "a b'c".toList "\"a b\"\\'c".toList :=
    .quoted (.inr rfl) spaced (.escaped rest)
  have quoteless : Spelling ['x'] ['x', '\'', '\''] := .bare (by decide) empty
  have backslash : Spelling "\\x".toList "\\\\x''".toList := .escaped quoteless
  have writing : Writing ["curl", "", "a b'c", "\\x"] mixedLine :=
    .cons 2 name (.cons 0 empty (.cons 2 quotes (.cons 0 backslash (.nil 1))))
  exact ⟨writing, (tokenize_writing writing).trans (by decide)⟩

end CurlScript.Command
