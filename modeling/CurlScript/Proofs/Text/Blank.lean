import CurlScript.Text.Blank
import Mathlib.Data.List.Chain
import Mathlib.Data.List.DropRight
import Mathlib.Data.List.TakeWhile

/-!
Trimmed and collapsed texts: what the two operations leave, and which texts they do not change.
-/

namespace CurlScript.Text

-- What is said of all characters of a list is decided along the list. With the usual priority the
-- instance that runs through every character there is would be taken.
instance (priority := high) decidableForallMem (holds : Char → Prop) [DecidablePred holds]
    (text : List Char) : Decidable (∀ c ∈ text, holds c) :=
  List.decidableBAll holds text

def OnlySpaces (text : List Char) : Prop :=
  ∀ c ∈ text, isBlank c = true → c = ' '

instance (text : List Char) : Decidable (OnlySpaces text) :=
  inferInstanceAs (Decidable (∀ c ∈ text, isBlank c = true → c = ' '))

def SingleSpaces (text : List Char) : Prop :=
  text.IsChain fun a b => ¬(a = ' ' ∧ b = ' ')

theorem trim_eq_rdropWhile (text : List Char) :
    trim text = (text.dropWhile isBlank).rdropWhile isBlank := rfl

theorem isInfix_trim (text : List Char) : trim text <:+: text :=
  (List.rdropWhile_prefix isBlank _).isInfix.trans (List.dropWhile_suffix isBlank).isInfix

theorem mem_of_mem_trim {c : Char} {text : List Char} (member : c ∈ trim text) : c ∈ text :=
  (isInfix_trim text).subset member

theorem trim_eq_nil_iff {text : List Char} : trim text = [] ↔ ∀ c ∈ text, isBlank c = true := by
  rw [trim_eq_rdropWhile, List.rdropWhile_eq_nil_iff]
  constructor
  · intro restBlank c member
    rw [← List.takeWhile_append_dropWhile (p := isBlank) (l := text), List.mem_append] at member
    rcases member with leading | rest
    · exact List.mem_takeWhile_imp leading
    · exact restBlank c rest
  · exact fun blank c member => blank c ((List.dropWhile_suffix isBlank).subset member)

theorem trim_eq_self {text : List Char}
    (first : ∀ c ∈ text.head?, isBlank c = false)
    (last : ∀ c ∈ text.getLast?, isBlank c = false) : trim text = text := by
  have startKept : text.dropWhile isBlank = text := by
    cases text with
    | nil => rfl
    | cons c rest => simp [first c rfl]
  rw [trim_eq_rdropWhile, startKept, List.rdropWhile_eq_self_iff]
  intro nonempty
  simp [last _ (List.getLast?_eq_getLast_of_ne_nil nonempty)]

theorem trim_first (text : List Char) : ∀ c ∈ (trim text).head?, isBlank c = false := by
  intro c found
  rw [trim_eq_rdropWhile] at found
  have startsWith := List.rdropWhile_prefix isBlank (text.dropWhile isBlank)
  have headEq : (text.dropWhile isBlank).head? = some c := by
    obtain ⟨rest, split⟩ := startsWith
    rw [← split, List.head?_append, Option.mem_def.mp found]
    rfl
  have notBlank := List.head?_dropWhile_not isBlank text
  rwa [headEq] at notBlank

theorem trim_last (text : List Char) : ∀ c ∈ (trim text).getLast?, isBlank c = false := by
  intro c found
  rw [trim_eq_rdropWhile] at found
  have nonempty : (text.dropWhile isBlank).rdropWhile isBlank ≠ [] := by
    intro empty
    simp [empty] at found
  have notBlank := List.rdropWhile_last_not isBlank (text.dropWhile isBlank) nonempty
  rw [List.getLast?_eq_getLast_of_ne_nil nonempty] at found
  simpa [Option.some.inj found] using notBlank

@[simp] theorem trim_trim (text : List Char) : trim (trim text) = trim text :=
  trim_eq_self (trim_first text) (trim_last text)

@[simp] theorem trimmed_ofList_trim (text : List Char) :
    trimmed (String.ofList (trim text)) = String.ofList (trim text) := by
  simp [trimmed]

theorem trim_toList_of_trimmed {text : String} (stripped : trimmed text = text) :
    trim text.toList = text.toList := by
  simpa [trimmed] using congrArg String.toList stripped

theorem collapseFrom_onlySpaces (inRun : Bool) (text : List Char) :
    OnlySpaces (collapseFrom inRun text) := by
  fun_induction collapseFrom inRun text with
  | case1 => simp [OnlySpaces]
  | case2 c rest blank ih => exact ih
  | case3 inRun c rest blank notInRun ih => simpa [OnlySpaces] using ih
  | case4 inRun c rest notBlank ih => simpa [OnlySpaces, notBlank] using ih

/-- Directly behind a space none is written, and no two stand side by side. -/
theorem collapseFrom_singleSpaces (inRun : Bool) (text : List Char) :
    SingleSpaces (collapseFrom inRun text) ∧
      (inRun = true → (collapseFrom inRun text).head? ≠ some ' ') := by
  fun_induction collapseFrom inRun text with
  | case1 => simp [SingleSpaces]
  | case2 c rest blank ih => exact ih
  | case3 inRun c rest blank notInRun ih =>
      refine ⟨List.isChain_cons.mpr ⟨?_, ih.1⟩, fun behind => absurd behind notInRun⟩
      rintro d found ⟨-, rfl⟩
      exact ih.2 rfl found
  | case4 inRun c rest notBlank ih =>
      have notSpace : c ≠ ' ' := by
        rintro rfl
        exact notBlank (by decide)
      refine ⟨List.isChain_cons.mpr ⟨?_, ih.1⟩, fun _ => by simpa using notSpace⟩
      exact fun d _ both => notSpace both.1

theorem collapseFrom_eq_self {inRun : Bool} {text : List Char} (onlySpaces : OnlySpaces text)
    (singleSpaces : SingleSpaces text) (start : inRun = true → text.head? ≠ some ' ') :
    collapseFrom inRun text = text := by
  induction text generalizing inRun with
  | nil => rfl
  | cons c rest ih =>
      have restSpaces : OnlySpaces rest := fun d member => onlySpaces d (by simp [member])
      have restSingle : SingleSpaces rest := List.IsChain.of_cons singleSpaces
      by_cases blank : isBlank c = true
      · have isSpace : c = ' ' := onlySpaces c (by simp) blank
        subst c
        have notInRun : inRun = false := by
          cases inRun with
          | false => rfl
          | true => exact absurd rfl (start rfl)
        have restStart : rest.head? ≠ some ' ' := by
          cases rest with
          | nil => simp
          | cons d others =>
              have apart := (List.isChain_cons_cons.mp singleSpaces).1
              simpa using apart
        have restKept := ih restSpaces restSingle fun _ : true = true => restStart
        simp [collapseFrom, blank, notInRun, restKept]
      · have restKept : collapseFrom false rest = rest := ih restSpaces restSingle (by simp)
        simp [collapseFrom, blank, restKept]

theorem collapse_eq_self {text : List Char} (onlySpaces : OnlySpaces text)
    (singleSpaces : SingleSpaces text) : collapse text = text :=
  collapseFrom_eq_self onlySpaces singleSpaces (by simp)

end CurlScript.Text
