import CurlScript.Proofs.Command.Scan

/-!
How an argument may be written in a command line: characters that stand for themselves, characters
after a backslash, and quoted parts, in any order. The scan undoes each of these spellings.
-/

namespace CurlScript.Command

def IsBare (c : Char) : Prop :=
  c ≠ '\\' ∧ c ≠ '\'' ∧ c ≠ '"' ∧ c ≠ ' '

instance (c : Char) : Decidable (IsBare c) :=
  inferInstanceAs (Decidable (_ ∧ _))

inductive Enclosed (mark : Char) : List Char → List Char → Prop
  | nil : Enclosed mark [] []
  | raw {c text written} : c ≠ '\\' → c ≠ mark → Enclosed mark text written →
      Enclosed mark (c :: text) (c :: written)
  | escaped {c text written} : Enclosed mark text written →
      Enclosed mark (c :: text) ('\\' :: c :: written)

/-- `Spelling text written`: the characters `written` stand for the argument `text`. -/
inductive Spelling : List Char → List Char → Prop
  | nil : Spelling [] []
  | bare {c text written} : IsBare c → Spelling text written →
      Spelling (c :: text) (c :: written)
  | escaped {c text written} : Spelling text written →
      Spelling (c :: text) ('\\' :: c :: written)
  | quoted {mark inner innerWritten text written} : mark = '\'' ∨ mark = '"' →
      Enclosed mark inner innerWritten → Spelling text written →
      Spelling (inner ++ text) (mark :: innerWritten ++ mark :: written)

theorem Spelling.ofBare {text : List Char} (bare : ∀ c ∈ text, IsBare c) : Spelling text text := by
  induction text with
  | nil => exact .nil
  | cons c rest ih =>
      obtain ⟨first, others⟩ := List.forall_mem_cons.mp bare
      exact .bare first (ih others)

namespace Scan

def neutral (done : List String) (word : List Char) : Scan :=
  { done, word }

theorem step_quote_neutral {mark : Char} (isQuote : mark = '\'' ∨ mark = '"')
    (done : List String) (word : List Char) :
    (neutral done word).step mark = { done, word, quote := some mark } := by
  rcases isQuote with rfl | rfl <;> rfl

theorem step_quote_quoted {mark : Char} (isQuote : mark = '\'' ∨ mark = '"')
    (done : List String) (word : List Char) :
    ({ done, word, quote := some mark } : Scan).step mark = neutral done word := by
  rcases isQuote with rfl | rfl <;> rfl

theorem step_bare {c : Char} (bare : IsBare c) (done : List String) (word : List Char) :
    (neutral done word).step c = neutral done (c :: word) := by
  obtain ⟨notBackslash, notSingle, notDouble, notSpace⟩ := bare
  simp [neutral, step, push, notBackslash, notSingle, notDouble, notSpace]

theorem step_raw {mark c : Char} (notBackslash : c ≠ '\\') (notMark : c ≠ mark)
    (done : List String) (word : List Char) :
    ({ done, word, quote := some mark } : Scan).step c =
      { done, word := c :: word, quote := some mark } := by
  by_cases isQuote : c = '\'' ∨ c = '"'
  · simp [step, notBackslash, isQuote, readQuote, Ne.symm notMark, push]
  · simp [step, notBackslash, isQuote, push]

theorem run_enclosed {mark : Char} {text written : List Char}
    (enclosed : Enclosed mark text written) (done : List String) (word : List Char) :
    ({ done, word, quote := some mark } : Scan).run written =
      { done, word := text.reverse ++ word, quote := some mark } := by
  induction enclosed generalizing word with
  | nil => rfl
  | raw notBackslash notMark rest ih =>
      rw [run_cons, step_raw notBackslash notMark, ih]
      simp
  | @escaped c text written rest ih =>
      have pushed : (({ done, word, quote := some mark } : Scan).step '\\').step c =
          { done, word := c :: word, quote := some mark } := by
        simp [step, push]
      rw [run_cons, run_cons, pushed, ih]
      simp

theorem run_spelling {text written : List Char} (spelling : Spelling text written)
    (done : List String) (word : List Char) :
    (neutral done word).run written = neutral done (text.reverse ++ word) := by
  induction spelling generalizing word with
  | nil => rfl
  | bare bare rest ih =>
      rw [run_cons, step_bare bare, ih]
      simp
  | @escaped c text written rest ih =>
      have pushed : ((neutral done word).step '\\').step c = neutral done (c :: word) := by
        simp [neutral, step, push]
      rw [run_cons, run_cons, pushed, ih]
      simp
  | @quoted mark inner innerWritten text written isQuote enclosed rest ih =>
      rw [List.cons_append, run_cons, step_quote_neutral isQuote, run_append,
        run_enclosed enclosed, run_cons, step_quote_quoted isQuote, ih]
      simp

theorem tokens_neutral (done : List String) (word : List Char) :
    (neutral done word).tokens =
      done.reverse ++ if word = [] then [] else [String.ofList word.reverse] :=
  tokens_eq _

theorem step_space_neutral (done : List String) (word : List Char) :
    (neutral done word).step ' ' = neutral (neutral done word).tokens.reverse [] := by
  cases word with
  | nil => simp [neutral, step, tokens, flush]
  | cons c rest => simp [neutral, step, tokens, flush]

/-- Behind a space outside quotes, the scan goes on as from the start. -/
theorem tokens_run_space (done : List String) (word text : List Char) :
    ((neutral done word).run (' ' :: text)).tokens =
      (neutral done word).tokens ++ (({} : Scan).run text).tokens := by
  have fresh : (neutral done word).step ' ' =
      ({} : Scan).behind (neutral done word).tokens.reverse :=
    step_space_neutral done word
  rw [run_cons, fresh, run_behind, tokens_behind, List.reverse_reverse]

end Scan

end CurlScript.Command
