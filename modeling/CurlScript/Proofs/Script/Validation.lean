import CurlScript.Script.Validation

/-!
What comes of a check: a single file passes it exactly if the compiler accepts its text, and then
its strings and brackets are closed.
-/

namespace CurlScript.Script

variable {compile : Compiler} {name text : String} {files : Entries String String}

theorem validate_checked (checked : isChecked name text = true) (rest : Entries String String) :
    validate compile ((name, text) :: rest) = do
      let error ← compile text
      let errors ← validate compile rest
      return (error.map fun error => (name, error)).toList ++ errors := by
  rw [validate, if_pos checked]

theorem validate_unchecked (unchecked : isChecked name text = false)
    (rest : Entries String String) :
    validate compile ((name, text) :: rest) = validate compile rest := by
  rw [validate, if_neg (by simp [unchecked])]

/-- Files that pass are accepted one by one. -/
theorem validate_eq_nil_iff :
    validate compile files = .ok [] ↔
      ∀ file ∈ files, isChecked file.1 file.2 = true → compile file.2 = .ok none := by
  induction files with
  | nil => simp [validate]
  | cons file rest ih =>
      rw [List.forall_mem_cons, ← ih]
      cases checked : isChecked file.1 file.2 with
      | false =>
          rw [validate_unchecked checked]
          simp
      | true =>
          rw [validate_checked checked]
          cases compile file.2 with
          | error crash => simp [bind, Except.bind]
          | ok error =>
              cases validate compile rest <;> cases error <;>
                simp [bind, Except.bind, pure, Except.pure]

/-- Files that pass have no string and no bracket that is open. -/
theorem faults_of_validate (finds : compile.FindsFaults)
    (passed : validate compile files = .ok []) : faults files = [] := by
  rw [faults, List.filterMap_eq_nil_iff]
  intro file member
  have accepted := validate_eq_nil_iff.mp passed file member
  dsimp only
  split
  · rw [finds _ (accepted ‹_›), Option.map_none]
  · rfl

end CurlScript.Script
