import CurlScript.Options.Fields

/-!
Which fields are those of options: each known name once, with a value that its reading accepts.
-/

namespace CurlScript

namespace Record

variable {α β : Type}

theorem Checked.map_eq_valid_iff {f : α → β} {checked : Checked α} {value : β} :
    checked.map f = .valid value ↔ ∃ inner, checked = .valid inner ∧ f inner = value := by
  cases checked <;> simp [Checked.map]

theorem Checked.ap_eq_valid_iff {f : Checked (α → β)} {checked : Checked α} {value : β} :
    f.ap checked = .valid value ↔
      ∃ make inner, f = .valid make ∧ checked = .valid inner ∧ make inner = value := by
  cases f <;> cases checked <;> simp [Checked.ap]

theorem required_eq {fields : Entries String Json} {name : String} {value : Json}
    {reading : Reading α} (found : fields.lookup name = some value) :
    required fields [] name reading = reading [name] value := by
  simp [required, found]

theorem noOthers_eq_valid_iff {fields : Entries String Json} {names : List String} (done : Unit) :
    noOthers fields names = .valid done ↔ ∀ field ∈ fields, field.1 ∈ names := by
  unfold noOthers
  split
  · rename_i known
    simpa using known
  · rename_i others unknown
    simp only [reduceCtorEq, false_iff]
    intro known
    apply unknown
    simpa using known

end Record

namespace Options

structure ReadFrom (options : Options) (value : String → Json) : Prop where
  library : library? ["library"] (value "library") = .valid options.library
  includeImports :
    Record.bool ["include_imports"] (value "include_imports") = .valid options.includeImports
  wrapAsync : Record.bool ["wrap_async"] (value "wrap_async") = .valid options.wrapAsync
  addErrorHandling :
    Record.bool ["add_error_handling"] (value "add_error_handling") =
      .valid options.addErrorHandling
  useSession : Record.bool ["use_session"] (value "use_session") = .valid options.useSession

theorem ofFields_eq_valid_iff {fields : Entries String Json} {value : String → Json}
    (found : ∀ name ∈ fieldNames, fields.lookup name = some (value name)) (options : Options) :
    ofFields fields = .valid options ↔
      (∀ field ∈ fields, field.1 ∈ fieldNames) ∧ options.ReadFrom value := by
  simp only [fieldNames, List.forall_mem_cons, List.not_mem_nil, false_imp_iff, implies_true,
    and_true] at found
  obtain ⟨library, includeImports, wrapAsync, addErrorHandling, useSession⟩ := found
  simp only [ofFields, Record.required_eq library, Record.required_eq includeImports,
    Record.required_eq wrapAsync, Record.required_eq addErrorHandling,
    Record.required_eq useSession, Record.Checked.ap_eq_valid_iff, Record.Checked.map_eq_valid_iff]
  constructor
  · rintro ⟨_, done, ⟨_, e, ⟨_, d, ⟨_, c, ⟨_, b, ⟨a, readA, rfl⟩, readB, rfl⟩, readC, rfl⟩, readD,
      rfl⟩, readE, rfl⟩, known, rfl⟩
    exact ⟨(Record.noOthers_eq_valid_iff done).mp known, readA, readB, readC, readD, readE⟩
  · rintro ⟨known, read⟩
    exact ⟨_, (), ⟨_, _, ⟨_, _, ⟨_, _, ⟨_, _, ⟨_, read.library, rfl⟩, read.includeImports, rfl⟩,
      read.wrapAsync, rfl⟩, read.addErrorHandling, rfl⟩, read.useSession, rfl⟩,
      (Record.noOthers_eq_valid_iff ()).mpr known, rfl⟩

end Options

end CurlScript
