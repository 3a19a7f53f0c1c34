import CurlScript.Config.Builtin
import CurlScript.Proofs.Options.Fields
import CurlScript.Proofs.Yaml.Keys

/-!
What is relied on of the libraries of a configuration, and that it holds of those that the program
runs with.
-/

namespace CurlScript.Config

structure ReadFrom (libraries : Libraries) (options : Options) (value : String → Yaml.Value) :
    Prop where
  library : libraries.library? (value "library") = some options.library
  includeImports : libraries.switch? (value "include_imports") = some options.includeImports
  wrapAsync : libraries.switch? (value "wrap_async") = some options.wrapAsync
  addErrorHandling : libraries.switch? (value "add_error_handling") = some options.addErrorHandling
  useSession : libraries.switch? (value "use_session") = some options.useSession

/-- A mapping that has been read holds no key twice. -/
def Libraries.KeepsKeysApart (libraries : Libraries) : Prop :=
  ∀ ⦃text entries⦄, libraries.read text = .ok (.mapping entries) → Entries.Apart entries

/-- Fields with distinct names, the five of the options among them, are taken exactly if there are
no others and the value of each of the five can be read. -/
def Libraries.ChecksFields (libraries : Libraries) : Prop :=
  ∀ ⦃fields : Entries String Yaml.Value⦄ ⦃value : String → Yaml.Value⦄,
    (Entries.keys fields).Nodup →
    (∀ name ∈ Options.fieldNames, fields.lookup name = some (value name)) →
    ∀ options, libraries.make fields = .ok options ↔
      (∀ field ∈ fields, field.1 ∈ Options.fieldNames) ∧ ReadFrom libraries options value

theorem readDocument_eq_ok_iff {text : String} {value : Yaml.Value} :
    readDocument text = .ok value ↔ Yaml.read text = .ok value := by
  rw [readDocument]
  cases Yaml.read text <;> simp [Except.mapError]

theorem makeOptions_eq_ok_iff {fields : Entries String Yaml.Value} {options : Options} :
    makeOptions fields = .ok options ↔ Options.ofFields (jsonFields fields) = .valid options := by
  rw [makeOptions]
  cases Options.ofFields (jsonFields fields) <;> simp

theorem lookup_jsonFields {fields : Entries String Yaml.Value} {name : String} :
    (jsonFields fields).lookup name = (fields.lookup name).map Yaml.Value.toJson := by
  induction fields with
  | nil => rfl
  | cons field rest ih =>
      rw [jsonFields, List.map_cons, List.lookup_cons, List.lookup_cons]
      cases name == field.1 with
      | true => rfl
      | false => exact ih

section Paths

variable {α : Type}

def IgnoresPath (reading : Record.Reading α) : Prop :=
  ∀ path other value, (reading path value).toOption = (reading other value).toOption

theorem toOption_eq_some_iff {checked : Record.Checked α} {value : α} :
    checked.toOption = some value ↔ checked = .valid value := by
  cases checked <;> simp [Record.Checked.toOption]

theorem IgnoresPath.reads {reading : Record.Reading α} (ignores : IgnoresPath reading)
    (path : List String) {value : Json} {result : α} :
    reading path value = .valid result ↔ (reading [] value).toOption = some result := by
  rw [← toOption_eq_some_iff, ignores path []]

theorem ignoresPath_boolOfInt (path other : List String) (value : Int) :
    (Record.boolOfInt path value).toOption = (Record.boolOfInt other value).toOption := by
  unfold Record.boolOfInt
  repeat' split
  all_goals rfl

theorem ignoresPath_bool : IgnoresPath Record.bool := by
  intro path other value
  cases value with
  | int value => exact ignoresPath_boolOfInt path other value
  | float value =>
      unfold Record.bool Record.boolOfDouble
      dsimp only
      split
      · split
        · rfl
        · exact ignoresPath_boolOfInt path other _
      · rfl
  | text value =>
      unfold Record.bool
      dsimp only
      split <;> rfl
  | _ => rfl

theorem ignoresPath_library : IgnoresPath Options.library? := by
  intro path other value
  cases value with
  | text name =>
      unfold Options.library?
      dsimp only
      split <;> rfl
  | _ => rfl

end Paths

theorem readFrom_builtin_iff {options : Options} {value : String → Yaml.Value} :
    ReadFrom builtin options value ↔ options.ReadFrom fun name => (value name).toJson := by
  have bool (path : List String) {value : Json} {result : Bool} :
      Record.bool path value = .valid result ↔ (Record.bool [] value).toOption = some result :=
    ignoresPath_bool.reads path
  have library (path : List String) {value : Json} {result : Library} :
      Options.library? path value = .valid result ↔
        (Options.library? [] value).toOption = some result :=
    ignoresPath_library.reads path
  constructor
  · rintro ⟨a, b, c, d, e⟩
    exact ⟨(library _).mpr a, (bool _).mpr b, (bool _).mpr c, (bool _).mpr d, (bool _).mpr e⟩
  · rintro ⟨a, b, c, d, e⟩
    exact ⟨(library _).mp a, (bool _).mp b, (bool _).mp c, (bool _).mp d, (bool _).mp e⟩

theorem keepsKeysApart_builtin : builtin.KeepsKeysApart :=
  fun _ _ read => Yaml.apart_of_read (readDocument_eq_ok_iff.mp read)

theorem checksFields_builtin : builtin.ChecksFields := by
  intro fields value distinct found options
  have foundJson : ∀ name ∈ Options.fieldNames,
      (jsonFields fields).lookup name = some (value name).toJson := by
    intro name isField
    rw [lookup_jsonFields, found name isField, Option.map_some]
  have names : (∀ field ∈ jsonFields fields, field.1 ∈ Options.fieldNames) ↔
      ∀ field ∈ fields, field.1 ∈ Options.fieldNames := List.forall_mem_map
  rw [readFrom_builtin_iff, ← names]
  exact makeOptions_eq_ok_iff.trans (Options.ofFields_eq_valid_iff foundJson options)

end CurlScript.Config
