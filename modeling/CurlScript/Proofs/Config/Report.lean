import CurlScript.Proofs.Config.Precedence

/-!
How a configuration file is reported whose values are no options: as unknown keys, or as no
mapping. Unknown keys are reported in order, so only if they have one.
-/

namespace CurlScript.Config

open Text

inductive Kind where
  | number
  | text
  | bytes
  | date
  | moment (zoned : Bool)
deriving DecidableEq

def kind? : Yaml.Scalar → Option Kind
  | .null => none
  | .bool _ => some .number
  | .int _ => some .number
  | .float _ => some .number
  | .text _ => some .text
  | .bytes _ => some .bytes
  | .date _ => some .date
  | .moment value => some (.moment value.isZoned)

def OfOneKind (a b : Yaml.Scalar) : Prop :=
  ∃ kind, kind? a = some kind ∧ kind? b = some kind

def unknownKeys : Yaml.Value → List Yaml.Scalar
  | .mapping entries => (entries.map (·.1)).filter fun key => !isKnown key
  | _ => []

/-- No two unknown keys are of different kinds, and each of them can be written out. -/
def Reportable (value : Yaml.Value) : Prop :=
  (unknownKeys value).Pairwise OfOneKind ∧ ∀ key ∈ unknownKeys value, isOversized key = false

/-- What loading a file comes to: its entries as they are if it is empty or a mapping of known
names, else an error that names each unknown key once or says that there is no mapping. -/
inductive Reports (path : Path) :
    Yaml.Value → Except Error (Entries Yaml.Scalar Yaml.Value) → Prop
  | empty : Reports path (.scalar .null) (.ok [])
  | options {entries : Entries Yaml.Scalar Yaml.Value}
      (known : ∀ entry ∈ entries, ∃ name ∈ Options.fieldNames, entry.1 = .text name) :
      Reports path (.mapping entries) (.ok entries)
  | unknown {value : Yaml.Value} {keys : List Yaml.Scalar} (some : unknownKeys value ≠ [])
      (all : keys.Perm (unknownKeys value)) (once : keys.Pairwise fun a b => (a == b) = false) :
      Reports path value (.error (.unknownKeys path (keys.map (·.shown))))
  | notMapping {value : Yaml.Value} (notNull : value ≠ .scalar .null)
      (notMapping : ∀ entries, value ≠ .mapping entries) :
      Reports path value (.error (.notMapping path))

variable {libraries : Libraries} {path : Path} {value : Yaml.Value} {keys : List Yaml.Scalar}
  {entries : Entries Yaml.Scalar Yaml.Value}

theorem haveOrder_iff (a b : Yaml.Scalar) : haveOrder a b = true ↔ OfOneKind a b := by
  cases a <;> cases b
  case moment.moment a b =>
    simpa [haveOrder, before?, Yaml.Scalar.rank?, OfOneKind, kind?] using eq_comm
  all_goals simp [haveOrder, before?, Yaml.Scalar.rank?, OfOneKind, kind?]

/-- Keys are put in order exactly if they are of one kind. -/
theorem sorted?_cases (keys : List Yaml.Scalar) :
    (keys.Pairwise OfOneKind ∧ ∃ sorted, sorted? keys = some sorted ∧ sorted.Perm keys) ∨
      (¬keys.Pairwise OfOneKind ∧ sorted? keys = none) := by
  by_cases ofOneKind : keys.Pairwise OfOneKind
  · refine .inl ⟨ofOneKind, keys.mergeSort fun a b => before? b a ≠ some true, ?_,
      List.mergeSort_perm keys _⟩
    simp [sorted?, haveOrder_iff, ofOneKind]
  · exact .inr ⟨ofOneKind, by simp [sorted?, haveOrder_iff, ofOneKind]⟩

theorem unknownKeys_mapping_eq_nil_iff :
    unknownKeys (.mapping entries) = [] ↔
      ∀ entry ∈ entries, ∃ name ∈ Options.fieldNames, entry.1 = .text name :=
  filter_not_isKnown_eq_nil_iff

/-- Keys of a mapping that has been read are distinct, in whatever order they are named. -/
theorem once_of_perm (apart : Entries.Apart entries)
    (all : keys.Perm (unknownKeys (.mapping entries))) :
    keys.Pairwise fun a b => (a == b) = false := by
  have distinct : (unknownKeys (.mapping entries)).Pairwise fun a b => (a == b) = false := by
    apply List.Pairwise.filter
    rwa [List.pairwise_map]
  refine (all.pairwise_iff fun {a b} different => ?_).mpr distinct
  rwa [Yaml.beq_comm]

theorem ofValue_of_unknown (someUnknown : unknownKeys (.mapping entries) ≠ []) :
    ofValue path (.mapping entries) =
      match sorted? (unknownKeys (.mapping entries)) with
      | some keys =>
        if (unknownKeys (.mapping entries)).any isOversized then .error (.crash .unreadableNumber)
        else .error (.unknownKeys path (keys.map (·.shown)))
      | none => .error (.crash .unorderedKeys) := by
  rw [ofValue]
  split
  · exact absurd ‹_› someUnknown
  · rfl

def ReportsOrStops (path : Path) (value : Yaml.Value)
    (result : Except Error (Entries Yaml.Scalar Yaml.Value)) : Prop :=
  (Reportable value ∧ Reports path value result) ∨
    (¬Reportable value ∧ ∃ crash, result = .error (.crash crash))

theorem reportsOrStops_mapping (path : Path) (apart : Entries.Apart entries) :
    ReportsOrStops path (.mapping entries) (ofValue path (.mapping entries)) := by
  by_cases noneUnknown : unknownKeys (.mapping entries) = []
  · have known := unknownKeys_mapping_eq_nil_iff.mp noneUnknown
    rw [ofValue_mapping_eq_ok_iff.mpr ⟨known, rfl⟩]
    exact .inl ⟨by simp [Reportable, noneUnknown], .options known⟩
  · rw [ofValue_of_unknown noneUnknown]
    obtain ⟨ordered, keys, found, all⟩ | ⟨unordered, found⟩ :=
      sorted?_cases (unknownKeys (.mapping entries))
    · simp only [found]
      split
      · rename_i oversized
        obtain ⟨key, member, isOversized⟩ := List.any_eq_true.mp oversized
        exact .inr ⟨fun reportable => by simp [reportable.2 key member] at isOversized, _, rfl⟩
      · rename_i fits
        refine .inl ⟨⟨ordered, ?_⟩, .unknown noneUnknown all (once_of_perm apart all)⟩
        simpa using fits
    · simp only [found]
      exact .inr ⟨fun reportable => unordered reportable.1, _, rfl⟩

theorem reportsOrStops_ofValue (path : Path)
    (apart : ∀ entries, value = .mapping entries → Entries.Apart entries) :
    ReportsOrStops path value (ofValue path value) := by
  have reportable (none : unknownKeys value = []) : Reportable value := by
    simp [Reportable, none]
  cases value with
  | mapping entries => exact reportsOrStops_mapping path (apart entries rfl)
  | list items => exact .inl ⟨reportable rfl, .notMapping nofun nofun⟩
  | scalar value =>
      cases value with
      | null => exact .inl ⟨reportable rfl, .empty⟩
      | _ => exact .inl ⟨reportable rfl, .notMapping nofun nofun⟩

theorem not_reports_crash (crash : Crash) : ¬Reports path value (.error (.crash crash)) :=
  nofun

section Load

variable {tree : Tree} {text : String} (present : tree.read path = .ok text)
  (read : libraries.read (withUnixLines text) = .ok value)
include present read

theorem load_eq_ofValue : load libraries tree path = ofValue path value := by
  simp only [load, present, read]

theorem reportsOrStops_load (apart : libraries.KeepsKeysApart) :
    ReportsOrStops path value (load libraries tree path) := by
  rw [load_eq_ofValue present read]
  exact reportsOrStops_ofValue path fun entries isMapping => apart (isMapping ▸ read)

end Load

theorem ReportsOrStops.reports_iff {result : Except Error (Entries Yaml.Scalar Yaml.Value)}
    (either : ReportsOrStops path value result) :
    Reports path value result ↔ Reportable value := by
  obtain ⟨reportable, reports⟩ | ⟨unreportable, crash, rfl⟩ := either
  · exact iff_of_true reports reportable
  · exact iff_of_false (not_reports_crash crash) unreportable

def Bad (value : Yaml.Value) : Prop :=
  value ≠ .scalar .null ∧ ∀ entries, value = .mapping entries → unknownKeys value ≠ []

theorem exists_error_of_bad {result : Except Error (Entries Yaml.Scalar Yaml.Value)}
    (bad : Bad value) (reports : Reports path value result) : ∃ error, result = .error error := by
  cases reports with
  | empty => exact absurd rfl bad.1
  | options known => exact absurd (unknownKeys_mapping_eq_nil_iff.mpr known) (bad.2 _ rfl)
  | unknown some all once => exact ⟨_, rfl⟩
  | notMapping notNull notMapping => exact ⟨_, rfl⟩

section Resolve

variable {environment : Environment} {explicit : Option Path}
  {overrides : Entries String Yaml.Value} (consulted : Consulted environment explicit (some path))
include consulted

theorem resolve_of_load_error {error : Error}
    (failed : load libraries environment.tree path = .error error) :
    resolve libraries environment overrides explicit = .error error := by
  simp only [resolve, fileValues, path?_of_consulted consulted, failed, bind, Except.bind,
    Except.map]

theorem resolve_of_invalid {entries : Entries Yaml.Scalar Yaml.Value} {report : String}
    (loaded : load libraries environment.tree path = .ok entries)
    (invalid : libraries.make (merge (byName entries) overrides) = .error report) :
    resolve libraries environment overrides explicit = .error (.invalid report) := by
  simp only [resolve, fileValues, path?_of_consulted consulted, loaded, bind, Except.bind,
    Except.map, invalid]

end Resolve

end CurlScript.Config
