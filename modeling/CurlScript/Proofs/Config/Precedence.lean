import CurlScript.Proofs.Config.Libraries

/-!
Which source each option comes from: an override that is given, else the one configuration file that
is consulted, else the default.
-/

namespace CurlScript.Config

open Text

/-- The file that is consulted: the explicit one, else the one that the variable names, else that of
the user if it is there, else none. -/
inductive Consulted (environment : Environment) : Option Path → Option Path → Prop
  | explicit (path : Path) : Consulted environment (some path) (some path)
  | named {value : String} (named : environment.pathVariable = some value)
      (nonempty : value ≠ "") : Consulted environment none (some (Path.ofText value))
  | ofUser {path : Path} (unnamed : environment.pathVariable.getD "" = "")
      (isPath : userPath environment.home = .ok path)
      (present : environment.tree.isFile path = .ok true) : Consulted environment none (some path)
  | nothing {path : Path} (unnamed : environment.pathVariable.getD "" = "")
      (isPath : userPath environment.home = .ok path)
      (missing : environment.tree.isFile path = .ok false) : Consulted environment none none

inductive Unlocated (environment : Environment) : Crash → Prop
  | homeless (noPath : userPath environment.home = .error .noHome) : Unlocated environment .noHome
  | tooLong {path : Path} (isPath : userPath environment.home = .ok path)
      (tooLong : environment.tree.isFile path = .error .tooLong) :
      Unlocated environment (.access .tooLong)

inductive Loads (libraries : Libraries) (tree : Tree) :
    Option Path → Entries String Yaml.Value → Prop
  | nothing : Loads libraries tree none []
  | empty {path : Path} {text : String} (present : tree.read path = .ok text)
      (read : libraries.read (withUnixLines text) = .ok (.scalar .null)) :
      Loads libraries tree (some path) []
  | mapping {path : Path} {text : String} {entries : Entries Yaml.Scalar Yaml.Value}
      (present : tree.read path = .ok text)
      (read : libraries.read (withUnixLines text) = .ok (.mapping entries))
      (known : ∀ entry ∈ entries, ∃ name ∈ Options.fieldNames, entry.1 = .text name) :
      Loads libraries tree (some path) (byName entries)

/-- The value of a field: the override unless it is null, else that of the file, else the
default. -/
def effective (file overrides : Entries String Yaml.Value) (name : String) : Yaml.Value :=
  match overrides.lookup name with
  | none | some (.scalar .null) =>
    ((file.lookup name).or (defaults.lookup name)).getD (.scalar .null)
  | some value => value

def IsOverridden (overrides : Entries String Yaml.Value) (name : String) : Prop :=
  ∃ value, overrides.lookup name = some value ∧ value ≠ .scalar .null

variable {libraries : Libraries} {environment : Environment} {explicit source : Option Path}
  {tree : Tree} {file overrides : Entries String Yaml.Value} {crash : Crash}

theorem filter_nonempty_eq_none_iff {value : Option String} :
    (value.filter fun text => !text.isEmpty) = none ↔ value.getD "" = "" := by
  cases value <;> simp

theorem path?_explicit (path : Path) : path? environment (some path) = .ok (some path) := by
  unfold path?
  cases environment.pathVariable.filter fun value => !value.isEmpty with
  | none => exact rfl
  | some value => exact rfl

theorem path?_named {value : String} (named : environment.pathVariable = some value)
    (nonempty : value ≠ "") : path? environment none = .ok (some (Path.ofText value)) := by
  have kept : environment.pathVariable.filter (fun value => !value.isEmpty) = some value := by
    simp [named, Option.filter, nonempty]
  unfold path?
  rw [kept]

theorem path?_unnamed (unnamed : environment.pathVariable.getD "" = "") :
    path? environment none = userFile? environment := by
  unfold path?
  rw [filter_nonempty_eq_none_iff.mpr unnamed]

theorem userFile?_of_path {path : Path} (isPath : userPath environment.home = .ok path) :
    userFile? environment =
      match environment.tree.isFile path with
      | .ok present => .ok (if present then some path else none)
      | .error error => .error (.access error) := by
  rw [userFile?, isPath]
  rfl

theorem userPath_error {home : String} (stopped : userPath home = .error crash) :
    crash = .noHome := by
  unfold userPath at stopped
  dsimp only at stopped
  split at stopped
  · exact (Except.error.inj stopped).symm
  · cases stopped

/-- Of all errors only a name that is too long stops the search for a file. -/
theorem isFile_error {path : Path} {error : Tree.Error}
    (stopped : tree.isFile path = .error error) : error = .tooLong := by
  unfold Tree.isFile Tree.isOfKind at stopped
  split at stopped
  · cases stopped
  · exact (Except.error.inj stopped).symm
  · cases stopped

/-- Where nothing else names a file, that of the user is there, or it is not, or this cannot be
told. -/
theorem consulted_or_unlocated (unnamed : environment.pathVariable.getD "" = "") :
    (∃ source, Consulted environment none source ∧ userFile? environment = .ok source) ∨
      ∃ crash, Unlocated environment crash ∧ userFile? environment = .error crash := by
  cases isPath : userPath environment.home with
  | error crash =>
      obtain rfl := userPath_error isPath
      exact .inr ⟨.noHome, .homeless isPath, by rw [userFile?, isPath]; rfl⟩
  | ok path =>
      rw [userFile?_of_path isPath]
      cases found : environment.tree.isFile path with
      | error error =>
          obtain rfl := isFile_error found
          exact .inr ⟨.access .tooLong, .tooLong isPath found, rfl⟩
      | ok present =>
          cases present with
          | true => exact .inl ⟨some path, .ofUser unnamed isPath found, rfl⟩
          | false => exact .inl ⟨none, .nothing unnamed isPath found, rfl⟩

theorem path?_of_consulted (consulted : Consulted environment explicit source) :
    path? environment explicit = .ok source := by
  cases consulted with
  | explicit path => exact path?_explicit path
  | named named nonempty => exact path?_named named nonempty
  | ofUser unnamed isPath present =>
      rw [path?_unnamed unnamed, userFile?_of_path isPath, present]
      rfl
  | nothing unnamed isPath missing =>
      rw [path?_unnamed unnamed, userFile?_of_path isPath, missing]
      rfl

/-- A file is consulted, or none, unless that of the user would be and cannot be told. -/
theorem path?_cases (environment : Environment) (explicit : Option Path) :
    (∃ source, Consulted environment explicit source) ∨
      (explicit = none ∧ environment.pathVariable.getD "" = "" ∧
        ∃ crash, Unlocated environment crash ∧ path? environment explicit = .error crash) := by
  cases explicit with
  | some path => exact .inl ⟨some path, .explicit path⟩
  | none =>
      by_cases unnamed : environment.pathVariable.getD "" = ""
      · rw [path?_unnamed unnamed]
        obtain ⟨source, consulted, -⟩ | unlocated := consulted_or_unlocated unnamed
        · exact .inl ⟨source, consulted⟩
        · exact .inr ⟨rfl, unnamed, unlocated⟩
      · cases named : environment.pathVariable with
        | none => simp [named] at unnamed
        | some value =>
            have nonempty : value ≠ "" := by simpa [named] using unnamed
            exact .inl ⟨_, .named named nonempty⟩

theorem Consulted.unique {other : Option Path} (consulted : Consulted environment explicit source)
    (consultedToo : Consulted environment explicit other) : other = source := by
  have same := (path?_of_consulted consultedToo).symm.trans (path?_of_consulted consulted)
  exact Except.ok.inj same

theorem isKnown_iff (key : Yaml.Scalar) :
    isKnown key = true ↔ ∃ name ∈ Options.fieldNames, key = .text name := by
  cases key <;> simp [isKnown]

theorem filter_not_isKnown_eq_nil_iff {entries : Entries Yaml.Scalar Yaml.Value} :
    (entries.map (·.1)).filter (fun key => !isKnown key) = [] ↔
      ∀ entry ∈ entries, ∃ name ∈ Options.fieldNames, entry.1 = .text name := by
  simp only [List.filter_eq_nil_iff, List.forall_mem_map, Bool.not_eq_true', Bool.not_eq_false,
    isKnown_iff]

theorem ofValue_mapping_eq_ok_iff {path : Path} {entries loaded : Entries Yaml.Scalar Yaml.Value} :
    ofValue path (.mapping entries) = .ok loaded ↔
      (∀ entry ∈ entries, ∃ name ∈ Options.fieldNames, entry.1 = .text name) ∧
        entries = loaded := by
  rw [ofValue, ← filter_not_isKnown_eq_nil_iff]
  split
  · rename_i known
    rw [known, Except.ok.injEq]
    exact (and_iff_right rfl).symm
  · rename_i unknown some
    refine iff_of_false ?_ fun both => some both.1
    split
    · split <;> exact nofun
    · exact nofun

theorem ofValue_scalar_eq_ok_iff {path : Path} {value : Yaml.Scalar}
    {loaded : Entries Yaml.Scalar Yaml.Value} :
    ofValue path (.scalar value) = .ok loaded ↔ value = .null ∧ loaded = [] := by
  cases value with
  | null => simp [ofValue, eq_comm]
  | _ => simp [ofValue]

theorem load_eq_ok {path : Path} {loaded : Entries Yaml.Scalar Yaml.Value}
    (done : load libraries tree path = .ok loaded) :
    Loads libraries tree (some path) (byName loaded) := by
  unfold load at done
  split at done
  · cases done
  · cases done
  · rename_i text present
    split at done
    · rename_i value read
      cases value with
      | scalar value =>
          obtain ⟨rfl, rfl⟩ := ofValue_scalar_eq_ok_iff.mp done
          exact .empty present read
      | mapping entries =>
          obtain ⟨known, rfl⟩ := ofValue_mapping_eq_ok_iff.mp done
          exact .mapping present read known
      | list items => cases done
    · cases done
    · cases done

theorem load_of_loads {path : Path} (loads : Loads libraries tree (some path) file) :
    (load libraries tree path).map byName = .ok file := by
  cases loads with
  | empty present read => simp [load, present, read, ofValue, Except.map, byName]
  | mapping present read known =>
      simp only [load, present, read, ofValue_mapping_eq_ok_iff.mpr ⟨known, rfl⟩, Except.map]

theorem fileValues_eq_ok_iff (consulted : Consulted environment explicit source) :
    fileValues libraries environment explicit = .ok file ↔
      Loads libraries environment.tree source file := by
  rw [fileValues, path?_of_consulted consulted]
  cases source with
  | some path =>
      refine ⟨fun loaded => ?_, load_of_loads⟩
      dsimp only at loaded
      cases done : load libraries environment.tree path with
      | error error => simp [done, Except.map] at loaded
      | ok entries =>
          rw [done] at loaded
          exact Except.ok.inj loaded ▸ load_eq_ok done
  | none =>
      constructor
      · intro loaded
        obtain rfl : [] = file := Except.ok.inj loaded
        exact .nothing
      · rintro ⟨⟩
        rfl

theorem keys_byName (entries : Entries Yaml.Scalar Yaml.Value) :
    Entries.keys (byName entries) = entries.map fun entry => entry.1.shown := by
  simp [Entries.keys, byName, Function.comp_def]

theorem keys_nodup_of_loads (apart : libraries.KeepsKeysApart)
    (loads : Loads libraries tree source file) : (Entries.keys file).Nodup := by
  cases loads with
  | nothing => exact List.nodup_nil
  | empty => exact List.nodup_nil
  | mapping present read known =>
      rw [keys_byName]
      exact Yaml.nodup_shown_of_apart (apart read)
        fun entry member => (known entry member).imp fun _ isName => isName.2

theorem keys_subset_of_loads (loads : Loads libraries tree source file) :
    Entries.keys file ⊆ Options.fieldNames := by
  cases loads with
  | nothing => exact List.nil_subset _
  | empty => exact List.nil_subset _
  | mapping present read known =>
      intro key member
      simp only [keys_byName, List.mem_map] at member
      obtain ⟨entry, belongs, rfl⟩ := member
      obtain ⟨name, isName, isKey⟩ := known entry belongs
      rwa [isKey]

theorem isGiven_iff (value : Yaml.Value) : isGiven value = true ↔ value ≠ .scalar .null := by
  unfold isGiven
  split
  · simp
  · rename_i notNull
    exact iff_of_true rfl notNull

/-- The first value that there is: of the overrides that are given, of the file, of the defaults. -/
theorem effective_eq (file overrides : Entries String Yaml.Value) (name : String) :
    effective file overrides name =
      (((overrides.lookup name).filter isGiven).or
        ((file.lookup name).or (defaults.lookup name))).getD (.scalar .null) := by
  unfold effective
  split
  · rename_i missing
    rw [missing]
    rfl
  · rename_i isNull
    rw [isNull]
    rfl
  · rename_i value notNull found
    have valueGiven : isGiven value = true := (isGiven_iff value).mpr notNull
    rw [found, Option.filter, if_pos valueGiven, Option.some_or, Option.getD_some]

section Merge

variable (distinct : (Entries.keys overrides).Nodup)
include distinct

theorem lookup_given (name : String) :
    (given overrides).lookup name = (overrides.lookup name).filter isGiven :=
  Entries.lookup_filter distinct fun entry => isGiven entry.2

theorem mem_keys_given_iff (name : String) :
    name ∈ Entries.keys (given overrides) ↔ IsOverridden overrides name := by
  rw [← not_iff_not, ← Entries.lookup_eq_none_iff, lookup_given distinct, IsOverridden]
  cases overrides.lookup name with
  | none => simp
  | some value => simp [Option.filter, ← isGiven_iff]

theorem keys_nodup_given : (Entries.keys (given overrides)).Nodup :=
  distinct.sublist (List.filter_sublist.map Prod.fst)

/-- What the merged sources hold for a name. -/
theorem lookup_merge (fileDistinct : (Entries.keys file).Nodup) (name : String) :
    (merge file overrides).lookup name =
      ((overrides.lookup name).filter isGiven).or
        ((file.lookup name).or (defaults.lookup name)) := by
  rw [merge, Entries.lookup_insertAll (keys_nodup_given distinct),
    Entries.lookup_insertAll fileDistinct, lookup_given distinct]

theorem lookup_merge_of_field (fileDistinct : (Entries.keys file).Nodup) {name : String}
    (isField : name ∈ Options.fieldNames) :
    (merge file overrides).lookup name = some (effective file overrides name) := by
  have haveDefaults : ∀ name ∈ Options.fieldNames, (defaults.lookup name).isSome := by decide
  obtain ⟨value, isDefault⟩ := Option.isSome_iff_exists.mp (haveDefaults name isField)
  rw [lookup_merge distinct fileDistinct, effective_eq, isDefault]
  cases (overrides.lookup name).filter isGiven <;> cases file.lookup name <;> rfl

theorem keys_merge_iff (fileKnown : Entries.keys file ⊆ Options.fieldNames) :
    (∀ field ∈ merge file overrides, field.1 ∈ Options.fieldNames) ↔
      ∀ name, IsOverridden overrides name → name ∈ Options.fieldNames := by
  have defaultKeys : Entries.keys defaults = Options.fieldNames := rfl
  have keys (name : String) : name ∈ Entries.keys (merge file overrides) ↔
      IsOverridden overrides name ∨ name ∈ Options.fieldNames := by
    rw [merge, Entries.mem_keys_insertAll, mem_keys_given_iff distinct,
      Entries.keys_insertAll_of_subset (defaultKeys ▸ fileKnown), defaultKeys]
  have fields : (∀ field ∈ merge file overrides, field.1 ∈ Options.fieldNames) ↔
      ∀ name ∈ Entries.keys (merge file overrides), name ∈ Options.fieldNames := by
    simp [Entries.keys]
  rw [fields]
  exact ⟨fun all name overridden => all name ((keys name).mpr (.inl overridden)),
    fun all name member => ((keys name).mp member).elim (all name) id⟩

omit distinct in
theorem keys_nodup_merge : (Entries.keys (merge file overrides)).Nodup :=
  Entries.keys_nodup_insertAll (Entries.keys_nodup_insertAll (by decide))

/-- Files that differ only in values that are overridden give the same values. -/
theorem merge_congr {other : Entries String Yaml.Value}
    (fileDistinct : (Entries.keys file).Nodup) (otherDistinct : (Entries.keys other).Nodup)
    (fileKnown : Entries.keys file ⊆ Options.fieldNames)
    (otherKnown : Entries.keys other ⊆ Options.fieldNames)
    (same : ∀ name ∈ Options.fieldNames, ¬IsOverridden overrides name →
      file.lookup name = other.lookup name) :
    merge file overrides = merge other overrides := by
  have defaultKeys : Entries.keys defaults = Options.fieldNames := rfl
  apply Entries.ext_lookup
  · exact keys_nodup_merge
  · apply Entries.keys_insertAll_congr
    rw [Entries.keys_insertAll_of_subset (defaultKeys ▸ fileKnown),
      Entries.keys_insertAll_of_subset (defaultKeys ▸ otherKnown)]
  · intro name
    rw [lookup_merge distinct fileDistinct, lookup_merge distinct otherDistinct]
    by_cases overridden : IsOverridden overrides name
    · obtain ⟨value, found, notNull⟩ := overridden
      rw [found, Option.filter, if_pos ((isGiven_iff value).mpr notNull), Option.some_or,
        Option.some_or]
    · by_cases isField : name ∈ Options.fieldNames
      · rw [same name isField overridden]
      · rw [Entries.lookup_eq_none_iff.mpr fun member => isField (fileKnown member),
          Entries.lookup_eq_none_iff.mpr fun member => isField (otherKnown member)]

/-- Merged fields are options exactly if they have known names and each of them can be read. -/
theorem make_merge_eq_ok_iff (apart : libraries.KeepsKeysApart) (checks : libraries.ChecksFields)
    (loads : Loads libraries tree source file) (options : Options) :
    libraries.make (merge file overrides) = .ok options ↔
      (∀ name, IsOverridden overrides name → name ∈ Options.fieldNames) ∧
        ReadFrom libraries options (effective file overrides) := by
  rw [← keys_merge_iff distinct (keys_subset_of_loads loads)]
  exact checks keys_nodup_merge
    (fun name isField => lookup_merge_of_field distinct (keys_nodup_of_loads apart loads) isField)
    options

end Merge

theorem fileValues_congr {elsewhere : Environment} {explicitThere : Option Path}
    (here : Consulted environment explicit source)
    (there : Consulted elsewhere explicitThere source)
    (same : ∀ path ∈ source, elsewhere.tree.read path = environment.tree.read path) :
    fileValues libraries elsewhere explicitThere = fileValues libraries environment explicit := by
  rw [fileValues, fileValues, path?_of_consulted here, path?_of_consulted there]
  cases source with
  | none => rfl
  | some path =>
      have loaded : load libraries elsewhere.tree path = load libraries environment.tree path := by
        rw [load, load, same path rfl]
      dsimp only
      rw [loaded]

theorem resolve_of_fileValues (loaded : fileValues libraries environment explicit = .ok file) :
    resolve libraries environment overrides explicit =
      (libraries.make (merge file overrides)).mapError .invalid := by
  simp only [resolve, loaded, bind, Except.bind]
  cases libraries.make (merge file overrides) <;> rfl

theorem mapError_eq_ok_iff {ε δ α : Type} {f : ε → δ} {result : Except ε α} {value : α} :
    result.mapError f = .ok value ↔ result = .ok value := by
  cases result <;> simp [Except.mapError]

structure Precedence (libraries : Libraries) (environment : Environment) (explicit : Option Path)
    (overrides : Entries String Yaml.Value) (source : Option Path) : Prop where
  /-- The source is the first of those that there are. -/
  consulted : Consulted environment explicit source
  only : ∀ other, Consulted environment explicit other → other = source
  /-- No other file, and nothing else about the environment, has an influence. -/
  decides : ∀ (elsewhere : Environment) (explicitThere : Option Path),
    Consulted elsewhere explicitThere source →
    (∀ path ∈ source, elsewhere.tree.read path = environment.tree.read path) →
    resolve libraries elsewhere overrides explicitThere =
      resolve libraries environment overrides explicit
  /-- The merged fields are what is checked, and this is the value of each of them. -/
  reaches : ∀ file, Loads libraries environment.tree source file →
    resolve libraries environment overrides explicit =
      (libraries.make (merge file overrides)).mapError .invalid ∧
    ∀ name ∈ Options.fieldNames,
      (merge file overrides).lookup name = some (effective file overrides name)
  /-- There are options exactly if the file loads, no unknown name is overridden and the value of
  each field is valid. -/
  resolves : ∀ options, resolve libraries environment overrides explicit = .ok options ↔
    ∃ file, Loads libraries environment.tree source file ∧
      (∀ name, IsOverridden overrides name → name ∈ Options.fieldNames) ∧
      ReadFrom libraries options (effective file overrides)
  /-- What the file holds for a field that is overridden has no effect. -/
  overridden : ∀ (elsewhere : Environment) (explicitThere sourceThere : Option Path)
    (file other : Entries String Yaml.Value), Consulted elsewhere explicitThere sourceThere →
    Loads libraries environment.tree source file →
    Loads libraries elsewhere.tree sourceThere other →
    (∀ name ∈ Options.fieldNames, ¬IsOverridden overrides name →
      file.lookup name = other.lookup name) →
    resolve libraries elsewhere overrides explicitThere =
      resolve libraries environment overrides explicit

theorem resolve_eq_ok_iff (apart : libraries.KeepsKeysApart) (checks : libraries.ChecksFields)
    (distinct : (Entries.keys overrides).Nodup)
    (consulted : Consulted environment explicit source) (options : Options) :
    resolve libraries environment overrides explicit = .ok options ↔
      ∃ file, Loads libraries environment.tree source file ∧
        (∀ name, IsOverridden overrides name → name ∈ Options.fieldNames) ∧
        ReadFrom libraries options (effective file overrides) := by
  constructor
  · intro resolved
    cases loaded : fileValues libraries environment explicit with
    | error error =>
        simp only [resolve, loaded, bind, Except.bind] at resolved
        cases resolved
    | ok file =>
        have loads := (fileValues_eq_ok_iff consulted).mp loaded
        rw [resolve_of_fileValues loaded, mapError_eq_ok_iff,
          make_merge_eq_ok_iff distinct apart checks loads] at resolved
        exact ⟨file, loads, resolved⟩
  · rintro ⟨file, loads, valid⟩
    rw [resolve_of_fileValues ((fileValues_eq_ok_iff consulted).mpr loads), mapError_eq_ok_iff,
      make_merge_eq_ok_iff distinct apart checks loads]
    exact valid

theorem precedence_of_consulted (apart : libraries.KeepsKeysApart)
    (checks : libraries.ChecksFields) (distinct : (Entries.keys overrides).Nodup)
    (consulted : Consulted environment explicit source) :
    Precedence libraries environment explicit overrides source where
  consulted := consulted
  only other consultedToo := consulted.unique consultedToo
  decides elsewhere explicitThere there same := by
    simp only [resolve, fileValues_congr consulted there same]
  reaches file loads := ⟨resolve_of_fileValues ((fileValues_eq_ok_iff consulted).mpr loads),
    fun _ isField => lookup_merge_of_field distinct (keys_nodup_of_loads apart loads) isField⟩
  resolves := resolve_eq_ok_iff apart checks distinct consulted
  overridden elsewhere explicitThere sourceThere file other there loads loadsThere same := by
    have merged : merge file overrides = merge other overrides :=
      merge_congr distinct (keys_nodup_of_loads apart loads)
        (keys_nodup_of_loads apart loadsThere) (keys_subset_of_loads loads)
        (keys_subset_of_loads loadsThere) same
    rw [resolve_of_fileValues ((fileValues_eq_ok_iff consulted).mpr loads),
      resolve_of_fileValues ((fileValues_eq_ok_iff there).mpr loadsThere), merged]

/-- Options take precedence field by field: the override, then the consulted file, then the
default. Only where the file of the user would be consulted, and it cannot be told whether it is
there, is there no source. -/
theorem exists_precedence (apart : libraries.KeepsKeysApart) (checks : libraries.ChecksFields)
    (environment : Environment) (explicit : Option Path) {overrides : Entries String Yaml.Value}
    (distinct : (Entries.keys overrides).Nodup) :
    (∃ source, Precedence libraries environment explicit overrides source) ∨
      (explicit = none ∧ environment.pathVariable.getD "" = "" ∧
        ∃ crash, Unlocated environment crash ∧
          resolve libraries environment overrides explicit = .error (.crash crash)) := by
  obtain ⟨source, consulted⟩ | ⟨noPath, unnamed, crash, unlocated, stopped⟩ :=
    path?_cases environment explicit
  · exact .inl ⟨source, precedence_of_consulted apart checks distinct consulted⟩
  · refine .inr ⟨noPath, unnamed, crash, unlocated, ?_⟩
    simp only [resolve, fileValues, stopped, bind, Except.bind]

def namedFile : Environment where
  tree := { entries := [(["c.yaml"], .file "use_session: 3\nlibrary: aiohttp\n")] }
  pathVariable := some "c.yaml"
  home := "/home"

def sessionOverride : Entries String Yaml.Value :=
  [("use_session", .scalar (.bool true)), ("wrap_async", .scalar .null)]

theorem exists_precedence_namedFile :
    builtin.KeepsKeysApart ∧ builtin.ChecksFields ∧ (Entries.keys sessionOverride).Nodup ∧
      (∃ source, Precedence builtin namedFile none sessionOverride source) ∧
      resolve builtin namedFile sessionOverride none =
        .ok ⟨⟨true, true, false, true⟩, .aiohttp⟩ := by
  have distinct : (Entries.keys sessionOverride).Nodup := by decide
  refine ⟨keepsKeysApart_builtin, checksFields_builtin, distinct, ?_, by decide +kernel⟩
  obtain precedence | ⟨-, unnamed, -⟩ :=
    exists_precedence keepsKeysApart_builtin checksFields_builtin namedFile none distinct
  · exact precedence
  · exact absurd unnamed (by decide)

end CurlScript.Config
