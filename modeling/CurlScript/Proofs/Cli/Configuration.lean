import CurlScript.Proofs.Cli.Delivery
import CurlScript.Proofs.Config.Report

/-!
What a conversion makes of a bad configuration file: an error line and the exit code one, if the
file can be reported at all.
-/

namespace CurlScript.Cli

open CurlScript.Text (withUnixLines isBlankText)

def Libraries.ReportsFailures (libraries : Libraries) : Prop :=
  ∀ message, libraries.failureReport message = "Error: " ++ message ++ "\n"

variable {libraries : Libraries} {world : World} {conversion : Conversion} {path : Path}
  {text : String} {value : Yaml.Value} {error : Config.Error}

structure Starts (world : World) (conversion : Conversion) : Prop where
  oneSource : conversion.sources ≤ 1
  hasText : ∃ raw, conversion.text world = .ok raw ∧ isBlankText raw = false

def EndsWithError (libraries : Libraries) (world : World) (conversion : Conversion)
    (message : String) : Prop :=
  ending libraries (.ok conversion) world =
    .ok { exit := 1, stdout := libraries.printed "",
          stderr := libraries.printed ("Error: " ++ message ++ "\n"), tree := world.tree }

def Crashes (libraries : Libraries) (world : World) (conversion : Conversion) : Prop :=
  ∃ crash, ending libraries (.ok conversion) world = .error ⟨crash, world.tree⟩

theorem convert_of_starts (libraries : Libraries) (starts : Starts world conversion) :
    ∃ raw, convert libraries conversion world = convertText libraries conversion world raw := by
  obtain ⟨raw, text, notBlank⟩ := starts.hasText
  refine ⟨raw, ?_⟩
  rw [convert, if_neg (Nat.not_lt.mpr starts.oneSource), text]
  dsimp only
  rw [notBlank, if_neg Bool.false_ne_true]

theorem endsWithError_of_resolve (reports : libraries.ReportsFailures)
    (starts : Starts world conversion)
    (stopped : Config.resolve libraries.toLibraries world.toEnvironment conversion.overrides
      conversion.config = .error error) (reported : ∀ crash, error ≠ .crash crash) :
    EndsWithError libraries world conversion error.message := by
  obtain ⟨raw, run⟩ := convert_of_starts libraries starts
  have ended : convertText libraries conversion world raw =
      .ok (failed libraries world.tree "" error.message) := by
    rw [convertText, stopped]
    cases error with
    | crash crash => exact absurd rfl (reported crash)
    | _ => rfl
  rw [EndsWithError, ending_ok, run, ended]
  simp [Except.map, failed, Outcome.printedBy, reports error.message]

theorem crashes_of_resolve (starts : Starts world conversion) {crash : Crash}
    (stopped : Config.resolve libraries.toLibraries world.toEnvironment conversion.overrides
      conversion.config = .error (.crash crash)) : Crashes libraries world conversion := by
  obtain ⟨raw, run⟩ := convert_of_starts libraries starts
  refine ⟨crash, ?_⟩
  rw [ending_ok, run, convertText, stopped]
  rfl

/-- What a run makes of the configuration file that it consults and that holds `value`. -/
structure Handles (libraries : Libraries) (world : World) (conversion : Conversion) (path : Path)
    (value : Yaml.Value) : Prop where
  reported : Config.Bad value → Config.Reportable value →
    ∃ error, Config.Reports path value (.error error) ∧
      EndsWithError libraries world conversion error.message
  crashes : ¬Config.Reportable value → Crashes libraries world conversion
  /-- Known names with values that are no options are reported always. -/
  invalid : ∀ entries report,
    Config.load libraries.toLibraries world.tree path = .ok entries →
    libraries.make (Config.merge (Config.byName entries) conversion.overrides) = .error report →
    EndsWithError libraries world conversion (Config.Error.invalid report).message

/-- A configuration file is loaded or reported exactly if its unknown keys are of one kind and can
be written out. A run that consults a bad file then ends with an error line, else it crashes. -/
theorem bad_configuration_reported (apart : libraries.toLibraries.KeepsKeysApart)
    (reports : libraries.ReportsFailures) (present : world.tree.read path = .ok text)
    (read : libraries.read (withUnixLines text) = .ok value) :
    (Config.Reports path value (Config.load libraries.toLibraries world.tree path) ↔
      Config.Reportable value) ∧
    ∀ conversion, Starts world conversion →
      Config.Consulted world.toEnvironment conversion.config (some path) →
      Handles libraries world conversion path value := by
  have either := Config.reportsOrStops_load present read apart
  refine ⟨either.reports_iff, fun conversion starts consulted => ⟨?_, ?_, ?_⟩⟩
  · intro bad reportable
    have isReport := either.reports_iff.mpr reportable
    obtain ⟨error, failed⟩ := Config.exists_error_of_bad bad isReport
    rw [failed] at isReport
    refine ⟨error, isReport, endsWithError_of_resolve reports starts
      (Config.resolve_of_load_error consulted failed) ?_⟩
    intro crash isCrash
    rw [isCrash] at isReport
    exact Config.not_reports_crash crash isReport
  · intro unreportable
    obtain ⟨reportable, -⟩ | ⟨-, crash, stopped⟩ := either
    · exact absurd reportable unreportable
    · exact crashes_of_resolve starts (Config.resolve_of_load_error consulted stopped)
  · intro entries report loaded invalid
    exact endsWithError_of_resolve reports starts
      (Config.resolve_of_invalid consulted loaded invalid) fun crash => Config.Error.noConfusion

theorem reportsFailures_builtin : builtin.ReportsFailures :=
  fun _ => rfl

def configured (text : String) : World where
  tree := { entries := [(["c.yaml"], .file text)] }
  home := "/home"

def twoNames : String :=
  "theme: dark\nlibrary: httpx_sync\nmode: 1\n"

def twoKinds : String :=
  "1: a\nx: b\n"

def withConfig : Conversion where
  command := some "curl http://a"
  config := some (.ofText "c.yaml")

/-- The keys that have been read are those of a mapping. -/
theorem exists_mapping_of_keys {result : Except Config.ReadError Yaml.Value}
    {keys : List Yaml.Scalar}
    (found : (result.toOption.bind Yaml.Value.entries?).map (fun entries => entries.map (·.1)) =
      some keys) :
    ∃ entries, result = .ok (.mapping entries) ∧ entries.map (·.1) = keys := by
  simp only [Option.map_eq_some_iff, Option.bind_eq_some_iff] at found
  obtain ⟨entries, ⟨value, isValue, isMapping⟩, isKeys⟩ := found
  cases result with
  | error error => cases isValue
  | ok other =>
      obtain rfl : other = value := Option.some.inj isValue
      cases other with
      | mapping others =>
          obtain rfl : others = entries := Option.some.inj isMapping
          exact ⟨others, rfl, isKeys⟩
      | _ => cases isMapping

theorem unknownKeys_of_keys {entries : Entries Yaml.Scalar Yaml.Value} {keys : List Yaml.Scalar}
    (isKeys : entries.map (·.1) = keys) :
    Config.unknownKeys (.mapping entries) = keys.filter fun key => !Config.isKnown key := by
  rw [Config.unknownKeys, isKeys]

/-- Two unknown names beside a known one. -/
theorem bad_configuration_reported_twoNames :
    let world := configured twoNames
    let path := Path.ofText "c.yaml"
    builtin.toLibraries.KeepsKeysApart ∧ builtin.ReportsFailures ∧
      world.tree.read path = .ok twoNames ∧ Starts world withConfig ∧
      Config.Consulted world.toEnvironment withConfig.config (some path) ∧
      ∃ value, builtin.read (withUnixLines twoNames) = .ok value ∧ Config.Bad value ∧
        Config.Reportable value ∧
        Config.Reports path value (Config.load builtin.toLibraries world.tree path) ∧
        ∃ error, Config.Reports path value (.error error) ∧
          EndsWithError builtin world withConfig error.message := by
  intro world path
  have present : world.tree.read path = .ok twoNames := by decide +kernel
  have starts : Starts world withConfig := ⟨by decide, "curl http://a", rfl, by decide +kernel⟩
  have consulted : Config.Consulted world.toEnvironment withConfig.config (some path) :=
    .explicit path
  obtain ⟨entries, read, isKeys⟩ := @exists_mapping_of_keys (builtin.read (withUnixLines twoNames))
    [.text "theme", .text "library", .text "mode"] (by decide +kernel)
  have unknown : Config.unknownKeys (.mapping entries) = [.text "theme", .text "mode"] := by
    rw [unknownKeys_of_keys isKeys]
    decide
  have bad : Config.Bad (.mapping entries) := ⟨nofun, fun _ _ => by simp [unknown]⟩
  have reportable : Config.Reportable (.mapping entries) := by
    simp [Config.Reportable, unknown, Config.OfOneKind, Config.kind?, Config.isOversized]
  have reported := bad_configuration_reported Config.keepsKeysApart_builtin
    reportsFailures_builtin present read
  exact ⟨Config.keepsKeysApart_builtin, reportsFailures_builtin, present, starts, consulted,
    .mapping entries, read, bad, reportable, reported.1.mpr reportable,
    (reported.2 withConfig starts consulted).reported bad reportable⟩

/-- A number and a text have no order: the file is bad, and the run crashes. -/
theorem mixed_keys_crash :
    let world := configured twoKinds
    world.tree.read (.ofText "c.yaml") = .ok twoKinds ∧
      (∃ value, builtin.read (withUnixLines twoKinds) = .ok value ∧ Config.Bad value) ∧
      ending builtin (.ok withConfig) world = .error ⟨.unorderedKeys, world.tree⟩ := by
  intro world
  obtain ⟨entries, read, isKeys⟩ := @exists_mapping_of_keys (builtin.read (withUnixLines twoKinds))
    [.int 1, .text "x"] (by decide +kernel)
  have unknown : Config.unknownKeys (.mapping entries) = [.int 1, .text "x"] := by
    rw [unknownKeys_of_keys isKeys]
    decide
  exact ⟨by decide +kernel, ⟨.mapping entries, read, nofun, fun _ _ => by simp [unknown]⟩,
    by decide +kernel⟩

end CurlScript.Cli
