import CurlScript.Cli.Builtin
import CurlScript.Proofs.Script.Validation
import CurlScript.Proofs.Text.ControlSequence
import CurlScript.Proofs.Tree.Files

/-!
What a conversion leaves behind: a script on the standard output or at one path, and no file at all
if it fails, but for a script that has no encoding: the file for it is emptied first.
-/

namespace CurlScript.Cli

open CurlScript.Tree (SameFiles Wrote)

def Libraries.PrintsPlain (libraries : Libraries) : Prop :=
  ∀ text : String, '\x1b' ∉ text.toList → libraries.printed text = text

variable {libraries : Libraries} {world : World} {parsed : Parsed} {conversion : Conversion}
  {options : Options} {script : Script.Rendered} {name note : String} {tree after : Tree}
  {path target : Path} {outcome : Outcome} {crash : Crash}

theorem encoded_of_encodes (encodes : script.encodes = true) :
    script.encoded = .ok script.text := by
  rw [Script.Rendered.encoded, if_pos encodes]

theorem encoded_of_not_encodes (noEncoding : script.encodes = false) :
    script.encoded = .error .noEncoding := by
  rw [Script.Rendered.encoded, if_neg (by simp [noEncoding])]

def IsTarget (tree : Tree) (path : Path) (name : String) (target : Path) : Prop :=
  ∃ isDirectory, tree.isDirectory path = .ok isDirectory ∧
    target = if isDirectory then path.child name else path

def writtenText (script : Script.Rendered) : String :=
  if script.encodes then script.text else ""

theorem getD_encoded : script.encoded.toOption.getD "" = writtenText script := by
  unfold Script.Rendered.encoded writtenText
  split <;> rfl

/-- A script is written to its target or, if an error stops this, to no file. -/
theorem save_cases (tree : Tree) (path : Path) (name : String) (script : Script.Rendered) :
    (∃ target after,
      save tree path name script = (script.encoded.map fun _ => target, after) ∧
      IsTarget tree path name target ∧ Wrote tree after target (writtenText script)) ∨
    ∃ error after, save tree path name script = (.error (.access error), after) ∧
      SameFiles after tree := by
  unfold save
  cases found : tree.isDirectory path with
  | error error => exact .inr ⟨error, tree, rfl, .refl tree⟩
  | ok isDirectory =>
      dsimp only
      generalize isTarget : (if isDirectory then path.child name else path) = target
      have sameFiles := Tree.sameFiles_makeDirectories tree target.root target.parent.names.reverse
      split
      · rename_i around error stopped
        rw [stopped] at sameFiles
        exact .inr ⟨error, around, rfl, sameFiles⟩
      · rename_i around made
        rw [made] at sameFiles
        rw [getD_encoded]
        cases written : around.write target (writtenText script) with
        | error error => exact .inr ⟨error, around, rfl, sameFiles⟩
        | ok after =>
            exact .inl ⟨target, after, rfl, ⟨isDirectory, found, isTarget.symm⟩,
              (Tree.wrote_write written).of_sameFiles sameFiles⟩

structure Generates (libraries : Libraries) (world : World) (conversion : Conversion)
    (options : Options) (script : Script.Rendered) : Prop where
  oneSource : conversion.sources ≤ 1
  resolved : Config.resolve libraries.toLibraries world.toEnvironment conversion.overrides
    conversion.config = .ok options
  generated : ∃ raw request, conversion.text world = .ok raw ∧ Text.isBlankText raw = false ∧
    Command.parse libraries.construct raw = .ok request ∧
    Script.rendered request options = script

def Passes (libraries : Libraries) (conversion : Conversion) (name : String)
    (script : Script.Rendered) : Prop :=
  conversion.check = true → script.encodes = true ∧
    Script.validate libraries.compile [(name, script.text)] = .ok []

theorem syntaxErrors_eq_nil_iff :
    syntaxErrors libraries conversion name script = .ok [] ↔
      Passes libraries conversion name script := by
  unfold syntaxErrors Passes
  cases conversion.check with
  | false => simp
  | true =>
      cases encodes : script.encodes with
      | false => simp [encoded_of_not_encodes encodes, bind, Except.bind]
      | true => simp [encoded_of_encodes encodes, bind, Except.bind]

theorem convertText_of_generates {raw : String} {request : Request}
    (resolved : Config.resolve libraries.toLibraries world.toEnvironment conversion.overrides
      conversion.config = .ok options)
    (parses : Command.parse libraries.construct raw = .ok request)
    (passes : Passes libraries conversion options.library.fileName
      (Script.rendered request options)) :
    convertText libraries conversion world raw =
      deliver conversion world.tree (conversion.note options.library) options.library.fileName
        (Script.rendered request options) := by
  simp only [convertText, resolved, parses, convertRequest, syntaxErrors_eq_nil_iff.mpr passes]

theorem convert_of_generates (generates : Generates libraries world conversion options script)
    (passes : Passes libraries conversion options.library.fileName script) :
    convert libraries conversion world =
      deliver conversion world.tree (conversion.note options.library) options.library.fileName
        script := by
  obtain ⟨raw, request, text, notBlank, parses, rfl⟩ := generates.generated
  rw [convert, if_neg (Nat.not_lt.mpr generates.oneSource), text]
  dsimp only
  rw [notBlank, if_neg Bool.false_ne_true]
  exact convertText_of_generates generates.resolved parses passes

inductive Fails (tree : Tree) : Result → Prop where
  | crash (crash : Crash) : Fails tree (.error ⟨crash, tree⟩)
  | exit {ended : Outcome} : ended.exit ≠ 0 → ended.tree = tree → Fails tree (.ok ended)

theorem fails_misused (message : String) : Fails tree (.ok (misused libraries tree message)) :=
  .exit (Nat.succ_ne_zero 1) rfl

theorem fails_failed (stderr message : String) :
    Fails tree (.ok (failed libraries tree stderr message)) :=
  .exit (Nat.succ_ne_zero 0) rfl

theorem convertRequest_cases (libraries : Libraries) (conversion : Conversion) (world : World)
    (options : Options) (request : Request) :
    Passes libraries conversion options.library.fileName (Script.rendered request options) ∨
      Fails world.tree (convertRequest libraries conversion world options request) := by
  unfold convertRequest
  dsimp only
  split
  · exact .inr (.crash _)
  · exact .inl (syntaxErrors_eq_nil_iff.mp ‹_›)
  · exact .inr (fails_failed _ _)

theorem convertText_cases (libraries : Libraries) (conversion : Conversion) (world : World)
    (raw : String) :
    (∃ options request,
      Config.resolve libraries.toLibraries world.toEnvironment conversion.overrides
        conversion.config = .ok options ∧
      Command.parse libraries.construct raw = .ok request ∧
      Passes libraries conversion options.library.fileName (Script.rendered request options)) ∨
    Fails world.tree (convertText libraries conversion world raw) := by
  unfold convertText
  split
  · exact .inr (.crash _)
  · exact .inr (fails_failed _ _)
  · rename_i options resolved
    split
    · exact .inr (.crash _)
    · exact .inr (fails_failed _ _)
    · rename_i request parses
      obtain passes | fails := convertRequest_cases libraries conversion world options request
      · exact .inl ⟨options, request, resolved, parses, passes⟩
      · exact .inr fails

/-- A conversion goes through or fails. -/
theorem convert_cases (libraries : Libraries) (conversion : Conversion) (world : World) :
    (∃ options script, Generates libraries world conversion options script ∧
      Passes libraries conversion options.library.fileName script) ∨
    Fails world.tree (convert libraries conversion world) := by
  unfold convert
  split
  · exact .inr (fails_misused _)
  · rename_i oneSource
    split
    · exact .inr (.crash _)
    · rename_i raw text
      split
      · exact .inr (fails_misused _)
      · rename_i notBlank
        obtain ⟨options, request, resolved, parses, passes⟩ | fails :=
          convertText_cases libraries conversion world raw
        · exact .inl ⟨options, _, ⟨Nat.le_of_not_lt oneSource, resolved,
            ⟨raw, request, text, by simpa using notBlank, parses, rfl⟩⟩, passes⟩
        · exact .inr fails

def Conversion.toStandardOutput (conversion : Conversion) : Conversion :=
  { conversion with output := none }

theorem Generates.toStandardOutput
    (generates : Generates libraries world conversion options script) :
    Generates libraries world conversion.toStandardOutput options script :=
  ⟨generates.oneSource, generates.resolved, generates.generated⟩

theorem deliver_none (nothing : conversion.output = none) (encodes : script.encodes = true) :
    deliver conversion tree note name script =
      .ok { stdout := script.text, stderr := note, tree } := by
  rw [deliver, nothing]
  simp only [encoded_of_encodes encodes]

theorem deliver_none_of_not_encodes (nothing : conversion.output = none)
    (noEncoding : script.encodes = false) :
    deliver conversion tree note name script = .error ⟨.noEncoding, tree⟩ := by
  rw [deliver, nothing]
  simp only [encoded_of_not_encodes noEncoding]

/-- A script is delivered to its target, or it has no encoding and leaves an empty file there, or an
error keeps it from being written. -/
theorem deliver_cases (output : conversion.output = some path) :
    (∃ target after, IsTarget tree path name target ∧ script.encodes = true ∧
      Wrote tree after target script.text ∧
      deliver conversion tree note name script =
        .ok { stderr := note ++ "Saved " ++ target.text ++ "\n", tree := after }) ∨
    (∃ target after, IsTarget tree path name target ∧ script.encodes = false ∧
      Wrote tree after target "" ∧
      deliver conversion tree note name script = .error ⟨.noEncoding, after⟩) ∨
    ∃ error after, SameFiles after tree ∧
      deliver conversion tree note name script = .error ⟨.access error, after⟩ := by
  obtain ⟨target, after, saved, isTarget, wrote⟩ | ⟨error, after, stopped, same⟩ :=
    save_cases tree path name script
  · cases encodes : script.encodes with
    | true =>
        rw [encoded_of_encodes encodes] at saved
        rw [writtenText, encodes, if_pos rfl] at wrote
        exact .inl ⟨target, after, isTarget, rfl, wrote,
          by rw [deliver, output]; simp only [saved, Except.map]⟩
    | false =>
        rw [encoded_of_not_encodes encodes] at saved
        rw [writtenText, encodes, if_neg Bool.false_ne_true] at wrote
        exact .inr (.inl ⟨target, after, isTarget, rfl, wrote,
          by rw [deliver, output]; simp only [saved, Except.map]⟩)
  · exact .inr (.inr ⟨error, after, same, by rw [deliver, output]; simp only [stopped]⟩)

/-- What has been delivered: the script as it is printed, or the script at its target and nowhere
else. In the second case the same conversion without the output path prints it. -/
def Delivered (libraries : Libraries) (world : World) (conversion : Conversion)
    (name : String) (script : Script.Rendered) (outcome : Outcome) : Prop :=
  match conversion.output with
  | none => SameFiles outcome.tree world.tree ∧ outcome.stdout = libraries.printed script.text
  | some path =>
    outcome.stdout = "" ∧
    (∃ target, IsTarget world.tree path name target ∧
      Wrote world.tree outcome.tree target script.text) ∧
    ∃ plain, ending libraries (.ok conversion.toStandardOutput) world = .ok plain ∧
      plain.exit = 0 ∧ plain.stdout = libraries.printed script.text

/-- What a call leaves behind: the same files if a failure stops it or it exits with an error, else
what it delivers. What is checked is accepted by the compiler and has no fault, and a script without
an escape is printed as it is. One case of failure touches a file: where a script without an
encoding was to be written, the file is left empty. -/
inductive Leaves (libraries : Libraries) (world : World) : Parsed → Result → Prop where
  | stopped {parsed : Parsed} {stop : Stop} : SameFiles stop.tree world.tree →
      Leaves libraries world parsed (.error stop)
  | emptied {conversion : Conversion} {options : Options} {script : Script.Rendered}
      {path target : Path} {after : Tree} :
      Generates libraries world conversion options script → script.encodes = false →
      conversion.check = false → conversion.output = some path →
      IsTarget world.tree path options.library.fileName target →
      Wrote world.tree after target "" →
      Leaves libraries world (.ok conversion) (.error ⟨.noEncoding, after⟩)
  | failed {parsed : Parsed} {outcome : Outcome} : outcome.exit ≠ 0 →
      SameFiles outcome.tree world.tree → Leaves libraries world parsed (.ok outcome)
  | delivered {conversion : Conversion} {options : Options} {script : Script.Rendered}
      {outcome : Outcome} : outcome.exit = 0 →
      Generates libraries world conversion options script → script.encodes = true →
      Delivered libraries world conversion options.library.fileName script outcome →
      (conversion.check = true →
        Script.validate libraries.compile [(options.library.fileName, script.text)] = .ok [] ∧
        Script.faults [(options.library.fileName, script.text)] = []) →
      ('\x1b' ∉ script.text.toList → libraries.printed script.text = script.text) →
      Leaves libraries world (.ok conversion) (.ok outcome)

theorem Fails.leaves {result : Result} (fails : Fails world.tree result) :
    Leaves libraries world parsed (result.map (Outcome.printedBy libraries.printed)) := by
  cases fails with
  | crash crash => exact .stopped (.refl world.tree)
  | exit failed unchanged => exact .failed failed (unchanged ▸ .refl _)

theorem ending_ok (libraries : Libraries) (conversion : Conversion) (world : World) :
    ending libraries (.ok conversion) world =
      (convert libraries conversion world).map (Outcome.printedBy libraries.printed) :=
  rfl

/-- Where there is no output path, a script that goes through is printed and nothing else
happens. -/
theorem ending_of_generates (generates : Generates libraries world conversion options script)
    (passes : Passes libraries conversion options.library.fileName script)
    (nothing : conversion.output = none) (encodes : script.encodes = true) :
    ending libraries (.ok conversion) world =
      .ok { stdout := libraries.printed script.text,
            stderr := libraries.printed (conversion.note options.library)
            tree := world.tree } := by
  rw [ending_ok, convert_of_generates generates passes, deliver_none nothing encodes]
  rfl

theorem Passes.accepted (passes : Passes libraries conversion name script)
    (finds : libraries.compile.FindsFaults) (check : conversion.check = true) :
    Script.validate libraries.compile [(name, script.text)] = .ok [] ∧
      Script.faults [(name, script.text)] = [] :=
  ⟨(passes check).2, Script.faults_of_validate finds (passes check).2⟩

theorem Passes.not_checked (passes : Passes libraries conversion name script)
    (noEncoding : script.encodes = false) : conversion.check = false := by
  rw [← Bool.not_eq_true]
  intro check
  rw [(passes check).1] at noEncoding
  cases noEncoding

/-- A script that goes through is delivered, unless it has no encoding or cannot be written. -/
theorem leaves_of_generates (finds : libraries.compile.FindsFaults)
    (prints : libraries.PrintsPlain)
    (generates : Generates libraries world conversion options script)
    (passes : Passes libraries conversion options.library.fileName script) :
    Leaves libraries world (.ok conversion) (ending libraries (.ok conversion) world) := by
  cases output : conversion.output with
  | none =>
      cases encodes : script.encodes with
      | true =>
          rw [ending_of_generates generates passes output encodes]
          refine .delivered rfl generates encodes ?_ (passes.accepted finds) (prints _)
          rw [Delivered, output]
          exact ⟨.refl world.tree, rfl⟩
      | false =>
          rw [ending_ok, convert_of_generates generates passes,
            deliver_none_of_not_encodes output encodes]
          exact .stopped (.refl world.tree)
  | some path =>
      rw [ending_ok, convert_of_generates generates passes]
      obtain ⟨target, after, isTarget, encodes, wrote, written⟩ |
        ⟨target, after, isTarget, noEncoding, emptied, stopped⟩ |
        ⟨error, after, unchanged, stopped⟩ := deliver_cases output
      · have plainEnds := ending_of_generates generates.toStandardOutput
          (passes : Passes libraries conversion.toStandardOutput _ _) rfl encodes
        have nothing : libraries.printed "" = "" := prints "" (by simp)
        rw [written]
        refine .delivered rfl generates encodes ?_ (passes.accepted finds) (prints _)
        rw [Delivered, output]
        exact ⟨nothing, ⟨target, isTarget, wrote⟩, _, plainEnds, rfl, rfl⟩
      · rw [stopped]
        exact .emptied generates noEncoding (passes.not_checked noEncoding) output isTarget emptied
      · rw [stopped]
        exact .stopped unchanged

/-- A conversion that fails changes no file, except that a script without an encoding empties the
file it was for. One that succeeds writes its script to the target and to no other file, or prints
it; without an escape in it the whole script is printed. -/
theorem leaves_ending (finds : libraries.compile.FindsFaults) (prints : libraries.PrintsPlain)
    (parsed : Parsed) (world : World) :
    Leaves libraries world parsed (ending libraries parsed world) := by
  cases parsed with
  | error refusal =>
      cases refusal with
      | usage report => exact .failed (Nat.succ_ne_zero 1) (.refl world.tree)
      | crash crash => exact .stopped (.refl world.tree)
  | ok conversion =>
      obtain ⟨options, script, generates, passes⟩ | fails :=
        convert_cases libraries conversion world
      · exact leaves_of_generates finds prints generates passes
      · exact fails.leaves

theorem findsFaults_scan : Script.scan.FindsFaults := by
  intro text accepted
  simpa [Script.scan] using accepted

theorem printsPlain_builtin : builtin.PrintsPlain := by
  intro text plain
  show printedText text = text
  rw [printedText, Text.dropSequences_of_no_escape plain, String.ofList_toList]

def nowhere : World where
  tree := {}
  home := "/home"

def requestOf (url : String) : String :=
  "import requests\n\nresponse = requests.get(\n    '" ++ url ++ "'\n)\nprint(response.text)\n"

def savedAs (name script : String) : Outcome where
  stderr := "Saved " ++ name ++ "\n"
  tree := { entries := [([name], .file script)] }

def toFile (command : String) : Conversion where
  command := some command
  output := some (.ofText "x.py")

theorem leaves_ending_checkedFile :
    builtin.compile.FindsFaults ∧ builtin.PrintsPlain ∧
      Leaves builtin nowhere (.ok { toFile "curl http://x" with check := true })
        (ending builtin (.ok { toFile "curl http://x" with check := true }) nowhere) ∧
      ending builtin (.ok { toFile "curl http://x" with check := true }) nowhere =
        .ok (savedAs "x.py" (requestOf "http://x")) :=
  ⟨findsFaults_scan, printsPlain_builtin,
    leaves_ending findsFaults_scan printsPlain_builtin _ nowhere, by decide +kernel⟩

/-- A control sequence in the address is missing on the standard output, but not in the file; and of
a body that has no encoding an empty file is left where there was a script before. -/
theorem ending_controlSequence :
    ending builtin (.ok { command := some "curl 'http://x/\x1b[31mred'" }) nowhere =
        .ok { stdout := requestOf "http://x/red", tree := {} } ∧
      ending builtin (.ok (toFile "curl 'http://x/\x1b[31mred'")) nowhere =
        .ok (savedAs "x.py" (requestOf "http://x/\x1b[31mred")) ∧
      requestOf "http://x/red" ≠ requestOf "http://x/\x1b[31mred" ∧
      ending builtin (.ok (toFile "curl http://x -d '\"\\\\ud800\"'"))
          { nowhere with tree := { entries := [(["x.py"], .file "import requests\n")] } } =
        .error ⟨.noEncoding, { entries := [(["x.py"], .file "")] }⟩ := by
  decide +kernel

end CurlScript.Cli
