import CurlScript.Proofs.Cli.Delivery
import CurlScript.Proofs.Command.LineEnds

/-!
The ways to supply a command to a conversion: as an argument, in a file or on the standard input.
How it ends does not depend on the way.
-/

namespace CurlScript.Cli

variable {libraries : Libraries} {world : World} {conversion others : Conversion}
  {text raw : String}

/-- The ways to supply a text to a conversion that is otherwise like another, as the world and the
whole conversion. The standard input counts only where the text comes from there, and a single
hyphen is no text. -/
inductive Supplies (world : World) (others : Conversion) (text : String) :
    World → Conversion → Prop where
  | argument (input : String) : Supplies world others text { world with input }
      { others with command := some text, file := none, sample := none }
  | file {path : Path} {command : Option String} (input : String)
      (present : world.tree.read path = .ok text) (noText : command = none ∨ command = some "-") :
      Supplies world others text { world with input }
        { others with command, file := some path, sample := none }
  | omitted : Supplies world others text { world with input := text }
      { others with command := none, file := none, sample := none }
  | hyphen : Supplies world others text { world with input := text }
      { others with command := some "-", file := none, sample := none }

def converted (libraries : Libraries) (conversion : Conversion) (world : World) (raw : String) :
    Result :=
  if Text.isBlankText raw then .ok (misused libraries world.tree "No cURL command given.")
  else convertText libraries conversion world raw

theorem convert_eq_converted (oneSource : conversion.sources ≤ 1)
    (supplied : conversion.text world = .ok raw) :
    convert libraries conversion world = converted libraries conversion world raw := by
  rw [convert, if_neg (Nat.not_lt.mpr oneSource), supplied]
  rfl

/-- A text and the same text with plain line feeds are converted alike. -/
theorem converted_withUnixLines (paired : Command.PairedReturns text.toList)
    (conversion : Conversion) (world : World) :
    converted libraries conversion world (Text.withUnixLines text) =
      converted libraries conversion world text := by
  have blank : Text.isBlankText (Text.withUnixLines text) = Text.isBlankText text := by
    rw [Text.isBlankText, Text.withUnixLines, String.toList_ofList]
    exact Text.all_unifyLines (by decide) (by decide) text.toList
  have request : Command.request (Text.withUnixLines text) = Command.request text := by
    rw [Command.request, Command.request, Command.normalize_withUnixLines paired]
  simp only [converted, blank, convertText, Command.parse, request]

/-- Once the text is there, it does not count where it comes from. -/
theorem converted_congr (conversion : Conversion) (command : Option String) (file : Option Path)
    (sample : Option Int) (world : World) (input raw : String) :
    converted libraries { conversion with command, file, sample } { world with input } raw =
      converted libraries conversion world raw := by
  simp only [converted, convertText, convertRequest, syntaxErrors, deliver, Conversion.overrides,
    Conversion.note]

theorem argument?_of_noText {command : Option String} (noText : command = none ∨ command = some "-")
    (isCommand : conversion.command = command) : conversion.argument? = none := by
  rw [Conversion.argument?, isCommand]
  obtain rfl | rfl := noText <;> rfl

theorem convert_argument (noSample : conversion.sample = none) (noFile : conversion.file = none)
    (argument : conversion.argument? = some text) :
    convert libraries conversion world = converted libraries conversion world text := by
  apply convert_eq_converted
  · simp [Conversion.sources, noSample, noFile, argument]
  · simp [Conversion.text, noSample, noFile, argument]

theorem convert_file {path : Path} (noSample : conversion.sample = none)
    (file : conversion.file = some path) (noArgument : conversion.argument? = none)
    (read : world.tree.read path = .ok text) :
    convert libraries conversion world =
      converted libraries conversion world (Text.withUnixLines text) := by
  apply convert_eq_converted
  · simp [Conversion.sources, noSample, file, noArgument]
  · simp [Conversion.text, noSample, file, noArgument, fileText, read]

theorem convert_input (noSample : conversion.sample = none) (noFile : conversion.file = none)
    (noArgument : conversion.argument? = none) :
    convert libraries conversion world =
      converted libraries conversion world (Text.withUnixLines world.input) := by
  apply convert_eq_converted
  · simp [Conversion.sources, noSample, noFile, noArgument]
  · simp [Conversion.text, noSample, noFile, noArgument]

/-- However a text is supplied, it is what is converted. -/
theorem convert_of_supplies {here : World} (notHyphen : text ≠ "-")
    (paired : Command.PairedReturns text.toList)
    (supplies : Supplies world others text here conversion) :
    convert libraries conversion here = converted libraries others world text := by
  cases supplies with
  | argument input =>
      have argument : Conversion.argument?
          { others with command := some text, file := none, sample := none } = some text := by
        simp [Conversion.argument?, Option.filter, notHyphen]
      rw [convert_argument rfl rfl argument, converted_congr]
  | file input present noText =>
      have read : Tree.read ({ world with input } : World).tree _ = .ok text := present
      rw [convert_file rfl rfl (argument?_of_noText noText rfl) read,
        converted_withUnixLines paired, converted_congr]
  | omitted =>
      rw [convert_input rfl rfl (argument?_of_noText (.inl rfl) rfl),
        converted_withUnixLines paired, converted_congr]
  | hyphen =>
      rw [convert_input rfl rfl (argument?_of_noText (.inr rfl) rfl),
        converted_withUnixLines paired, converted_congr]

/-- A text is converted in one way, whether it is an argument, the content of a file or the standard
input. -/
theorem ending_eq_of_supplies {here there : World} {conversionThere : Conversion}
    (notHyphen : text ≠ "-") (paired : Command.PairedReturns text.toList)
    (supplies : Supplies world others text here conversion)
    (suppliesThere : Supplies world others text there conversionThere) :
    ending libraries (.ok conversion) here = ending libraries (.ok conversionThere) there := by
  rw [ending_ok, ending_ok, convert_of_supplies notHyphen paired supplies,
    convert_of_supplies notHyphen paired suppliesThere]

def twoLines : String := "curl http://x \\\r\n  -k"

def withFile : World where
  tree := { entries := [(["c.txt"], .file twoLines)] }
  home := "/home"

def withHttpx : Conversion where
  library := some .httpxSync

theorem pairedReturns_twoLines : Command.PairedReturns twoLines.toList := by
  intro rest suffix
  have split : '\\' :: '\r' :: rest = '\\' :: '\r' :: "\n  -k".toList := by
    simpa [twoLines, List.suffix_cons_iff] using suffix
  rw [(List.cons.inj (List.cons.inj split).2).2]
  rfl

theorem ending_eq_of_supplies_twoLines :
    twoLines ≠ "-" ∧ Command.PairedReturns twoLines.toList ∧
      Supplies withFile withHttpx twoLines withFile { withHttpx with command := some twoLines } ∧
      Supplies withFile withHttpx twoLines withFile
        { withHttpx with file := some (.ofText "c.txt") } ∧
      ending builtin (.ok { withHttpx with command := some twoLines }) withFile =
        ending builtin (.ok { withHttpx with file := some (.ofText "c.txt") }) withFile := by
  have notHyphen : twoLines ≠ "-" := by decide
  have argument : Supplies withFile withHttpx twoLines withFile
      { withHttpx with command := some twoLines } := .argument ""
  have file : Supplies withFile withHttpx twoLines withFile
      { withHttpx with file := some (.ofText "c.txt") } :=
    .file "" (by decide +kernel) (.inl rfl)
  exact ⟨notHyphen, pairedReturns_twoLines, argument, file,
    ending_eq_of_supplies notHyphen pairedReturns_twoLines argument file⟩

/-- A carriage return by itself ends a line of a file and of the standard input, but not of an
argument: there the option behind it belongs to the address. -/
theorem ending_loneReturn :
    let command := "curl http://x\\\r-k"
    Supplies nowhere {} command nowhere { command := some command } ∧
      Supplies nowhere {} command { nowhere with input := command } {} ∧
      ending builtin (.ok { command := some command }) nowhere =
        .ok { stdout := requestOf "http://x -k", tree := {} } ∧
      ending builtin (.ok {}) { nowhere with input := command } ≠
        .ok { stdout := requestOf "http://x -k", tree := {} } :=
  ⟨.argument "", .omitted, by decide +kernel, by decide +kernel⟩

end CurlScript.Cli
