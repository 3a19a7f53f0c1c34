import CurlScript.Yaml.Scalar

/-!
The tokens of a YAML text. The indentation of a block shows up as tokens where it begins and ends,
and a key mark stands before each key of a mapping, also where only the colon after it shows that
it is one.
-/

namespace CurlScript.Yaml

inductive Tag where
  | unspecific
  | core (name : String)
  | other
deriving DecidableEq, Repr

inductive Token where
  | directive
  | documentStart
  | documentEnd
  | blockListStart
  | blockMappingStart
  | blockEnd
  | flowListStart
  | flowListEnd
  | flowMappingStart
  | flowMappingEnd
  | flowEntry
  | blockEntry
  | key
  | value
  | anchor (name : String)
  | alias (name : String)
  | tag (tag : Tag)
  | scalar (plain : Bool) (text : String)
deriving DecidableEq, Repr

structure KeyStart where
  token : Nat
  required : Bool
  line : Nat
  column : Nat
  index : Nat
deriving Repr

/-- A scan that has read part of a text. Its tokens are the newest first. `keyStarts` has an entry
for each open flow collection, the innermost first, and one for the block around them. `indent` is
the column of the innermost block. -/
structure Scanner where
  cursor : Cursor
  tokens : List Token := []
  keyStarts : List (Option KeyStart) := [none]
  keyAllowed : Bool := true
  indent : Int := -1
  indents : List Int := []

namespace Scanner

def inFlow (scanner : Scanner) : Bool :=
  1 < scanner.keyStarts.length

def push (scanner : Scanner) (token : Token) : Scanner :=
  { scanner with tokens := token :: scanner.tokens }

def insertAt (scanner : Scanner) (place : Nat) (token : Token) : Scanner :=
  { scanner with tokens := scanner.tokens.insertIdx (scanner.tokens.length - place) token }

def skipGap : Nat → Scanner → Scanner
  | 0, scanner => scanner
  | fuel + 1, scanner =>
    let start := scanner.cursor.skipWhile (· = ' ')
    let start := if start.peek 0 = some '#' then start.skipWhile (fun c => !isBreak c) else start
    if start.rest.head?.any isBreak then
      skipGap fuel
        { scanner with
          cursor := start.lineBreak.2
          keyAllowed := scanner.keyAllowed || !scanner.inFlow }
    else { scanner with cursor := start }

def keyWidth : Nat := 1024

def isStale (cursor : Cursor) (start : KeyStart) : Bool :=
  start.line ≠ cursor.line || start.index + keyWidth < cursor.index

def dropStale? (scanner : Scanner) : Option Scanner :=
  let stale (start : Option KeyStart) := start.any (isStale scanner.cursor)
  if scanner.keyStarts.any fun start => stale start && start.any (·.required) then none
  else
    some { scanner with
      keyStarts := scanner.keyStarts.map fun start => if stale start then none else start }

def dropKeyStart? (scanner : Scanner) : Option Scanner :=
  match scanner.keyStarts with
  | [] => some scanner
  | start :: outer =>
    if start.any (·.required) then none else some { scanner with keyStarts := none :: outer }

def noteKeyStart? (scanner : Scanner) : Option Scanner :=
  if !scanner.keyAllowed then some scanner
  else do
    let scanner ← scanner.dropKeyStart?
    let start : KeyStart :=
      { token := scanner.tokens.length
        required := !scanner.inFlow && scanner.indent = scanner.cursor.column
        line := scanner.cursor.line
        column := scanner.cursor.column
        index := scanner.cursor.index }
    some { scanner with keyStarts := some start :: scanner.keyStarts.drop 1 }

def closeBlocksFrom (column : Int) : List Int → Scanner → Scanner
  | [], scanner => scanner
  | outer :: rest, scanner =>
    if column < scanner.indent then
      closeBlocksFrom column rest
        { scanner.push .blockEnd with indent := outer, indents := rest }
    else scanner

def closeBlocks (column : Int) (scanner : Scanner) : Scanner :=
  if scanner.inFlow then scanner else closeBlocksFrom column scanner.indents scanner

def openBlock (token : Token) (place : Nat) (column : Nat) (scanner : Scanner) : Scanner :=
  if scanner.indent < column then
    { scanner.insertAt place token with
      indent := column
      indents := scanner.indent :: scanner.indents }
  else scanner

def indicator (token : Token) (scanner : Scanner) : Scanner :=
  { scanner.push token with cursor := scanner.cursor.next }

def endDocument? (scanner : Scanner) : Option Scanner := do
  let scanner ← (scanner.closeBlocks (-1)).dropKeyStart?
  some { scanner with keyAllowed := false }

def documentMarker? (token : Token) (scanner : Scanner) : Option Scanner := do
  let scanner ← scanner.endDocument?
  some { scanner.push token with cursor := scanner.cursor.skip 3 }

def flowStart? (token : Token) (scanner : Scanner) : Option Scanner := do
  let scanner ← scanner.noteKeyStart?
  some { scanner.indicator token with keyStarts := none :: scanner.keyStarts, keyAllowed := true }

def flowEnd? (token : Token) (scanner : Scanner) : Option Scanner :=
  if !scanner.inFlow then none
  else
    some { scanner.indicator token with
      keyStarts := scanner.keyStarts.drop 1
      keyAllowed := false }

def flowEntry? (scanner : Scanner) : Option Scanner := do
  let scanner ← scanner.dropKeyStart?
  some { scanner.indicator .flowEntry with keyAllowed := true }

def blockEntry? (scanner : Scanner) : Option Scanner := do
  if !scanner.inFlow && !scanner.keyAllowed then none
  else
    let opened :=
      if scanner.inFlow then scanner
      else openBlock .blockListStart scanner.tokens.length scanner.cursor.column scanner
    let scanner ← opened.dropKeyStart?
    some { scanner.indicator .blockEntry with keyAllowed := true }

def keyMark? (scanner : Scanner) : Option Scanner := do
  if !scanner.inFlow && !scanner.keyAllowed then none
  else
    let opened :=
      if scanner.inFlow then scanner
      else openBlock .blockMappingStart scanner.tokens.length scanner.cursor.column scanner
    let scanner ← opened.dropKeyStart?
    some { scanner.indicator .key with keyAllowed := !scanner.inFlow }

def valueMark? (scanner : Scanner) : Option Scanner :=
  match scanner.keyStarts with
  | some start :: outer =>
    let marked := { scanner.insertAt start.token .key with keyStarts := none :: outer }
    let opened :=
      if marked.inFlow then marked
      else openBlock .blockMappingStart start.token start.column marked
    some { opened.indicator .value with keyAllowed := false }
  | _ =>
    if scanner.inFlow then some { scanner.indicator .value with keyAllowed := false }
    else if !scanner.keyAllowed then none
    else
      let opened := openBlock .blockMappingStart scanner.tokens.length scanner.cursor.column scanner
      some { opened.indicator .value with keyAllowed := true }

def isNameChar (c : Char) : Bool :=
  c.isAlphanum || c = '-' || c = '_'

def endsName (c : Char) : Bool :=
  isGap c || "?:,]\x7d%@\x60".toList.contains c

def named? (token : String → Token) (scanner : Scanner) : Option Scanner := do
  let scanner ← scanner.noteKeyStart?
  let start := scanner.cursor.next
  let name := start.rest.takeWhile isNameChar
  let after := start.skip name.length
  if name.isEmpty || !endOr endsName (after.peek 0) then none
  else
    some { scanner.push (token (String.ofList name)) with cursor := after, keyAllowed := false }

def tagOf (text : List Char) : Tag :=
  match text with
  | [] => .unspecific
  | '!' :: name => .core (String.ofList name)
  | _ => .other

def tag? (scanner : Scanner) : Option Scanner := do
  let scanner ← scanner.noteKeyStart?
  let start := scanner.cursor.next
  let text := start.rest.takeWhile fun c =>
    !isGap c && !(scanner.inFlow && ",[]\x7b\x7d".toList.contains c)
  let after := start.skip text.length
  if endOr (fun c => c = ' ' || isBreak c) (after.peek 0) then
    some { scanner.push (.tag (tagOf text)) with cursor := after, keyAllowed := false }
  else none

def blockScalar? (folded : Bool) (scanner : Scanner) : Option Scanner := do
  let scanner ← scanner.dropKeyStart?
  let (text, after) ← BlockScalar.read? folded scanner.indent scanner.cursor.next
  some
    { scanner.push (.scalar false (String.ofList text)) with cursor := after, keyAllowed := true }

def quotedScalar? (mark : Char) (scanner : Scanner) : Option Scanner := do
  let scanner ← scanner.noteKeyStart?
  let start := scanner.cursor.next
  let (text, after) ← QuotedScalar.read? mark (start.rest.length + 1) start
  some
    { scanner.push (.scalar false (String.ofList text)) with cursor := after, keyAllowed := false }

def plainScalar? (scanner : Scanner) : Option Scanner := do
  let scanner ← scanner.noteKeyStart?
  let cursor := scanner.cursor
  let (text, crossed, after) :=
    PlainScalar.read scanner.inFlow (scanner.indent + 1) cursor.rest.length [] false cursor
  some
    { scanner.push (.scalar true (String.ofList text)) with cursor := after, keyAllowed := crossed }

def isVersionOne (text : List Char) : Bool :=
  match text with
  | '1' :: '.' :: minor => !minor.isEmpty && minor.all Char.isDigit
  | _ => false

def directive? (scanner : Scanner) : Option Scanner := do
  let scanner ← scanner.endDocument?
  let start := scanner.cursor.next
  let name := start.rest.takeWhile isNameChar
  let after := start.skip name.length
  let line := after.rest.takeWhile fun c => !isBreak c
  let parameter := (line.dropWhile (· = ' ')).takeWhile fun c => c ≠ ' '
  if name.isEmpty || !endOr (fun c => c = ' ' || isBreak c) (after.peek 0) then none
  else if name = "YAML".toList ∧ !isVersionOne parameter then none
  else some { scanner.push .directive with cursor := (after.skip line.length).lineBreak.2 }

def isIndicator (c : Char) : Bool :=
  "-?:,[]\x7b\x7d#&*!|>'\"%@\x60".toList.contains c

def beginsPlain (inFlow : Bool) (c : Char) (next : Option Char) : Bool :=
  !isGap c && !isIndicator c ||
    !endOr isGap next && (c = '-' || !inFlow && (c = '?' || c = ':'))

def token? (c : Char) (scanner : Scanner) : Option Scanner :=
  let cursor := scanner.cursor
  let alone := scanner.inFlow || endOr isGap (cursor.peek 1)
  if c = '%' ∧ cursor.column = 0 then scanner.directive?
  else if cursor.column = 0 ∧ cursor.atMarker '-' then scanner.documentMarker? .documentStart
  else if cursor.column = 0 ∧ cursor.atMarker '.' then scanner.documentMarker? .documentEnd
  else if c = '[' then scanner.flowStart? .flowListStart
  else if c = '\x7b' then scanner.flowStart? .flowMappingStart
  else if c = ']' then scanner.flowEnd? .flowListEnd
  else if c = '\x7d' then scanner.flowEnd? .flowMappingEnd
  else if c = ',' then scanner.flowEntry?
  else if c = '-' ∧ endOr isGap (cursor.peek 1) then scanner.blockEntry?
  else if c = '?' ∧ alone then scanner.keyMark?
  else if c = ':' ∧ alone then scanner.valueMark?
  else if c = '*' then scanner.named? .alias
  else if c = '&' then scanner.named? .anchor
  else if c = '!' then scanner.tag?
  else if c = '|' ∧ !scanner.inFlow then scanner.blockScalar? false
  else if c = '>' ∧ !scanner.inFlow then scanner.blockScalar? true
  else if c = '\'' ∨ c = '"' then scanner.quotedScalar? c
  else if beginsPlain scanner.inFlow c (cursor.peek 1) then scanner.plainScalar?
  else none

def run? : Nat → Scanner → Option Scanner
  | 0, _ => none
  | fuel + 1, scanner => do
    let scanner ← (skipGap (scanner.cursor.rest.length + 1) scanner).dropStale?
    let scanner := scanner.closeBlocks scanner.cursor.column
    match scanner.cursor.rest with
    | [] => (scanner.closeBlocks (-1)).dropKeyStart?
    | c :: _ => (scanner.token? c).bind (run? fuel)

end Scanner

def Token.ofText? (text : List Char) : Option (List Token) :=
  let start : Cursor := { rest := text }
  let start := if start.peek 0 = some '\uFEFF' then start.next else start
  (Scanner.run? (text.length + 1) { cursor := start }).map fun scanner => scanner.tokens.reverse

end CurlScript.Yaml
