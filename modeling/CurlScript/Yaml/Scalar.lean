import CurlScript.Yaml.Cursor

/-!
The texts of scalars: plain, quoted, and as blocks of lines. A single line end inside a scalar
that folds its lines is a space.
-/

namespace CurlScript.Yaml

def foldBreaks (first breaks : List Char) : List Char :=
  if first = ['\n'] then if breaks.isEmpty then [' '] else breaks else first ++ breaks

namespace PlainScalar

def endsColon (inFlow : Bool) (c : Char) : Bool :=
  isGap c || inFlow && ",[]\x7b\x7d".toList.contains c

def endsAt (inFlow : Bool) (c : Char) (next : Option Char) : Bool :=
  isGap c || (c = ':' && endOr (endsColon inFlow) next) ||
    inFlow && ",?[]\x7b\x7d".toList.contains c

def word (inFlow : Bool) : List Char → List Char
  | [] => []
  | c :: rest => if endsAt inFlow c rest.head? then [] else c :: word inFlow rest

def emptyLines : Nat → Cursor → Option (List Char) × Cursor
  | 0, cursor => (some [], cursor)
  | fuel + 1, cursor =>
    match cursor.peek 0 with
    | some c =>
      if c = ' ' then emptyLines fuel cursor.next
      else if isBreak c then
        let (lineEnd, after) := cursor.lineBreak
        if after.atDocumentMarker then (none, after)
        else
          let (breaks, final) := emptyLines fuel after
          (breaks.map (lineEnd ++ ·), final)
      else (some [], cursor)
    | none => (some [], cursor)

def gap (cursor : Cursor) : List Char × Bool × Cursor :=
  let after := cursor.skipWhile (· = ' ')
  if after.rest.head?.any isBreak then
    let (lineEnd, start) := after.lineBreak
    if start.atDocumentMarker then ([], true, start)
    else
      match emptyLines start.rest.length start with
      | (some breaks, final) => (foldBreaks lineEnd breaks, true, final)
      | (none, final) => ([], true, final)
  else (cursor.rest.takeWhile (· = ' '), false, after)

def read (inFlow : Bool) (indent : Int) :
    Nat → List Char → Bool → Cursor → List Char × Bool × Cursor
  | 0, _, crossed, cursor => ([], crossed, cursor)
  | fuel + 1, before, crossed, cursor =>
    match word inFlow cursor.rest with
    | [] => ([], crossed, cursor)
    | text =>
      let (between, newLine, next) := gap (cursor.skip text.length)
      if between.isEmpty || next.peek 0 = some '#' || !inFlow && next.column < indent then
        (before ++ text, newLine, next)
      else
        let (more, crossed, final) := read inFlow indent fuel between newLine next
        (before ++ text ++ more, crossed, final)

end PlainScalar

namespace QuotedScalar

def emptyLines? : Nat → Cursor → Option (List Char × Cursor)
  | 0, cursor => some ([], cursor)
  | fuel + 1, cursor =>
    if cursor.atDocumentMarker then none
    else
      let start := cursor.skipWhile fun c => c = ' ' || c = '\t'
      if start.rest.head?.any isBreak then
        let (lineEnd, after) := start.lineBreak
        (emptyLines? fuel after).map fun more => (lineEnd ++ more.1, more.2)
      else some ([], start)

def escaped? : Char → Option Char
  | '0' => some '\x00'
  | 'a' => some '\x07'
  | 'b' => some '\x08'
  | 't' => some '\t'
  | '\t' => some '\t'
  | 'n' => some '\n'
  | 'v' => some '\x0b'
  | 'f' => some '\x0c'
  | 'r' => some '\r'
  | 'e' => some '\x1b'
  | ' ' => some ' '
  | '"' => some '"'
  | '\\' => some '\\'
  | '/' => some '/'
  | 'N' => some '\u0085'
  | '_' => some '\u00a0'
  | 'L' => some '\u2028'
  | 'P' => some '\u2029'
  | _ => none

def hexLength? : Char → Option Nat
  | 'x' => some 2
  | 'u' => some 4
  | 'U' => some 8
  | _ => none

def hexDigit? (c : Char) : Option Nat :=
  if '0' ≤ c && c ≤ '9' then some (c.toNat - 48)
  else if 'a' ≤ c && c ≤ 'f' then some (c.toNat - 87)
  else if 'A' ≤ c && c ≤ 'F' then some (c.toNat - 55)
  else none

def hexChar? (count : Nat) (text : List Char) : Option Char :=
  if text.length < count then none
  else
    ((text.take count).foldlM (fun value c => (hexDigit? c).map (16 * value + ·)) 0).bind
      fun point => if point.isValidChar then some (Char.ofNat point) else none

def read? (mark : Char) : Nat → Cursor → Option (List Char × Cursor)
  | 0, _ => none
  | fuel + 1, cursor =>
    let goOn (text : List Char) (after : Cursor) : Option (List Char × Cursor) :=
      (read? mark fuel after).map fun more => (text ++ more.1, more.2)
    match cursor.rest with
    | [] => none
    | c :: rest =>
      if c = mark then
        if mark = '\'' ∧ rest.head? = some '\'' then goOn ['\''] (cursor.skip 2)
        else some ([], cursor.next)
      else if c = '\\' ∧ mark = '"' then do
        let letter ← rest.head?
        match escaped? letter, hexLength? letter with
        | some replacement, _ => goOn [replacement] (cursor.skip 2)
        | none, some count =>
          let replacement ← hexChar? count (rest.drop 1)
          goOn [replacement] (cursor.skip (2 + count))
        | none, none =>
          if isBreak letter then
            let (breaks, after) ← emptyLines? rest.length (cursor.skip 2)
            goOn breaks after
          else none
      else if isGap c then
        let blanks := cursor.rest.takeWhile fun c => c = ' ' || c = '\t'
        let after := cursor.skip blanks.length
        if after.rest.isEmpty then none
        else if after.rest.head?.any isBreak then do
          let (lineEnd, start) := after.lineBreak
          let (breaks, final) ← emptyLines? start.rest.length start
          goOn (foldBreaks lineEnd breaks) final
        else goOn blanks after
      else goOn [c] cursor.next

end QuotedScalar

namespace BlockScalar

inductive Chomping where
  | strip
  | clip
  | keep
deriving DecidableEq, Repr

def chomping? : Option Char → Option Chomping
  | some '+' => some .keep
  | some '-' => some .strip
  | _ => none

def increment? (c : Option Char) : Option Nat :=
  match c with
  | some c => if c.isDigit then some (c.toNat - 48) else none
  | none => none

def header? (cursor : Cursor) : Option (Chomping × Option Nat × Cursor) :=
  let first := cursor.peek 0
  let second := cursor.peek 1
  let (chomping, increment, count) :=
    match chomping? first, increment? first with
    | some chomping, _ =>
      (chomping, increment? second, if (increment? second).isSome then 2 else 1)
    | none, some increment =>
      ((chomping? second).getD .clip, some increment, if (chomping? second).isSome then 2 else 1)
    | none, none => (.clip, none, 0)
  if increment = some 0 then none else some (chomping, increment, cursor.skip count)

def afterHeader? (cursor : Cursor) : Option Cursor :=
  let start := cursor.skipWhile (· = ' ')
  if !endOr (fun c => c = ' ' || isBreak c) (cursor.peek 0) then none
  else
    let final :=
      if start.peek 0 = some '#' then start.skipWhile (fun c => !isBreak c) else start
    if endOr isBreak (final.peek 0) then some final.lineBreak.2 else none

def leadingLines : Nat → Nat → Cursor → List Char × Nat × Cursor
  | 0, width, cursor => ([], width, cursor)
  | fuel + 1, width, cursor =>
    match cursor.peek 0 with
    | some c =>
      if c = ' ' then leadingLines fuel (max width cursor.next.column) cursor.next
      else if isBreak c then
        let (lineEnd, after) := cursor.lineBreak
        let (breaks, width, final) := leadingLines fuel width after
        (lineEnd ++ breaks, width, final)
      else ([], width, cursor)
    | none => ([], width, cursor)

def toColumn (column : Nat) (cursor : Cursor) : Cursor :=
  cursor.skip (min (cursor.rest.takeWhile (· = ' ')).length (column - cursor.column))

def emptyLines (column : Nat) : Nat → Cursor → List Char × Cursor
  | 0, cursor => ([], cursor)
  | fuel + 1, cursor =>
    let start := toColumn column cursor
    if start.rest.head?.any isBreak then
      let (lineEnd, after) := start.lineBreak
      let (breaks, final) := emptyLines column fuel after
      (lineEnd ++ breaks, final)
    else ([], start)

def lines (folded : Bool) (chomping : Chomping) (column : Nat) :
    Nat → List Char → Cursor → List Char × Cursor
  | 0, _, cursor => ([], cursor)
  | fuel + 1, breaks, cursor =>
    let line := cursor.rest.takeWhile fun c => !isBreak c
    let (lineEnd, after) := (cursor.skip line.length).lineBreak
    let (more, next) := emptyLines column after.rest.length after
    let isText (c : Option Char) := c.any fun c => c ≠ ' ' && c ≠ '\t'
    if next.column = column ∧ !next.rest.isEmpty then
      let between :=
        if folded && lineEnd = ['\n'] && isText line.head? && isText (next.peek 0) then
          if more.isEmpty then [' '] else []
        else lineEnd
      let (text, final) := lines folded chomping column fuel more next
      (breaks ++ line ++ between ++ text, final)
    else
      (breaks ++ line ++ (if chomping = .strip then [] else lineEnd) ++
        (if chomping = .keep then more else []), next)

def read? (folded : Bool) (indent : Int) (cursor : Cursor) : Option (List Char × Cursor) := do
  let (chomping, increment, afterSigns) ← header? cursor
  let start ← afterHeader? afterSigns
  let least := (max (indent + 1) 1).toNat
  let (breaks, column, first) :=
    match increment with
    | some increment =>
      let column := least + increment - 1
      let (breaks, first) := emptyLines column start.rest.length start
      (breaks, column, first)
    | none =>
      let (breaks, width, first) := leadingLines start.rest.length 0 start
      (breaks, max least width, first)
  if first.column = column ∧ !first.rest.isEmpty then
    some (lines folded chomping column first.rest.length breaks first)
  else some (if chomping = .keep then breaks else [], first)

end BlockScalar

end CurlScript.Yaml
