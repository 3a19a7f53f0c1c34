/-!
A place in a text, with its line and column.
-/

namespace CurlScript.Yaml

def isBreak (c : Char) : Bool :=
  c = '\n' || c = '\u0085' || c = '\u2028' || c = '\u2029'

def isGap (c : Char) : Bool :=
  c = ' ' || c = '\t' || isBreak c

def endOr (test : Char → Bool) (c : Option Char) : Bool :=
  c.all test

structure Cursor where
  rest : List Char
  line : Nat := 0
  column : Nat := 0
  index : Nat := 0
deriving Repr

namespace Cursor

def peek (cursor : Cursor) (distance : Nat) : Option Char :=
  cursor.rest[distance]?

def next (cursor : Cursor) : Cursor :=
  match cursor.rest with
  | [] => cursor
  | c :: rest =>
    { rest
      index := cursor.index + 1
      line := if isBreak c then cursor.line + 1 else cursor.line
      column := if isBreak c then 0 else if c = '\uFEFF' then cursor.column else cursor.column + 1 }

def skip (cursor : Cursor) : Nat → Cursor
  | 0 => cursor
  | count + 1 => cursor.next.skip count

def skipWhile (cursor : Cursor) (test : Char → Bool) : Cursor :=
  cursor.skip (cursor.rest.takeWhile test).length

def lineBreak (cursor : Cursor) : List Char × Cursor :=
  match cursor.rest with
  | c :: _ =>
    if c = '\u2028' ∨ c = '\u2029' then ([c], cursor.next)
    else if isBreak c then (['\n'], cursor.next)
    else ([], cursor)
  | [] => ([], cursor)

def atMarker (cursor : Cursor) (mark : Char) : Bool :=
  cursor.rest.take 3 == [mark, mark, mark] && endOr isGap (cursor.peek 3)

def atDocumentMarker (cursor : Cursor) : Bool :=
  cursor.atMarker '-' || cursor.atMarker '.'

end Cursor

end CurlScript.Yaml
