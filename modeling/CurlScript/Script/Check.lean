import CurlScript.Entries
import CurlScript.Text.Blank
import CurlScript.Text.Lines

/-!
Lexical check of scripts: strings that are open at the end of their line, and brackets without
a partner.
-/

namespace CurlScript.Script

inductive Fault where
  | openString (line detected : Nat)
  | openBlock (line detected : Nat)
  | unclosed (opener : Char) (line : Nat)
  | unmatched (closer : Char) (line : Nat)
  | mismatched (closer opener : Char) (openerLine line : Nat)
deriving DecidableEq, Repr

namespace Fault

def line : Fault → Nat
  | .openString line _ => line
  | .openBlock line _ => line
  | .unclosed _ line => line
  | .unmatched _ line => line
  | .mismatched _ _ _ line => line

def shown (bracket : Char) : String :=
  String.ofList ['\'', bracket, '\'']

def reason : Fault → String
  | .openString _ detected =>
    "unterminated string literal (detected at line " ++ toString detected ++ ")"
  | .openBlock _ detected =>
    "unterminated triple-quoted string literal (detected at line " ++ toString detected ++ ")"
  | .unclosed opener _ => shown opener ++ " was never closed"
  | .unmatched closer _ => "unmatched " ++ shown closer
  | .mismatched closer opener openerLine line =>
    "closing parenthesis " ++ shown closer ++ " does not match opening parenthesis " ++
      shown opener ++ (if openerLine = line then "" else " on line " ++ toString openerLine)

end Fault

inductive Region where
  | code
  | comment
  | string (mark : Char) (start : Nat)
  | block (mark : Char) (start : Nat)
deriving DecidableEq, Repr

def closerOf? : Char → Option Char
  | '(' => some ')'
  | '[' => some ']'
  | '\x7b' => some '\x7d'
  | _ => none

def isCloser (c : Char) : Bool :=
  c = ')' || c = ']' || c = '\x7d'

def faultAtEnd (line : Nat) (opened : List (Char × Nat)) : Region → Option Fault
  | .string _ start => some (.openString start line)
  | .block _ start => some (.openBlock start line)
  | _ => opened.head?.map fun bracket => .unclosed bracket.1 bracket.2

def firstFault (line : Nat) (opened : List (Char × Nat)) : Region → List Char → Option Fault
  | region, [] => faultAtEnd line opened region
  | .comment, c :: rest =>
    if c = '\n' then firstFault (line + 1) opened .code rest
    else firstFault line opened .comment rest
  | .string mark start, '\\' :: c :: rest =>
    firstFault (if c = '\n' then line + 1 else line) opened (.string mark start) rest
  | .string mark start, c :: rest =>
    if c = '\n' then some (.openString start line)
    else if c = mark then firstFault line opened .code rest
    else firstFault line opened (.string mark start) rest
  | .block mark start, '\\' :: c :: rest =>
    firstFault (if c = '\n' then line + 1 else line) opened (.block mark start) rest
  | .block mark start, a :: b :: c :: rest =>
    if a = mark ∧ b = mark ∧ c = mark then firstFault line opened .code rest
    else
      firstFault (if a = '\n' then line + 1 else line) opened (.block mark start) (b :: c :: rest)
  | .block mark start, c :: rest =>
    firstFault (if c = '\n' then line + 1 else line) opened (.block mark start) rest
  | .code, c :: rest =>
    if c = '\n' then firstFault (line + 1) opened .code rest
    else if c = '#' then firstFault line opened .comment rest
    else if c = '\'' ∨ c = '"' then
      match rest with
      | a :: b :: more =>
        if a = c ∧ b = c then firstFault line opened (.block c line) more
        else firstFault line opened (.string c line) (a :: b :: more)
      | rest => firstFault line opened (.string c line) rest
    else if (closerOf? c).isSome then firstFault line ((c, line) :: opened) .code rest
    else if isCloser c then
      match opened with
      | [] => some (.unmatched c line)
      | (opener, openerLine) :: outer =>
        if closerOf? opener = some c then firstFault line outer .code rest
        else some (.mismatched c opener openerLine line)
    else firstFault line opened .code rest
termination_by structural _ text => text

/-- The first fault of a script. The line end of the last line begins no further line, unless it is
a carriage return with a line feed. -/
def fault? (script : String) : Option Fault :=
  firstFault 1 [] .code (Text.unifyLines (Text.dropFinalBreak script.toList))

def isChecked (name text : String) : Bool :=
  name.endsWith ".py" && !Text.isBlankText text

def faults (files : Entries String String) : Entries String Fault :=
  files.filterMap fun (name, text) =>
    if isChecked name text then (fault? text).map fun fault => (name, fault) else none

end CurlScript.Script
