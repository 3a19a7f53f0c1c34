/-!
The tokens of a command line. Unquoted spaces separate them; quotes of either kind and
backslashes protect what they enclose or precede. Empty tokens are dropped.
-/

namespace CurlScript.Command

/-- A scan that has read part of a command line: the complete tokens, newest first, the characters
of the current one, newest first, the quote that is open, and a backslash that waits for its
character. -/
structure Scan where
  done : List String := []
  word : List Char := []
  quote : Option Char := none
  escaped : Bool := false
deriving DecidableEq, Repr

namespace Scan

def push (scan : Scan) (c : Char) : Scan :=
  { scan with word := c :: scan.word }

def flush (scan : Scan) : Scan :=
  if scan.word.isEmpty then scan
  else { scan with done := String.ofList scan.word.reverse :: scan.done, word := [] }

def readQuote (scan : Scan) (mark : Char) : Scan :=
  match scan.quote with
  | none => { scan with quote := some mark }
  | some opened => if opened = mark then { scan with quote := none } else scan.push mark

def step (scan : Scan) (c : Char) : Scan :=
  if scan.escaped then { scan.push c with escaped := false }
  else if c = '\\' then { scan with escaped := true }
  else if c = '\'' ∨ c = '"' then scan.readQuote c
  else if c = ' ' ∧ scan.quote = none then scan.flush
  else scan.push c

def run (scan : Scan) (text : List Char) : Scan :=
  text.foldl step scan

def tokens (scan : Scan) : List String :=
  scan.flush.done.reverse

@[simp] theorem run_nil (scan : Scan) : scan.run [] = scan := rfl

@[simp] theorem run_cons (scan : Scan) (c : Char) (text : List Char) :
    scan.run (c :: text) = (scan.step c).run text := rfl

theorem run_append (scan : Scan) (text more : List Char) :
    scan.run (text ++ more) = (scan.run text).run more :=
  List.foldl_append

end Scan

def tokenize (command : String) : List String :=
  ((({} : Scan).run command.toList).tokens)

end CurlScript.Command
