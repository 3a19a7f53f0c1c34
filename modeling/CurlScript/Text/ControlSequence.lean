/-!
Control sequences of a terminal: an escape and a bracket, parameters, intermediate characters and
one final character. The three classes have no character in common.
-/

namespace CurlScript.Text

def isParameter (c : Char) : Bool :=
  '0' ≤ c && c ≤ '?'

def isIntermediate (c : Char) : Bool :=
  ' ' ≤ c && c ≤ '/'

def isFinal (c : Char) : Bool :=
  '@' ≤ c && c ≤ '~'

def sequenceLength : List Char → Nat
  | '\x1b' :: '[' :: rest =>
    let parameters := (rest.takeWhile isParameter).length
    let intermediates := ((rest.drop parameters).takeWhile isIntermediate).length
    if rest[parameters + intermediates]?.any isFinal then parameters + intermediates + 3 else 0
  | _ => 0

def dropSequencesFrom (pending : Nat) : List Char → List Char
  | [] => []
  | c :: rest =>
    match pending with
    | more + 1 => dropSequencesFrom more rest
    | 0 =>
      match sequenceLength (c :: rest) with
      | 0 => c :: dropSequencesFrom 0 rest
      | more + 1 => dropSequencesFrom more rest

def dropSequences (text : List Char) : List Char :=
  dropSequencesFrom 0 text

end CurlScript.Text
