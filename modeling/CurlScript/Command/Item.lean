import CurlScript.Command.Flag

/-!
The items of a command line: each value flag with its value, and every other token by itself.
-/

namespace CurlScript.Command

inductive Item where
  | value (flag : ValueFlag) (argument : Option String)
  | insecure
  | skipped (token : String)
  | operand (token : String)
deriving DecidableEq, Repr

namespace Item

def ofSingle (token : String) : Item :=
  match Flag.ofToken? token with
  | some (.value flag) => .value flag none
  | some .insecure => .insecure
  | some .ignored => .skipped token
  | none => if token.startsWith "-" then .skipped token else .operand token

/-- Groups tokens into items. A value flag takes the next token whatever it is, if there is one. -/
def ofTokens : List String → List Item
  | [] => []
  | [token] => [ofSingle token]
  | token :: next :: rest =>
    match Flag.ofToken? token with
    | some (.value flag) => .value flag (some next) :: ofTokens rest
    | _ => ofSingle token :: ofTokens (next :: rest)

def operand? : Item → Option String
  | .operand token => some token
  | _ => none

end Item

end CurlScript.Command
