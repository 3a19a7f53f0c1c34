import CurlScript.Text.Blank
import CurlScript.Text.LetterCase

/-!
Command lines in normal form: one line, single spaces, none at either end.
-/

namespace CurlScript.Command

def joinLines : List Char → List Char
  | '\\' :: '\n' :: rest => ' ' :: joinLines rest
  | '\\' :: '\r' :: '\n' :: rest => ' ' :: joinLines rest
  | c :: rest => c :: joinLines rest
  | [] => []

def normalForm (raw : List Char) : List Char :=
  Text.trim (Text.collapse (joinLines raw))

def normalize (raw : String) : String :=
  String.ofList (normalForm raw.toList)

def isCurl (command : String) : Bool :=
  let lowered := Text.lower command.toList
  lowered == "curl".toList || "curl ".toList.isPrefixOf lowered

end CurlScript.Command
