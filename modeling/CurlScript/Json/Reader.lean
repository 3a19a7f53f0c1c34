import CurlScript.Json.Token

/-!
Reading JSON text. Open lists and objects wait on a stack, so the nesting of the text may be
of any depth. Of two members with one key the later gives the value, the earlier the place.
-/

namespace CurlScript.Json

inductive Frame where
  | items (read : List Json)
  | members (read : List (String × Json)) (key : String)

mutual

def valueFrom (frames : List Frame) : List Token → Option Json
  | .scalar value :: rest => afterValue frames value rest
  | .text value :: rest => afterValue frames (.text value) rest
  | .openList :: .closeList :: rest => afterValue frames (.list []) rest
  | .openList :: rest => valueFrom (.items [] :: frames) rest
  | .openObject :: .closeObject :: rest => afterValue frames (.object []) rest
  | .openObject :: .text key :: .colon :: rest => valueFrom (.members [] key :: frames) rest
  | _ => none

def afterValue (frames : List Frame) (value : Json) : List Token → Option Json
  | [] => if frames.isEmpty then some value else none
  | .comma :: .text key :: .colon :: rest =>
    match frames with
    | .members read waiting :: outer =>
      valueFrom (.members (Entries.insert waiting value read) key :: outer) rest
    | _ => none
  | .comma :: rest =>
    match frames with
    | .items read :: outer => valueFrom (.items (value :: read) :: outer) rest
    | _ => none
  | .closeList :: rest =>
    match frames with
    | .items read :: outer => afterValue outer (.list (value :: read).reverse) rest
    | _ => none
  | .closeObject :: rest =>
    match frames with
    | .members read key :: outer => afterValue outer (.object (Entries.insert key value read)) rest
    | _ => none
  | _ => none

end

def readWith? (write : List Point → String) (source : String) : Option Json := do
  let tokens ← Token.ofText? write source.toList
  valueFrom [] tokens

/-- The text of a string. The replacement character stands for what is no character. -/
def plainText (points : List Point) : String :=
  String.ofList (points.map fun
    | .char c => c
    | .lone _ => '\uFFFD')

def read? (source : String) : Option Json :=
  readWith? plainText source

def markedText (points : List Point) : String :=
  String.ofList (points.flatMap fun
    | .char c => ['c', c]
    | .lone unit => ['s', Char.ofNat (unit - 0xD800)])

def marksLone : List Char → Bool
  | [] | [_] => false
  | mark :: _ :: rest => mark = 's' || marksLone rest

mutual

def texts : Json → List String
  | .text value => [value]
  | .list items => textsOfItems items
  | .object members => textsOfMembers members
  | _ => []

def textsOfItems : List Json → List String
  | [] => []
  | item :: rest => item.texts ++ textsOfItems rest

def textsOfMembers : List (String × Json) → List String
  | [] => []
  | (key, value) :: rest => key :: value.texts ++ textsOfMembers rest

end

/-- The text holds a value with a surrogate that lacks its partner, in a text or in a key. A value
that a later one replaces does not count. -/
def holdsLone (source : String) : Bool :=
  ((readWith? markedText source).map texts).getD [] |>.any fun text => marksLone text.toList

end CurlScript.Json
