/-!
Cutting a text at a mark: at the first one, or at all of them.
-/

namespace CurlScript.Text

def cut (mark : Char) : List Char → List Char × Option (List Char)
  | [] => ([], none)
  | c :: rest =>
    if c = mark then ([], some rest)
    else
      let parts := cut mark rest
      (c :: parts.1, parts.2)

def pieces (mark : Char) : List Char → List (List Char)
  | [] => [[]]
  | c :: rest =>
    if c = mark then [] :: pieces mark rest
    else
      match pieces mark rest with
      | [] => [[c]]
      | piece :: others => (c :: piece) :: others

def after? (start text : List Char) : Option (List Char) :=
  match start, text with
  | [], rest => some rest
  | _ :: _, [] => none
  | s :: start, c :: rest => if s = c then after? start rest else none

def cutAtText (mark : List Char) : List Char → List Char × Option (List Char)
  | [] => ([], after? mark [])
  | c :: rest =>
    match after? mark (c :: rest) with
    | some remainder => ([], some remainder)
    | none =>
      let parts := cutAtText mark rest
      (c :: parts.1, parts.2)

def joined (separator : String) : List String → String
  | [] => ""
  | [text] => text
  | text :: next :: rest => text ++ separator ++ joined separator (next :: rest)

def repeated (text : String) : Nat → String
  | 0 => ""
  | count + 1 => text ++ repeated text count

end CurlScript.Text
