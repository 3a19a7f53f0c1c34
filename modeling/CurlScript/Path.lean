import CurlScript.Text.Cut

/-!
File paths as they are written: names with slashes between them, after a root if the path is
absolute.
-/

namespace CurlScript

structure Path where
  root : String := ""
  names : List String := []
deriving DecidableEq, Repr

namespace Path

def namesOf (text : String) : List String :=
  (Text.pieces '/' text.toList).map String.ofList

def rootOf (text : String) : String :=
  match (text.toList.takeWhile (· = '/')).length with
  | 0 => ""
  | 2 => "//"
  | _ => "/"

def ofText (text : String) : Path where
  root := rootOf text
  names := (namesOf text).filter fun name => name ≠ "" && name ≠ "."

def text (path : Path) : String :=
  if path.root.isEmpty && path.names.isEmpty then "."
  else path.root ++ Text.joined "/" path.names

def child (path : Path) (name : String) : Path :=
  { path with names := path.names ++ [name] }

def parent (path : Path) : Path :=
  { path with names := path.names.dropLast }

def isAbsolute (path : Path) : Bool :=
  !path.root.isEmpty

end Path

end CurlScript
