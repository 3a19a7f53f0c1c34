import CurlScript.Entries
import CurlScript.Path

/-!
File trees, and how a path is followed in one. There are no links.
-/

namespace CurlScript

abbrev Location := List String

inductive Entry where
  | file (text : String)
  | directory
deriving DecidableEq, Repr

structure Tree where
  entries : Entries Location Entry := []
  current : Location := []
deriving DecidableEq, Repr

namespace Tree

inductive Error where
  | missing
  | notDirectory
  | isDirectory
  | present
  | tooLong
  | holdsNull
deriving DecidableEq, Repr

def Error.message : Error → String
  | .missing => "[Errno 2] No such file or directory"
  | .present => "[Errno 17] File exists"
  | .notDirectory => "[Errno 20] Not a directory"
  | .isDirectory => "[Errno 21] Is a directory"
  | .tooLong => "[Errno 36] File name too long"
  | .holdsNull => "embedded null byte"

def nameBytes : Nat := 255

def pathBytes : Nat := 4095

def at? (tree : Tree) (location : Location) : Option Entry :=
  if location.isPrefixOf tree.current then some .directory else tree.entries.lookup location

def step (location : Location) (name : String) : Location :=
  if name = "" ∨ name = "." then location
  else if name = ".." then location.dropLast
  else location ++ [name]

def walk (tree : Tree) (location : Location) : List String → Except Error Location
  | [] => .ok location
  | name :: rest =>
    match tree.at? location with
    | none => .error .missing
    | some (.file _) => .error .notDirectory
    | some .directory =>
      if nameBytes < name.utf8ByteSize then .error .tooLong
      else walk tree (step location name) rest

def start (tree : Tree) (absolute : Bool) : Location :=
  if absolute then [] else tree.current

def locateNames (tree : Tree) (text : String) (absolute : Bool) (names : List String) :
    Except Error Location :=
  if text.toList.contains '\x00' then .error .holdsNull
  else if pathBytes < text.utf8ByteSize then .error .tooLong
  else tree.walk (tree.start absolute) names

def locate (tree : Tree) (path : Path) : Except Error Location :=
  tree.locateNames path.text path.isAbsolute path.names

def entry (tree : Tree) (location : Location) : Except Error Entry :=
  match tree.at? location with
  | some entry => .ok entry
  | none => .error .missing

def findText (tree : Tree) (text : String) : Except Error Entry :=
  if text.isEmpty then .error .missing
  else do
    tree.entry (← tree.locateNames text (text.startsWith "/") (Path.namesOf text))

def find (tree : Tree) (path : Path) : Except Error Entry := do
  tree.entry (← tree.locate path)

/-- The entry at a path is of a kind. Of the ways in which a path leads nowhere only its length is
an error. -/
def isOfKind (tree : Tree) (path : Path) (kind : Entry → Bool) : Except Error Bool :=
  match tree.find path with
  | .ok entry => .ok (kind entry)
  | .error .tooLong => .error .tooLong
  | .error _ => .ok false

def isFile (tree : Tree) (path : Path) : Except Error Bool :=
  tree.isOfKind path (· ≠ .directory)

def isDirectory (tree : Tree) (path : Path) : Except Error Bool :=
  tree.isOfKind path (· = .directory)

def read (tree : Tree) (path : Path) : Except Error String := do
  match ← tree.find path with
  | .file text => .ok text
  | .directory => .error .isDirectory

def put (tree : Tree) (location : Location) (entry : Entry) : Tree :=
  { tree with entries := Entries.insert location entry tree.entries }

def makeDirectory (tree : Tree) (path : Path) : Except Error Tree := do
  let location ← tree.locate path
  match tree.at? location with
  | some _ => .error .present
  | none => .ok (tree.put location .directory)

structure Change where
  tree : Tree
  error : Option Error := none
deriving DecidableEq, Repr

def orPresent (tree : Tree) (path : Path) (error : Error) : Change :=
  match tree.isDirectory path with
  | .ok true => { tree }
  | .ok false => { tree, error := some error }
  | .error other => { tree, error := some other }

def makeDirectories (tree : Tree) (root : String) : List String → Change
  | [] => { tree }
  | name :: outer =>
    let path : Path := ⟨root, (name :: outer).reverse⟩
    match tree.makeDirectory path with
    | .ok made => { tree := made }
    | .error .missing =>
      match makeDirectories tree root outer with
      | { tree := around, error := none } =>
        match around.makeDirectory path with
        | .ok made => { tree := made }
        | .error error => around.orPresent path error
      | stopped => stopped
    | .error error => tree.orPresent path error

def write (tree : Tree) (path : Path) (text : String) : Except Error Tree := do
  let location ← tree.locate path
  match tree.at? location with
  | some .directory => .error .isDirectory
  | _ => .ok (tree.put location (.file text))

def addFrom (entry : Entry) (done : Location) (tree : Tree) : List String → Tree
  | [] => tree
  | [name] => tree.put (done ++ [name]) entry
  | name :: next :: rest =>
    let location := done ++ [name]
    let around := if (tree.at? location).isSome then tree else tree.put location .directory
    addFrom entry location around (next :: rest)

def add (tree : Tree) (path : Path) (entry : Entry) : Tree :=
  addFrom entry tree.current tree path.names

def filesBeyond (tree before : Tree) : List (Location × String) :=
  tree.entries.filterMap fun
    | (location, .file text) =>
      if before.at? location = some (.file text) then none else some (location, text)
    | (_, .directory) => none

end Tree

end CurlScript
