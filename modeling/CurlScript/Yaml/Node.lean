import CurlScript.Yaml.Token

/-!
YAML documents as trees of nodes. Aliases stand for the nodes that they name.
-/

namespace CurlScript.Yaml

inductive Node where
  | scalar (tag : Option Tag) (plain : Bool) (text : String)
  | list (tag : Option Tag) (items : List Node)
  | mapping (tag : Option Tag) (entries : List (Node × Node))
deriving Repr

namespace Node

def absent : Node :=
  .scalar none true ""

structure Source where
  tokens : List Token
  anchors : List (String × Node) := []

abbrev Reading (α : Type) := StateT Source Option α

def peek : Reading (Option Token) :=
  return (← get).tokens.head?

def advance : Reading Unit :=
  modify fun source => { source with tokens := source.tokens.drop 1 }

def atAny (tokens : List Token) : Reading Bool :=
  return (← peek).all fun token => tokens.contains token

def skipped (token : Token) : Reading Bool := do
  if (← peek) = some token then
    advance
    return true
  else return false

def expect (token : Token) : Reading Unit := do
  if !(← skipped token) then failure

def setAnchor (name : String) (node : Node) : Reading Unit :=
  modify fun source => { source with anchors := (name, node) :: source.anchors }

def named (anchor : Option String) (stub : Node) (body : Reading Node) : Reading Node := do
  match anchor with
  | none => body
  | some name =>
    if ((← get).anchors.lookup name).isSome then failure
    else
      setAnchor name stub
      let node ← body
      setAnchor name node
      return node

def aliased (name : String) : Reading Node := do
  match (← get).anchors.lookup name with
  | some node => return node
  | none => failure

def tagPart : Reading (Option Tag) := do
  match ← peek with
  | some (.tag tag) =>
    advance
    return some tag
  | _ => return none

def anchorPart : Reading (Option String) := do
  match ← peek with
  | some (.anchor name) =>
    advance
    return some name
  | _ => return none

def properties : Reading (Option String × Option Tag) := do
  match ← anchorPart with
  | some name => return (some name, ← tagPart)
  | none =>
    match ← tagPart with
    | some tag => return (← anchorPart, some tag)
    | none => return (none, none)

inductive Place where
  | flow
  | block
  | member
deriving DecidableEq, Repr

mutual

def read (place : Place) : Nat → Reading Node
  | 0 => failure
  | fuel + 1 => do
    match ← peek with
    | some (.alias name) =>
      advance
      aliased name
    | _ =>
      let (anchor, tag) ← properties
      match ← peek with
      | some .blockEntry =>
        if place = .member then named anchor (.list tag []) (return .list tag (← looseItems fuel))
        else emptyNode anchor tag
      | some (.scalar plain text) =>
        advance
        named anchor absent (return .scalar tag plain text)
      | some .flowListStart =>
        advance
        named anchor (.list tag []) (return .list tag (← flowItems true fuel))
      | some .flowMappingStart =>
        advance
        named anchor (.mapping tag []) (return .mapping tag (← flowEntries true fuel))
      | some .blockListStart =>
        if place = .flow then failure
        else
          advance
          named anchor (.list tag []) (return .list tag (← blockItems fuel))
      | some .blockMappingStart =>
        if place = .flow then failure
        else
          advance
          named anchor (.mapping tag []) (return .mapping tag (← blockEntries fuel))
      | _ => emptyNode anchor tag

def emptyNode (anchor : Option String) (tag : Option Tag) : Reading Node :=
  if anchor.isNone && tag.isNone then failure else named anchor absent (return .scalar tag true "")

def readUnless (place : Place) (ends : List Token) : Nat → Reading Node
  | 0 => failure
  | fuel + 1 => do
    if ← atAny ends then return absent else read place fuel

def looseItems : Nat → Reading (List Node)
  | 0 => failure
  | fuel + 1 => do
    if ← skipped .blockEntry then
      let item ← readUnless .block [.blockEntry, .key, .value, .blockEnd] fuel
      return item :: (← looseItems fuel)
    else return []

def blockItems : Nat → Reading (List Node)
  | 0 => failure
  | fuel + 1 => do
    if ← skipped .blockEntry then
      let item ← readUnless .block [.blockEntry, .blockEnd] fuel
      return item :: (← blockItems fuel)
    else
      expect .blockEnd
      return []

def valueAfter (place : Place) (ends : List Token) : Nat → Reading Node
  | 0 => failure
  | fuel + 1 => do
    if ← skipped .value then readUnless place ends fuel else return absent

def blockEntries : Nat → Reading (List (Node × Node))
  | 0 => failure
  | fuel + 1 => do
    if ← skipped .key then
      let key ← readUnless .member [.key, .value, .blockEnd] fuel
      let value ← valueAfter .member [.key, .value, .blockEnd] fuel
      return (key, value) :: (← blockEntries fuel)
    else
      expect .blockEnd
      return []

def flowItems (first : Bool) : Nat → Reading (List Node)
  | 0 => failure
  | fuel + 1 => do
    if ← skipped .flowListEnd then return []
    if !first then expect .flowEntry
    if ← skipped .flowListEnd then return []
    let item ←
      if ← skipped .key then do
        let key ← readUnless .flow [.value, .flowEntry, .flowListEnd] fuel
        let value ← valueAfter .flow [.flowEntry, .flowListEnd] fuel
        pure (.mapping none [(key, value)])
      else read .flow fuel
    return item :: (← flowItems false fuel)

def flowEntries (first : Bool) : Nat → Reading (List (Node × Node))
  | 0 => failure
  | fuel + 1 => do
    if ← skipped .flowMappingEnd then return []
    if !first then expect .flowEntry
    if ← skipped .flowMappingEnd then return []
    let entry ←
      if ← skipped .key then do
        let key ← readUnless .flow [.value, .flowEntry, .flowMappingEnd] fuel
        let value ← valueAfter .flow [.flowEntry, .flowMappingEnd] fuel
        pure (key, value)
      else do
        let key ← read .flow fuel
        pure (key, absent)
    return entry :: (← flowEntries false fuel)

end

def skipAll (token : Token) : Reading Unit :=
  modify fun source => { source with tokens := source.tokens.dropWhile (· == token) }

def document (fuel : Nat) : Reading (Option Node) := do
  if (← peek).isNone then return none
  let node ←
    if ← atAny [.directive, .documentStart] then do
      skipAll .directive
      expect .documentStart
      readUnless .block [.directive, .documentStart, .documentEnd] fuel
    else read .block fuel
  skipAll .documentEnd
  if (← peek).isSome then failure
  return some node

def ofTokens? (tokens : List Token) : Option (Option Node) :=
  ((document (3 * tokens.length + 3)).run { tokens }).map (·.1)

end Node

end CurlScript.Yaml
