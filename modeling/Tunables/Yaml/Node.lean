import Tunables.Yaml.Token

/-!
# Nodes of a YAML text

A text holds at most one document, which is a tree of scalars, sequences and
mappings.  An anchor names a node, and a reference stands for the node of its
name.
-/

namespace Tunables.Yaml

/-- A node.  A tag, if one is given, says how it is meant. -/
inductive Node where
  | scalar (tag : Option String) (plain : Bool) (text : Text)
  | sequence (tag : Option String) (items : List Node)
  | mapping (tag : Option String) (entries : List (Node × Node))

namespace Node

/-- The node that stands where nothing is written. -/
def empty : Node :=
  .scalar none true ""

/-- What is left to be read, and the nodes that have a name. -/
structure Source where
  tokens : List Token
  anchors : List (String × Node)

abbrev Reading (α : Type) := StateT Source (Except Error) α

def peek : Reading Token := do
  match (← get).tokens with
  | [] => return .streamEnd
  | .broken error :: _ => throw error
  | token :: _ => return token

def skip : Reading Unit :=
  modify fun source => { source with tokens := source.tokens.drop 1 }

/-- Passes over a token that has to be next. -/
def expect (token : Token) : Reading Unit := do
  if (← peek) == token then skip else throw .order

/-- Passes over a token if it is next, and tells whether it was. -/
def accept (token : Token) : Reading Bool := do
  if (← peek) == token then
    skip
    return true
  else return false

/-- What the short form of a standard tag stands for. -/
def standardTags : String := "tag:yaml.org,2002:"

/-- The full form of a tag.  A short form that was not declared is out of
order. -/
def fullTag (written : String) : Except Error String :=
  let characters := written.toList
  match characters with
  | '!' :: '!' :: rest => .ok (standardTags ++ String.ofList rest)
  | '!' :: '<' :: rest => .ok (String.ofList (rest.takeWhile (· != '>')))
  | '!' :: rest => if rest.contains '!' then .error .order else .ok written
  | _ => .error .order

/-- A tag and an anchor in front of a node. -/
structure Properties where
  tag : Option String
  anchor : Option String

/-- Takes a tag, if it is next. -/
def takeTag : Reading (Option String) := do
  match ← peek with
  | .tag name =>
      skip
      match fullTag name with
      | .ok tag => return some tag
      | .error error => throw error
  | _ => return none

/-- Takes an anchor, if it is next. -/
def takeAnchor : Reading (Option String) := do
  match ← peek with
  | .anchor name =>
      skip
      return some name
  | _ => return none

/-- Takes a tag and an anchor in either order. -/
def takeProperties : Reading Properties := do
  let early ← takeAnchor
  let tag ← takeTag
  match early with
  | some anchor => return ⟨tag, some anchor⟩
  | none => return ⟨tag, ← takeAnchor⟩

/-- Checks that the name of an anchor is new. -/
def checkAnchor (anchor : Option String) : Reading Unit := do
  match anchor with
  | none => return ()
  | some name =>
      if ((← get).anchors.lookup name).isSome then throw .reference else return ()

/-- Gives a node the name of its anchor. -/
def remember (anchor : Option String) (node : Node) : Reading Node := do
  match anchor with
  | none => return node
  | some name =>
      modify fun source => { source with anchors := (name, node) :: source.anchors }
      return node

def resolve (name : String) : Reading Node := do
  match (← get).anchors.lookup name with
  | some node => return node
  | none => throw .reference

/-- Whether one of some tokens is next. -/
def isNext (tokens : List Token) : Reading Bool := do
  return tokens.contains (← peek)

mutual

/-- Takes a node.  In a block it may be a block itself; `indentless` tells
whether its items may stand at the column of the key in front. -/
def take (inBlock indentless : Bool) : (fuel : Nat) → Reading Node
  | 0 => throw .order
  | fuel + 1 => do
      if let .alias name ← peek then
        skip
        return ← resolve name
      let properties ← takeProperties
      checkAnchor properties.anchor
      let node ← takeContent inBlock indentless properties fuel
      remember properties.anchor node

/-- Takes what stands behind the tag and the anchor of a node. -/
def takeContent (inBlock indentless : Bool) (properties : Properties) :
    (fuel : Nat) → Reading Node
  | 0 => throw .order
  | fuel + 1 => do
      let tag := properties.tag
      match ← peek with
      | .blockEntry =>
          if indentless then return .sequence tag (← takeLooseItems fuel)
          else takeNothing properties
      | .scalar plain text =>
          skip
          return .scalar tag plain text
      | .flowSequenceStart =>
          skip
          return .sequence tag (← takeFlowItems true fuel)
      | .flowMappingStart =>
          skip
          return .mapping tag (← takeFlowEntries true fuel)
      | .blockSequenceStart =>
          if inBlock then
            skip
            return .sequence tag (← takeItems fuel)
          else takeNothing properties
      | .blockMappingStart =>
          if inBlock then
            skip
            return .mapping tag (← takeEntries fuel)
          else takeNothing properties
      | _ => takeNothing properties

/-- Takes an empty node, which has to have a tag or an anchor. -/
def takeNothing (properties : Properties) : Reading Node :=
  if properties.tag.isSome || properties.anchor.isSome then
    return .scalar properties.tag true ""
  else throw .order

/-- Takes the items of a block up to its end. -/
def takeItems : (fuel : Nat) → Reading (List Node)
  | 0 => throw .order
  | fuel + 1 => do
      if ← accept .blockEntry then
        let item ← takeUnless [.blockEntry, .blockEnd] true false fuel
        return item :: (← takeItems fuel)
      expect .blockEnd
      return []

/-- Takes items that stand at the column of the key in front. -/
def takeLooseItems : (fuel : Nat) → Reading (List Node)
  | 0 => throw .order
  | fuel + 1 => do
      if ← accept .blockEntry then
        let item ← takeUnless [.blockEntry, .key, .value, .blockEnd] true false fuel
        return item :: (← takeLooseItems fuel)
      return []

/-- Takes the entries of a block up to its end. -/
def takeEntries : (fuel : Nat) → Reading (List (Node × Node))
  | 0 => throw .order
  | fuel + 1 => do
      if ← accept .key then
        let key ← takeUnless [.key, .value, .blockEnd] true true fuel
        let value ← takeEntryValue [.key, .value, .blockEnd] true fuel
        return (key, value) :: (← takeEntries fuel)
      expect .blockEnd
      return []

/-- Takes a value behind a colon.  Without a colon, and in front of given tokens,
there is none. -/
def takeEntryValue (ends : List Token) (inBlock : Bool) : (fuel : Nat) → Reading Node
  | 0 => throw .order
  | fuel + 1 => do
      if ← accept .value then takeUnless ends inBlock inBlock fuel else return .empty

/-- Takes a node, unless one of some tokens is next. -/
def takeUnless (ends : List Token) (inBlock indentless : Bool) : (fuel : Nat) → Reading Node
  | 0 => throw .order
  | fuel + 1 => do
      if ← isNext ends then return .empty else take inBlock indentless fuel

def takeFlowItems (first : Bool) : (fuel : Nat) → Reading (List Node)
  | 0 => throw .order
  | fuel + 1 => do
      if ← accept .flowSequenceEnd then return []
      if !first then expect .flowEntry
      if ← accept .key then
        let key ← takeUnless [.value, .flowEntry, .flowSequenceEnd] false false fuel
        let value ← takeEntryValue [.flowEntry, .flowSequenceEnd] false fuel
        return .mapping none [(key, value)] :: (← takeFlowItems false fuel)
      if ← accept .flowSequenceEnd then return []
      let item ← take false false fuel
      return item :: (← takeFlowItems false fuel)

def takeFlowEntries (first : Bool) : (fuel : Nat) → Reading (List (Node × Node))
  | 0 => throw .order
  | fuel + 1 => do
      if ← accept .flowMappingEnd then return []
      if !first then expect .flowEntry
      if ← accept .key then
        let key ← takeUnless [.value, .flowEntry, .flowMappingEnd] false false fuel
        let value ← takeEntryValue [.flowEntry, .flowMappingEnd] false fuel
        return (key, value) :: (← takeFlowEntries false fuel)
      if ← accept .flowMappingEnd then return []
      let key ← take false false fuel
      return (key, .empty) :: (← takeFlowEntries false fuel)

end

/-- Whether a directive is one that can be followed. -/
def checkDirective : List Text → Except Error Unit
  | name :: version :: _ =>
      if name = "YAML" ∧ ¬ ("1." : Text).toList.isPrefixOf version.toList then .error .order
      else .ok ()
  | _ => .ok ()

/-- Passes over the directives in front of a document. -/
def takeDirectives : (fuel : Nat) → Reading Unit
  | 0 => throw .order
  | fuel + 1 => do
      match ← peek with
      | .directive words =>
          skip
          match checkDirective words with
          | .ok _ => takeDirectives fuel
          | .error error => throw error
      | _ => return ()

/-- Passes over marks at the end of documents. -/
def dropDocumentEnds : (fuel : Nat) → Reading Unit
  | 0 => throw .order
  | fuel + 1 => do
      if ← accept .documentEnd then dropDocumentEnds fuel else return ()

/-- Takes the mark in front of a document, unless the text ends; tells whether
there is a document. -/
def takeDocumentStart (fuel : Nat) : Reading Bool := do
  dropDocumentEnds fuel
  if ← isNext [.streamEnd] then return false
  takeDirectives fuel
  expect .documentStart
  return true

def takeMarkedDocument (fuel : Nat) : Reading Node := do
  match ← peek with
  | .directive _ => return .empty
  | _ => takeUnless [.documentStart, .documentEnd, .streamEnd] true false fuel

/-- Takes the document of a text, if there is one. -/
def takeDocument (fuel : Nat) : Reading (Option Node) := do
  let plainStart ← match ← peek with
    | .directive _ => pure false
    | .documentStart => pure false
    | .streamEnd => pure false
    | _ => pure true
  if plainStart then
    return some (← take true false fuel)
  if ← takeDocumentStart fuel then return some (← takeMarkedDocument fuel)
  return none

/-- Takes the document of a text and checks that no other one follows. -/
def takeOnly (fuel : Nat) : Reading (Option Node) := do
  let document ← takeDocument fuel
  if document.isSome then
    if ← takeDocumentStart fuel then throw .reference
  return document

/-- The document of a text, if there is one. -/
def ofText? (text : List Char) : Except Error (Option Node) :=
  let tokens := Token.ofText text
  ((takeOnly (4 * tokens.length + 8)).run ⟨tokens, []⟩).map (·.1)

end Node
end Tunables.Yaml
