import TriStore.Yaml.Tokens
import TriStore.Yaml.Type

/-!
The nodes of a YAML document, read from its tokens.
-/
namespace TriStore.Yaml

inductive Node where
  | scalar (tag : Tag) (text : String)
  | sequence (tag : Tag) (items : List Node)
  | mapping (tag : Tag) (pairs : List (Node × Node))
  | named (number : Nat)
  deriving Repr, Inhabited

structure Reader where
  tokens : List Token
  anchors : List (String × Nat) := []
  /-- The anchored nodes by number; one that is still being read is empty. -/
  table : Array Node := #[]
  depth : Nat := 0
  handles : List (String × String) := [("!", "!"), ("!!", "tag:yaml.org,2002:")]

abbrev Read := StateT Reader (Except Fault)

namespace Read

def peek : Read Token := do
  match (← get).tokens with
  | t :: _ => match t with
    | .broken fault => throw fault
    | t => return t
  | [] => return .streamEnd

def advance : Read Unit := modify fun r => { r with tokens := r.tokens.drop 1 }

def malformed {α : Type} : Read α := throw .malformed

def empty : Node := .scalar .null ""

def declare (name : String) : Read Nat := do
  let r ← get
  if (r.anchors.lookup name).isSome then malformed
  else
    set { r with anchors := (name, r.table.size) :: r.anchors, table := r.table.push empty }
    return r.table.size

def define (number : Nat) (n : Node) : Read Unit :=
  modify fun r => { r with table := r.table.setIfInBounds number n }

def nodeNamed (name : String) : Read Node := do
  match (← get).anchors.lookup name with
  | some number => return .named number
  | none => malformed

def maxDepth : Nat := 488

def inside {α : Type} (act : Read α) : Read α := do
  let depth := (← get).depth
  if maxDepth ≤ depth then throw (.failure .tooDeep)
  modify fun r => { r with depth := depth + 1 }
  let a ← act
  modify fun r => { r with depth := depth }
  return a

structure Properties where
  anchor : Option String := none
  tag : Option String := none

def expandTag (handle : Option String) (suffix : String) : Read String := do
  match handle with
  | none => return suffix
  | some h =>
    match (← get).handles.lookup h with
    | some front => return front ++ suffix
    | none => malformed

def properties : Read Properties := do
  match ← peek with
  | .anchor name =>
    advance
    match ← peek with
    | .tag h s =>
      advance
      return { anchor := some name, tag := some (← expandTag h s) }
    | _ => return { anchor := some name }
  | .tag h s =>
    advance
    match ← peek with
    | .anchor name =>
      advance
      return { anchor := some name, tag := some (← expandTag h s) }
    | _ => return { tag := some (← expandTag h s) }
  | _ => return {}

def Properties.isPresent (p : Properties) : Bool := p.anchor.isSome || p.tag.isSome

def Properties.scalarTag (p : Properties) (text : String) (plain : Bool) : Tag :=
  match p.tag with
  | none => if plain then Plain.tag text else .text
  | some "!" => Plain.tag text
  | some t => Tag.ofFull t

def Properties.collectionTag (p : Properties) (otherwise : Tag) : Tag :=
  match p.tag with
  | none | some "!" => otherwise
  | some t => Tag.ofFull t

def endsEntry : Token → Bool
  | .blockEntry | .blockEnd => true
  | _ => false

def endsIndentless : Token → Bool
  | .blockEntry | .key | .value | .blockEnd => true
  | _ => false

def endsPair : Token → Bool
  | .key | .value | .blockEnd => true
  | _ => false

def endsFlowKey (close : Token → Bool) : Token → Bool
  | .value | .flowEntry => true
  | t => close t

def endsFlowValue (close : Token → Bool) : Token → Bool
  | .flowEntry => true
  | t => close t

def closesSequence : Token → Bool
  | .flowSequenceEnd => true
  | _ => false

def closesMapping : Token → Bool
  | .flowMappingEnd => true
  | _ => false

mutual

/-- A node. `inBlock`: block collections are allowed; `indentless`: a sequence may stand as deep as the key
before it. -/
def node (inBlock indentless : Bool) : Nat → Read Node
  | 0 => malformed
  | n + 1 => do
    match ← peek with
    | .alias name =>
      advance
      nodeNamed name
    | _ =>
      let p ← properties
      match p.anchor with
      | none => content inBlock indentless p n
      | some name =>
        let number ← declare name
        define number (← content inBlock indentless p n)
        return .named number

def content (inBlock indentless : Bool) (p : Properties) : Nat → Read Node
  | 0 => malformed
  | n + 1 => do
    match ← peek with
    | .scalar text plain =>
      advance
      return .scalar (p.scalarTag text plain) text
    | .flowSequenceStart =>
      advance
      return .sequence (p.collectionTag .seq) (← inside (flowItems true n))
    | .flowMappingStart =>
      advance
      return .mapping (p.collectionTag .map) (← inside (flowPairs true n))
    | .blockEntry =>
      if indentless then return .sequence (p.collectionTag .seq) (← inside (indentlessItems n))
      else if p.isPresent then return .scalar (p.scalarTag "" true) ""
      else malformed
    | .blockSequenceStart =>
      if inBlock then
        advance
        return .sequence (p.collectionTag .seq) (← inside (blockItems n))
      else if p.isPresent then return .scalar (p.scalarTag "" true) ""
      else malformed
    | .blockMappingStart =>
      if inBlock then
        advance
        return .mapping (p.collectionTag .map) (← inside (blockPairs n))
      else if p.isPresent then return .scalar (p.scalarTag "" true) ""
      else malformed
    | _ => if p.isPresent then return .scalar (p.scalarTag "" true) "" else malformed

def nodeUnless (stop : Token → Bool) (inBlock indentless : Bool) : Nat → Read Node
  | 0 => malformed
  | n + 1 => do
    if stop (← peek) then return empty else node inBlock indentless n

def blockItems : Nat → Read (List Node)
  | 0 => malformed
  | n + 1 => do
    match ← peek with
    | .blockEntry =>
      advance
      let first ← nodeUnless endsEntry true false n
      return first :: (← blockItems n)
    | .blockEnd =>
      advance
      return []
    | _ => malformed

def indentlessItems : Nat → Read (List Node)
  | 0 => malformed
  | n + 1 => do
    match ← peek with
    | .blockEntry =>
      advance
      let first ← nodeUnless endsIndentless true false n
      return first :: (← indentlessItems n)
    | _ => return []

def blockPairs : Nat → Read (List (Node × Node))
  | 0 => malformed
  | n + 1 => do
    match ← peek with
    | .key =>
      advance
      let key ← nodeUnless endsPair true true n
      let value ← pairValue endsPair true n
      return (key, value) :: (← blockPairs n)
    | .blockEnd =>
      advance
      return []
    | _ => malformed

def pairValue (stop : Token → Bool) (inBlock : Bool) : Nat → Read Node
  | 0 => malformed
  | n + 1 => do
    match ← peek with
    | .value =>
      advance
      nodeUnless stop inBlock inBlock n
    | _ => return empty

def flowItems (first : Bool) : Nat → Read (List Node)
  | 0 => malformed
  | n + 1 => do
    if closesSequence (← peek) then
      advance
      return []
    else
      if !first then
        match ← peek with
        | .flowEntry => advance
        | _ => malformed
      match ← peek with
      | .flowSequenceEnd =>
        advance
        return []
      | .key =>
        advance
        let (key, value) ← inside do
          let key ← nodeUnless (endsFlowKey closesSequence) false false n
          let value ← pairValue (endsFlowValue closesSequence) false n
          return (key, value)
        return .mapping .map [(key, value)] :: (← flowItems false n)
      | _ =>
        let item ← node false false n
        return item :: (← flowItems false n)

def flowPairs (first : Bool) : Nat → Read (List (Node × Node))
  | 0 => malformed
  | n + 1 => do
    if closesMapping (← peek) then
      advance
      return []
    else
      if !first then
        match ← peek with
        | .flowEntry => advance
        | _ => malformed
      match ← peek with
      | .flowMappingEnd =>
        advance
        return []
      | .key =>
        advance
        let key ← nodeUnless (endsFlowKey closesMapping) false false n
        let value ← pairValue (endsFlowValue closesMapping) false n
        return (key, value) :: (← flowPairs false n)
      | _ =>
        let key ← node false false n
        return (key, empty) :: (← flowPairs false n)

end

/-- The directives before a document: at most one version, of the first edition, and handles, each declared
once. -/
def directives (versionSeen : Bool) (handles : List (String × String)) : Nat → Read (List (String × String))
  | 0 => malformed
  | n + 1 => do
    match ← peek with
    | .versionDirective major =>
      advance
      if versionSeen || major != 1 then malformed else directives true handles n
    | .tagDirective h expansion =>
      advance
      if (handles.lookup h).isSome then malformed else directives versionSeen ((h, expansion) :: handles) n
    | .otherDirective =>
      advance
      directives versionSeen handles n
    | _ => return handles

def skipDocumentEnds : Nat → Read Unit
  | 0 => return
  | n + 1 => do
    match ← peek with
    | .documentEnd =>
      advance
      skipDocumentEnds n
    | _ => return

def explicitDocument (fuel : Nat) : Read Node := do
  let declared ← directives false [] fuel
  match ← peek with
  | .documentStart => advance
  | _ => malformed
  modify fun r => { r with handles := declared ++ r.handles }
  match ← peek with
  | .versionDirective _ | .tagDirective _ _ | .otherDirective | .documentStart | .documentEnd
  | .streamEnd => return empty
  | _ => node true false fuel

def document (fuel : Nat) : Read (Option Node) := do
  let result ← match ← peek with
    | .streamEnd => return none
    | .versionDirective _ | .tagDirective _ _ | .otherDirective | .documentStart => do
      let n ← explicitDocument fuel
      pure (some n)
    | _ => do
      let n ← node true false fuel
      pure (some n)
  skipDocumentEnds fuel
  match ← peek with
  | .streamEnd => return result
  | _ => malformed

end Read

structure Document where
  root : Node
  table : Array Node
  deriving Inhabited

def documentOf (c : Cursor) : Except Fault (Option Document) := do
  let tokens := tokensOf c
  let (result, r) ← (Read.document (8 * tokens.length + 8)).run { tokens }
  return result.map fun root => { root, table := r.table }

end TriStore.Yaml
