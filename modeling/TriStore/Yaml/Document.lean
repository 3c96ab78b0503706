import TriStore.Digest.Base64
import TriStore.Value.Order
import TriStore.Yaml.Node

/-!
The nodes of a YAML document as a graph, and its value.
-/
namespace TriStore.Yaml

inductive Cell where
  | scalar (tag : Tag) (text : String)
  | sequence (tag : Tag) (items : List Nat)
  | mapping (tag : Tag) (pairs : List (Nat × Nat))
  deriving Repr, Inhabited

def Cell.tag : Cell → Tag
  | .scalar t _ | .sequence t _ | .mapping t _ => t

abbrev Graph := Array Cell

namespace Graph

def add (c : Cell) : StateM Graph Nat := modifyGet fun g => (g.size, g.push c)

mutual

def place : Node → StateM Graph Nat
  | .named number => return number
  | .scalar tag text => add (.scalar tag text)
  | .sequence tag items => do add (.sequence tag (← placeAll items))
  | .mapping tag pairs => do add (.mapping tag (← placePairs pairs))

def placeAll : List Node → StateM Graph (List Nat)
  | [] => return []
  | n :: ns => do
    let number ← place n
    return number :: (← placeAll ns)

def placePairs : List (Node × Node) → StateM Graph (List (Nat × Nat))
  | [] => return []
  | (k, v) :: kvs => do
    let key ← place k
    let value ← place v
    return (key, value) :: (← placePairs kvs)

end

def cellOf : Node → StateM Graph Cell
  | .scalar tag text => return .scalar tag text
  | .sequence tag items => return .sequence tag (← placeAll items)
  | .mapping tag pairs => return .mapping tag (← placePairs pairs)
  | .named number => return (← get).getD number default

def ofDocument (d : Document) : Nat × Graph :=
  let anchored (number : Nat) : StateM Graph Unit := do
    let c ← cellOf (d.table.getD number Read.empty)
    modify (·.setIfInBounds number c)
  let all : StateM Graph Nat := do
    (List.range d.table.size).forM anchored
    place d.root
  all.run (d.table.map fun _ => default)

def cell (g : Graph) (number : Nat) : Cell := g.getD number default

def tag (g : Graph) (number : Nat) : Tag := (g.cell number).tag

def pairs (g : Graph) (number : Nat) : List (Nat × Nat) :=
  match g.cell number with
  | .mapping _ pairs => pairs
  | _ => []

def setPairs (g : Graph) (number : Nat) (pairs : List (Nat × Nat)) : Graph :=
  g.setIfInBounds number (.mapping (g.tag number) pairs)

def settleKey (g : Graph) (key : Nat) : Graph :=
  match g.cell key with
  | .scalar .valueKey text => g.setIfInBounds key (.scalar .text text)
  | .sequence .valueKey items => g.setIfInBounds key (.sequence .text items)
  | .mapping .valueKey pairs => g.setIfInBounds key (.mapping .text pairs)
  | _ => g

def mergeCount (g : Graph) : Nat :=
  ((List.range g.size).map fun n => (g.pairs n).countP fun p => g.tag p.1 == .merge).foldr (· + ·) 0

/-- Takes the pairs that merge others out of a mapping and puts the pairs of these, merged themselves, in
front of its own. -/
def merge : Nat → Nat → StateT Graph (Except Fault) Unit
  | 0, _ => throw .malformed
  | fuel + 1, number => do
    let g ← get
    let own := g.pairs number
    match own.findIdx? fun p => g.tag p.1 == .merge with
    | none => set ((own.map (·.1)).foldl settleKey g)
    | some i =>
      set (g.setPairs number (own.eraseIdx i))
      let pairsOf (n : Nat) : StateT Graph (Except Fault) (List (Nat × Nat)) := do
        match (← get).cell n with
        | .mapping _ _ =>
          merge fuel n
          return (← get).pairs n
        | _ => throw .malformed
      let source := (own.getD i default).2
      let merged ← match g.cell source with
        | .sequence _ items => do
          let parts ← items.mapM pairsOf
          pure parts.reverse.flatten
        | _ => pairsOf source
      merge fuel number
      modify fun g => g.setPairs number (merged ++ g.pairs number)

/-- The text of a node where a scalar is wanted: of a scalar, or of a mapping under the equals sign. -/
def scalarText (g : Graph) : Nat → Nat → Except Fault String
  | 0, _ => throw (.failure .tooDeep)
  | fuel + 1, number =>
    match g.cell number with
    | .scalar _ text => return text
    | .sequence _ _ => throw .malformed
    | .mapping _ pairs =>
      match pairs.find? fun p => g.tag p.1 == .valueKey with
      | some p => g.scalarText fuel p.2
      | none => throw .malformed

end Graph

def boolOf (s : String) : Except Fault Value :=
  let word := String.ofList (s.toList.map Char.toLower)
  if ["yes", "true", "on"].contains word then .ok (.bool true)
  else if ["no", "false", "off"].contains word then .ok (.bool false)
  else .error (.failure .missingKey)

def binaryOf (s : String) : Except Fault Value :=
  if s.toList.all (·.toNat < 128) then
    match Base64.decode? s.toList with
    | some bs => .ok (.bytes bs)
    | none => .error .malformed
  else .error .malformed

def stampOf (s : String) : Except Fault Value :=
  match WrittenStamp.ofChars? s.toList with
  | none => .error (.failure .unsuited)
  | some w => do
    match ← w.value with
    | .inl d => return .date d
    | .inr t => return .moment t

def scalarOf (tag : Tag) (s : String) : Except Fault Value :=
  match tag with
  | .null => .ok .null
  | .bool => boolOf s
  | .int => (Number.int s).map .int
  | .float => (Number.float s).map .float
  | .text => .ok (.text s)
  | .binary => binaryOf s
  | .timestamp => stampOf s
  | .merge | .valueKey | .unknown | .seq | .map | .set | .omap | .pairs => .error .malformed

inductive Made where
  | scalar (v : Value)
  | list (items : List Nat)
  | pairs (items : List (Nat × Nat))
  | map (items : List (Nat × Nat))
  | set (members : List Nat)
  deriving Repr, Inhabited

/-- The nodes, what they have become, and the collections still to be filled, the last one first. -/
structure Work where
  graph : Graph
  made : Array (Option Made)
  waiting : List Nat := []

abbrev Making := StateT Work (Except Fault)

namespace Making

def become (number : Nat) (m : Made) : Making Unit :=
  modify fun w => { w with made := w.made.setIfInBounds number (some m) }

def start (number : Nat) (m : Made) : Making Unit := do
  become number m
  modify fun w => { w with waiting := number :: w.waiting }

def scalarAt (number : Nat) : Making Value := do
  let g := (← get).graph
  match g.cell number with
  | .scalar tag text => liftExcept (scalarOf tag text)
  | c =>
    if [.merge, .valueKey, .unknown].contains c.tag then throw .malformed
    let text ← liftExcept (g.scalarText (g.size + 1) number)
    if c.tag == .timestamp then throw (.failure .wrongKind)
    liftExcept (scalarOf c.tag text)

def make (number : Nat) : Making Unit := do
  let w ← get
  if (w.made.getD number none).isNone then
    match w.graph.tag number with
    | .seq => start number (.list [])
    | .omap | .pairs => start number (.pairs [])
    | .map => start number (.map [])
    | .set => start number (.set [])
    | _ => do
      let v ← scalarAt number
      become number (.scalar v)

def scalar? (number : Nat) : Making (Option Value) := do
  match (← get).made.getD number none with
  | some (.scalar v) => return some v
  | _ => return none

/-- Whether two keys are one: their nodes are one, or their values are the same. -/
def isOneKey (g : Graph) (a b : Nat × Value) : Bool :=
  let isNamed (n : Nat) : Bool := (g.scalarText (g.size + 1) n).toOption.any Number.isUndefined
  match a.2, b.2 with
  | .float .nan, .float .nan => a.1 == b.1 || (isNamed a.1 && isNamed b.1)
  | v, w => v.same w

def insert (key : Nat) (v : Value) (value : Nat) (acc : List ((Nat × Value) × Nat)) :
    Making (List ((Nat × Value) × Nat)) := do
  let g := (← get).graph
  if acc.any fun e => isOneKey g e.1 (key, v) then
    return acc.map fun e => if isOneKey g e.1 (key, v) then (e.1, value) else e
  else return acc ++ [((key, v), value)]

def entries (number : Nat) : Making (List (Nat × Nat)) := do
  let w ← get
  match w.graph.cell number with
  | .mapping _ _ =>
    let ((), graph) ← liftExcept ((Graph.merge (w.graph.mergeCount + 1) number).run w.graph)
    set { w with graph }
    let made ← (graph.pairs number).foldlM
      (fun acc (p : Nat × Nat) => do
        make p.1
        let some v ← scalar? p.1 | throw .malformed
        make p.2
        insert p.1 v p.2 acc) []
    return made.map fun e => (e.1.1, e.2)
  | _ => throw .malformed

def onlyPair (number : Nat) : Making (Nat × Nat) := do
  match (← get).graph.cell number with
  | .mapping _ [(k, v)] =>
    make k
    make v
    return (k, v)
  | _ => throw .malformed

def fill (number : Nat) : Making Unit := do
  let g := (← get).graph
  match g.tag number, g.cell number with
  | .seq, .sequence _ items =>
    items.forM make
    become number (.list items)
  | .omap, .sequence _ items | .pairs, .sequence _ items =>
    become number (.pairs (← items.mapM onlyPair))
  | .map, _ => become number (.map (← entries number))
  | .set, _ => become number (.set ((← entries number).map (·.1)))
  | _, _ => throw .malformed

/-- Makes the members of all collections, level by level. -/
def fillAll : Nat → Making Unit
  | 0 => return ()
  | fuel + 1 => do
    let w ← get
    if !w.waiting.isEmpty then
      set { w with waiting := [] }
      w.waiting.reverse.forM fill
      fillAll fuel

end Making

/-- A value, and how many of the collections around it it refers to. -/
structure Built where
  value : Value
  reach : Nat := 0
  cyclic : Bool := false
  deriving Inhabited

def Built.around (parts : List Built) (value : Value) : Built :=
  { value, reach := (parts.map (·.reach)).foldl max 0 - 1, cyclic := parts.any (·.cyclic) }

/-- The value of a node; `outer` holds the numbers of the collections around it. -/
def Built.ofMade (made : Array (Option Made)) : Nat → List (Option Nat) → Nat → StateM (Array (Option Built)) Built
  | 0, _, _ => return default
  | fuel + 1, outer, number => do
    match outer.idxOf? (some number), (← get).getD number none with
    | some up, _ => return { value := .again up, reach := up + 1, cyclic := true }
    | none, some known => return known
    | none, none =>
      let inner := some number :: outer
      let both (inner : List (Option Nat)) (p : Nat × Nat) : StateM (Array (Option Built)) (Built × Built) :=
        return (← ofMade made fuel inner p.1, ← ofMade made fuel inner p.2)
      let b ← match made.getD number none with
        | none => pure default
        | some (.scalar value) => pure { value }
        | some (.list items) => do
          let vs ← items.mapM (ofMade made fuel inner)
          pure (around vs (.list (vs.map (·.value))))
        | some (.pairs items) => do
          let kvs ← items.mapM (both (none :: inner))
          let vs := kvs.map fun (k, v) => around [k, v] (.tuple [k.value, v.value])
          pure (around vs (.list (vs.map (·.value))))
        | some (.map items) => do
          let kvs ← items.mapM (both inner)
          pure (around (kvs.map (·.2)) (.map (kvs.map fun (k, v) => (k.value, v.value))))
        | some (.set members) => do
          let vs ← members.mapM (ofMade made fuel inner)
          pure { value := .ofKeys (vs.map (·.value)) }
      if b.reach == 0 then modify (·.setIfInBounds number (some b))
      return b

def Document.value (d : Document) : Except Fault Built := do
  let (root, graph) := Graph.ofDocument d
  let all : Making Unit := do
    Making.make root
    Making.fillAll (graph.size + 1)
  let ((), w) ← all.run { graph, made := graph.map fun _ => none }
  return ((Built.ofMade w.made (2 * graph.size + 2) [] root).run (graph.map fun _ => none)).1

/-- The value of the only document of a text; null when there is none. -/
def valueFrom (c : Cursor) : Except Fault Value := do
  match ← documentOf c with
  | none => return .null
  | some d =>
    let b ← d.value
    return if b.cyclic then b.value.opened else b.value

def isAllowed (c : Char) : Bool :=
  let n := c.toNat
  n == 9 || n == 10 || n == 13 || (0x20 ≤ n && n ≤ 0x7e) || n == 0x85 || (0xa0 ≤ n && n ≤ 0xd7ff) ||
    (0xe000 ≤ n && n ≤ 0xfffd) || (0x10000 ≤ n && !Text.isStandIn c)

def parse (s : String) : Except Fault Value :=
  if s.toList.all isAllowed then valueFrom { rest := s.toList } else .error .malformed

end TriStore.Yaml
