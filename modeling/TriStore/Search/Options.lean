import TriStore.Element.Key
import TriStore.Policy.Layers

/-!
What a search is asked to do.
-/
namespace TriStore

inductive Sorting where
  | relevance
  | name
  | version
  | source
  deriving DecidableEq, Repr, Inhabited

namespace Sorting

def all : List Sorting := [.relevance, .name, .version, .source]

def label : Sorting → String
  | .relevance => "relevance"
  | .name => "name"
  | .version => "version"
  | .source => "source"

def ofLabel? (s : String) : Option Sorting := all.find? (·.label == s)

def ofValue (v : Value) : Except Failure Sorting :=
  match v with
  | .text s => (ofLabel? s).elim (.error (.unknownChoice .sorting v.literal)) .ok
  | _ => .error (.unknownChoice .sorting v.literal)

end Sorting

/-- A number of pages or of findings on a page. The truth value true counts as one. -/
inductive Count where
  | number (n : Nat)
  | yes
  deriving DecidableEq, Repr, Inhabited

def Count.toNat : Count → Nat
  | .number n => n
  | .yes => 1

def Count.toValue : Count → Value
  | .number n => .int n
  | .yes => .bool true

inductive Amount where
  | whole (n : Int)
  | yes
  /-- A number with a fraction, which counts nothing unless it is below one. -/
  | fraction (x : Binary64)
  | other
  deriving DecidableEq, Repr, Inhabited

namespace Amount

def ofValue : Value → Amount
  | .int n => .whole n
  | .bool true => .yes
  | .bool false => .whole 0
  | .float x => .fraction x
  | _ => .other

def isOrdered : Amount → Bool
  | .other => false
  | _ => true

/-- The count that is meant; the least one is one, and it stands for all numbers below it. -/
def count? : Amount → Option Count
  | .whole n => some (.number (max n.toNat 1))
  | .yes => some .yes
  | .fraction x => if x.isBelow (.ofInt 1) then some (.number 1) else none
  | .other => none

/-- Why a page number and size, not both counts, give no page: one is beyond all numbers with a fraction, or
the first element has no place. -/
def refusal (page size : Amount) : Failure :=
  let isBeyond (n : Nat) : Bool := (Binary64.ofInt n).toRat?.isNone
  match page.count?, size.count? with
  | some number, none => if isBeyond (number.toNat - 1) then .overflow else .wrongKind
  | none, some count => if isBeyond count.toNat then .overflow else .wrongKind
  | _, _ => .wrongKind

end Amount

/-- Plain values in the place of a kind, a source or an order of sources. -/
structure Misfits where
  kind : Bool := false
  preferred : Bool := false
  priority : Option Value := none
  deriving Repr, Inhabited

structure SearchOptions where
  kind : Option Kind := none
  includeHome : Bool := true
  includeRemote : Bool := true
  includeRegistry : Bool := true
  /-- Visit every store and keep every copy. -/
  includeAll : Bool := false
  preferred : Option Source := none
  /-- An order for this search; an empty one counts as none. -/
  priority : List Source := []
  sorting : Sorting := .relevance
  page : Amount := .whole 1
  pageSize : Amount := .whole 20
  misfits : Misfits := {}
  deriving Repr, Inhabited

namespace SearchOptions

def includes (o : SearchOptions) : Source → Bool
  | .home => o.includeHome
  | .remote => o.includeRemote
  | .registry => o.includeRegistry

def shared (v : Value) : SearchOptions :=
  let usual : SearchOptions := {}
  let switch (name : String) (otherwise : Bool) : Bool := (v.field? name).elim otherwise (·.isGiven)
  { includeHome := switch "include_local" usual.includeHome
    includeRemote := switch "include_remote" usual.includeRemote
    includeRegistry := switch "include_registry" usual.includeRegistry
    includeAll := switch "include_all" usual.includeAll
    page := (v.field? "page").elim usual.page Amount.ofValue
    pageSize := (v.field? "page_size").elim usual.pageSize Amount.ofValue
    misfits.kind := (v.field? "element_type").elim false (·.isGiven) }

def sharedNames : List String := [
  "element_type", "include_local", "include_remote", "include_registry", "include_all",
  "preferred_source", "source_priority", "sort_by", "page", "page_size"]

def checkNames (known : List String) (v : Value) : Except Failure Unit :=
  if v.fieldNames.all known.contains then .ok () else .error .wrongKind

def given? (v : Value) (name : String) : Option Value :=
  match v.field? name with
  | none | some .null => none
  | some w => some w

def ofValue (v : Value) : Except Failure SearchOptions := do
  let kind ← (given? v "type").mapM Kind.ofValue
  let preferred ← (given? v "preferred_source").mapM Source.ofLabel
  let priority ← match given? v "source_priority" with
    | none => pure []
    | some w =>
      match w.members? with
      | some vs => vs.mapM Source.ofLabel
      | none => throw .wrongKind
  let sorting ← (given? v "sort_by").elim (pure .relevance) Sorting.ofValue
  checkNames ("type" :: sharedNames) v
  return { shared v with kind, preferred, priority, sorting }

def ofPlain (v : Value) : Except Failure SearchOptions := do
  checkNames sharedNames v
  let o := shared v
  return { o with
    misfits.preferred := (given? v "preferred_source").isSome
    misfits.priority := (given? v "source_priority").filter (·.isGiven) }

/-- The policy of a search: the order asked for, of it only the stores that are there and take part, the
preferred one first. -/
def apply (o : SearchOptions) (there : List Source) (p : Policy) : List String × Policy :=
  let (lines, p) := if o.priority.isEmpty then ([], p) else p.order o.priority
  let p := { p with priority := p.priority.filter fun s => o.includes s && there.contains s }
  match o.preferred with
  | none => (lines, p)
  | some s =>
    let (more, p) := p.prefer s
    (lines ++ more, p)

/-- An order of plain values: a faulty one is ignored with a warning, and any other cannot be followed. -/
def settleOrder (order : Value) : List String × Except Failure Unit :=
  match order.members? with
  | none => ([], .error .wrongKind)
  | some vs =>
    match Policy.readOrder (.list vs) with
    | .error e => ([], .error e)
    | .ok (_, []) => ([], .error .missingKey)
    | .ok (_, faults) => ([Policy.orderLine faults], .ok ())

/-- What comes of the misfits before a store is visited. A plain value is no source to prefer. -/
def settle (o : SearchOptions) : List String × Except Failure Unit :=
  let (lines, r) := o.misfits.priority.elim ([], .ok ()) settleOrder
  (lines, do
    r
    if o.misfits.preferred then .error .unsuited else .ok ())

end SearchOptions

end TriStore
