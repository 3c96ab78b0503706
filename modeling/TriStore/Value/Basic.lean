import TriStore.Calendar.Basic
import TriStore.Number.Binary64
import TriStore.Source
import TriStore.Text.Points

/-!
Values of the documents that settings, policies, listings and element headers are read from, and a rough
count of the bytes they take up.
-/
namespace TriStore

namespace Footprint

inductive Shape where
  | scalar
  | text (length : Nat)
  | bytes (length : Nat)
  | mapping (members : List (Shape × Shape))
  | sequence (members : List Shape)
  | record (fields : List Shape)
  | bearer (attributes : List (Shape × Shape))
  | sealed
  deriving Repr, Inhabited

mutual

def size (room : Nat) : Shape → Nat
  | .scalar => 8
  | .text n => n * 2
  | .bytes n => n
  | .mapping kvs => if room == 0 then 64 else 64 + pairSizes (room - 1) kvs
  | .sequence vs => if room == 0 then 64 else 32 + sizes (room - 1) vs
  | .record vs => if room == 0 then 64 else 64 + sizes (room - 1) vs
  | .bearer kvs =>
    if room == 0 then 64
    else if room == 1 then 128
    else 128 + pairSizes (room - 2) kvs
  | .sealed => 64

def sizes (room : Nat) : List Shape → Nat
  | [] => 0
  | v :: vs => size room v + sizes room vs

def pairSizes (room : Nat) : List (Shape × Shape) → Nat
  | [] => 0
  | (k, v) :: kvs => size room k + size room v + pairSizes room kvs

end

def depth : Nat := 6

def estimate (s : Shape) : Nat := size depth s

end Footprint

/-- A value of a document. A mapping keeps its keys in the order they were given. -/
inductive Value where
  | null
  | bool (b : Bool)
  | int (n : Int)
  | float (x : Binary64)
  | text (s : String)
  | bytes (bs : List UInt8)
  | date (d : Date)
  | moment (t : Moment)
  | source (s : Source)
  | list (vs : List Value)
  | tuple (vs : List Value)
  | set (vs : List Value)
  | map (kvs : List (Value × Value))
  /-- A collection around this place: the nearest one, or one `up` levels further out. -/
  | again (up : Nat)
  /-- Something that documents do not hold: the name of its kind, the text it is shown as and its shape. -/
  | other (kind shown : String) (shape : Footprint.Shape)
  deriving Repr, Inhabited

namespace Value

/-- Whether the value counts as given: not null, not false, not zero and not empty. -/
def isGiven : Value → Bool
  | .null => false
  | .bool b => b
  | .int n => n != 0
  | .float x => !x.isZero
  | .text s => !s.isEmpty
  | .bytes bs => !bs.isEmpty
  | .date _ | .moment _ | .source _ | .again _ | .other _ _ _ => true
  | .list vs | .tuple vs | .set vs => !vs.isEmpty
  | .map kvs => !kvs.isEmpty

def kindName : Value → String
  | .null => "NoneType"
  | .bool _ => "bool"
  | .int _ => "int"
  | .float _ => "float"
  | .text _ => "str"
  | .bytes _ => "bytes"
  | .date _ => "date"
  | .moment _ => "datetime"
  | .source _ => "BackendSource"
  | .list _ => "list"
  | .tuple _ => "tuple"
  | .set _ => "set"
  | .map _ | .again _ => "dict"
  | .other kind _ _ => kind

def magnitude? : Value → Option Magnitude
  | .bool b => some (.value (if b then 1 else 0))
  | .int n => some (.value n)
  | .float x => some (Magnitude.ofBinary64 x)
  | _ => none

def isText : Value → Bool
  | .text _ => true
  | _ => false

def isMap : Value → Bool
  | .map _ => true
  | _ => false

mutual

def canBeKey : Value → Bool
  | .list _ | .set _ | .map _ | .again _ => false
  | .tuple vs => allCanBeKeys vs
  | .other kind _ _ => kind == "object"
  | _ => true

def allCanBeKeys : List Value → Bool
  | [] => true
  | v :: vs => canBeKey v && allCanBeKeys vs

end

def sameScalar (a b : Value) : Bool :=
  match a.magnitude?, b.magnitude? with
  | some x, some y => x.same y
  | some _, none | none, some _ => false
  | none, none =>
    match a, b with
    | .null, .null => true
    | .text s, .text t => s == t
    | .bytes s, .bytes t => s == t
    | .date s, .date t => s == t
    | .moment s, .moment t => s.isSameAs t
    | .source s, .source t => s == t
    | _, _ => false

/-- Whether both are the undefined number, which differs from itself unless it is a member or a key. -/
def areUndefined (a b : Value) : Bool :=
  match a, b with
  | .float .nan, .float .nan => true
  | _, _ => false

mutual

/-- Whether `b` has all that `a` has. Two values are the same when this holds both ways. -/
def within : Value → Value → Bool
  | .list vs, .list ws => withinEach vs ws
  | .tuple vs, .tuple ws => withinEach vs ws
  | .set vs, .set ws => withinSome vs ws
  | .map kvs, .map lws => withinPairs kvs lws
  | a, b => sameScalar a b

def withinEach : List Value → List Value → Bool
  | [], [] => true
  | v :: vs, w :: ws => (areUndefined v w || within v w) && withinEach vs ws
  | _, _ => false

def withinSome : List Value → List Value → Bool
  | [], _ => true
  | v :: vs, ws => ws.any (fun w => areUndefined v w || within v w) && withinSome vs ws

def withinPairs : List (Value × Value) → List (Value × Value) → Bool
  | [], _ => true
  | (k, v) :: kvs, lws =>
    lws.any (fun lw => (areUndefined k lw.1 || sameScalar k lw.1) && (areUndefined v lw.2 || within v lw.2)) &&
      withinPairs kvs lws

end

/-- Equality as documents see it: numbers by their value, sets and mappings without order. -/
def same (a b : Value) : Bool := within a b && within b a

theorem same_comm (a b : Value) : same a b = same b a := Bool.and_comm _ _

def isOne (a b : Value) : Bool := areUndefined a b || same a b

instance : BEq Value := ⟨isOne⟩

def lookup (key : Value) (kvs : List (Value × Value)) : Option Value :=
  (kvs.find? fun kv => kv.1.isOne key).map (·.2)

def field? (v : Value) (key : String) : Option Value :=
  match v with
  | .map kvs => lookup (.text key) kvs
  | _ => none

def fieldNames : Value → List String
  | .map kvs => kvs.filterMap fun (k, _) =>
    match k with
    | .text s => some s
    | _ => none
  | _ => []

def insert (key value : Value) : List (Value × Value) → List (Value × Value)
  | [] => [(key, value)]
  | (k, v) :: kvs => if k.isOne key then (k, value) :: kvs else (k, v) :: insert key value kvs

/-- The members of a value taken as a list: of a list, the keys of a mapping, the characters of a text. -/
def members? : Value → Option (List Value)
  | .list vs | .tuple vs | .set vs => some vs
  | .map kvs => some (kvs.map (·.1))
  | .text s => some ((Text.singles s.toList).map fun one => .text (String.ofList one))
  | .bytes bs => some (bs.map fun b => .int b.toNat)
  | _ => none

def whole? : Value → Option Int
  | .bool b => some (if b then 1 else 0)
  | .int n => some n
  | _ => none

def distinct (vs : List Value) : List Value :=
  vs.foldl (fun acc v => if acc.any (·.isOne v) then acc else acc ++ [v]) []

def record (fields : List (String × Value)) : Value := .map (fields.map fun (k, v) => (.text k, v))

def texts (ss : List String) : Value := .list (ss.map .text)

mutual

def isCyclic : Value → Bool
  | .again _ => true
  | .list vs | .tuple vs | .set vs => anyCyclic vs
  | .map kvs => anyPairCyclic kvs
  | _ => false

def anyCyclic : List Value → Bool
  | [] => false
  | v :: vs => isCyclic v || anyCyclic vs

def anyPairCyclic : List (Value × Value) → Bool
  | [] => false
  | (k, v) :: kvs => isCyclic k || isCyclic v || anyPairCyclic kvs

end

mutual

/-- The value with `outer` put in for the references to the collection `depth` levels out. -/
def close (outer : Value) (depth : Nat) : Value → Value
  | .again up => if up == depth then outer else .again up
  | .list vs => .list (closeAll outer (depth + 1) vs)
  | .tuple vs => .tuple (closeAll outer (depth + 1) vs)
  | .set vs => .set (closeAll outer (depth + 1) vs)
  | .map kvs => .map (closePairs outer (depth + 1) kvs)
  | v => v

def closeAll (outer : Value) (depth : Nat) : List Value → List Value
  | [] => []
  | v :: vs => close outer depth v :: closeAll outer depth vs

def closePairs (outer : Value) (depth : Nat) : List (Value × Value) → List (Value × Value)
  | [] => []
  | (k, v) :: kvs => (close outer depth k, close outer depth v) :: closePairs outer depth kvs

end

/-- The value with its members free of references to it, so that each can stand on its own. -/
def opened (v : Value) : Value :=
  if !v.isCyclic then v
  else match v with
    | .list vs => .list (vs.map (close v 0))
    | .tuple vs => .tuple (vs.map (close v 0))
    | .map kvs => .map (kvs.map fun kw => (kw.1, close v 0 kw.2))
    | v => v

def ofOption {α : Type} (f : α → Value) : Option α → Value
  | some a => f a
  | none => .null

end Value

end TriStore
