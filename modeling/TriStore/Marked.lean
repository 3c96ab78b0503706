import TriStore.Cache.Footprint
import TriStore.Json.Writer
import TriStore.Policy.Basic
import TriStore.Value.Order

/-!
Marks for values that JSON cannot hold.
-/
namespace TriStore.Marked

def membersOf (v : Value) : Except Failure (List Value) :=
  match v.members? with
  | some vs => .ok vs
  | none => .error .wrongKind

def setOf (vs : List Value) : Except Failure Value :=
  if vs.all Value.canBeKey then .ok (.ofMembers (Value.distinct vs)) else .error .wrongKind

def textOf : Value → Except Failure String
  | .text s => .ok s
  | _ => .error .wrongKind

def dateOf (s : String) : Except Failure Value :=
  match Moment.dayOfIso s with
  | .ok d => .ok (.date d)
  | .error e => .error (.badDate e)

def momentOf (s : String) : Except Failure Value :=
  match Moment.ofIso s with
  | .ok t => .ok (.moment t)
  | .error e => .error (.badDate e)

def entryOf (v : Value) : Except Failure Value := do
  let e ← Entry.ofValue v
  return .other "IndexEntry" e.literal (Footprint.ofEntry e)

def fieldOf (v : Value) (name : String) : Except Failure Value :=
  match v.field? name with
  | some w => .ok w
  | none => .error .missingKey

def resultOf (v : Value) : Except Failure Value := do
  let e ← Entry.ofValue (← fieldOf v "entry")
  let source ← Source.ofLabel (← fieldOf v "source")
  let score := (v.field? "score").getD (.float (Binary64.zero false))
  let kind := (v.field? "match_type").getD (.text "")
  let shown := "SearchResult(entry=" ++ e.literal ++ ", source=" ++ Value.literal (.source source) ++
    ", score=" ++ score.literal ++ ", match_type=" ++ kind.literal ++
    ", is_duplicate=False, version_conflict=None, update_available_from=None)"
  return .other "SearchResult" shown
    (.record [Footprint.ofEntry e, .scalar, Footprint.ofValue score, Footprint.ofValue kind, .scalar,
      .scalar, .scalar])

def bearerOf : Value → Except Failure Value
  | .map kvs =>
    let shown := kvs.map fun (k, v) => k.display ++ "=" ++ v.literal
    .ok (.other "SimpleNamespace" ("namespace(" ++ Text.join ", " shown ++ ")")
      (.bearer (Footprint.ofPairs kvs)))
  | _ => .error .wrongKind

/-- What a mark stands for: `raw` is what it is put on, `inner` the same with its own marks read. -/
def ofMark? (mark : String) (raw : Value) (inner : Except Failure Value) : Option (Except Failure Value) :=
  match mark with
  | "$bytes" => some do return .bytes (Text.Hex.decode (← textOf raw))
  | "$tuple" => some do return .tuple (← membersOf (← inner))
  | "$set" => some do setOf (← membersOf (← inner))
  | "$date" => some do dateOf (← textOf raw)
  | "$datetime" => some do momentOf (← textOf raw)
  | "$source" => some do return .source (← Source.ofLabel raw)
  | "$entry" => some (entryOf raw)
  | "$result" => some (resultOf raw)
  | "$object" => some do bearerOf (← inner)
  | "$opaque" => some (.ok (.other "object" "<object object>" .sealed))
  | _ => none

mutual

def decode : Value → Except Failure Value
  | .list vs => return .list (← decodeAll vs)
  | .map kvs =>
    let inner := decodePairs kvs
    let plain := inner.map Value.map
    match kvs with
    | [(.text mark, raw)] =>
      (ofMark? mark raw (inner.map fun found => (found.map (·.2)).headD .null)).getD plain
    | _ => plain
  | v => .ok v

def decodeAll : List Value → Except Failure (List Value)
  | [] => .ok []
  | v :: vs => return (← decode v) :: (← decodeAll vs)

def decodePairs : List (Value × Value) → Except Failure (List (Value × Value))
  | [] => .ok []
  | (k, v) :: kvs => return (k, ← decode v) :: (← decodePairs kvs)

end

def marked (mark text : String) : Value := .record [(mark, .text text)]

mutual

/-- A value with marks for what JSON cannot hold; the members of a set in the order of their texts. -/
def encode : Value → Value
  | .float x => marked "$float" x.toText
  | .bytes bs => marked "$bytes" (Text.Hex.encode bs)
  | .date d => marked "$date" d.toText
  | .moment t => marked "$datetime" (t.toText "T")
  | .source s => .text s.label
  | .list vs | .tuple vs => .list (encodeAll vs)
  | .set vs =>
    let texts := (encodeAll vs).map fun v => (Json.compactAscii v, v)
    .record [("$set", .list ((texts.mergeSort fun a b => Text.le a.1 b.1).map (·.2)))]
  | .map kvs =>
    if kvs.all fun kv => kv.1.isText then .map (encodeValues kvs)
    else .record [("$pairs", .list (encodePairs kvs))]
  | .other _ shown _ => .text shown
  | v => v

def encodeAll : List Value → List Value
  | [] => []
  | v :: vs => encode v :: encodeAll vs

def encodeValues : List (Value × Value) → List (Value × Value)
  | [] => []
  | (k, v) :: kvs => (k, encode v) :: encodeValues kvs

def encodePairs : List (Value × Value) → List Value
  | [] => []
  | (k, v) :: kvs => .list [encode k, encode v] :: encodePairs kvs

end

/-- The same for a value that may refer to itself, which has no end. -/
def encodeFinite (v : Value) : Except Failure Value :=
  if v.isCyclic then .error .tooDeep else .ok (encode v)

end TriStore.Marked
