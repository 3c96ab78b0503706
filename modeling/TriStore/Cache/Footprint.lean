import TriStore.Search.Hit

/-!
The shapes of values, entries and hits, by which caches count their bytes.
-/
namespace TriStore.Footprint

mutual

def ofValue : Value → Shape
  | .null | .bool _ | .int _ | .float _ | .date _ | .moment _ | .source _ => .scalar
  | .text s => .text (Text.size s)
  | .bytes bs => .bytes bs.length
  | .list vs | .tuple vs | .set vs => .sequence (ofValues vs)
  | .map kvs => .mapping (ofPairs kvs)
  | .again _ => .sealed
  | .other _ _ shape => shape

def ofValues : List Value → List Shape
  | [] => []
  | v :: vs => ofValue v :: ofValues vs

def ofPairs : List (Value × Value) → List (Shape × Shape)
  | [] => []
  | (k, v) :: kvs => (ofValue k, ofValue v) :: ofPairs kvs

end

def ofEntry (e : Entry) : Shape :=
  .record [ofValue e.name, .scalar, ofValue e.path, .text (Text.size e.version), ofValue e.description,
    .sequence (ofValues e.tags), ofValue e.author, ofValue e.digest, ofValue e.revision, .scalar,
    .scalar]

def ofHit (h : Hit) : Shape :=
  .record [ofEntry h.entry, .scalar, .scalar, .text h.matchKind.label.length, .scalar, .scalar, .scalar]

def ofEntries (es : List Entry) : Shape := .sequence (es.map ofEntry)

def ofHits (hs : List Hit) : Shape := .sequence (hs.map ofHit)

end TriStore.Footprint
