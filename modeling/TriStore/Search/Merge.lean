import TriStore.Search.Hit
import TriStore.Search.Options

/-!
Merging the hits of several stores. Hits of one element form a group, in the order of the stores;
the first is the one that counts.
-/
namespace TriStore

structure Finding where
  hit : Hit
  isDuplicate : Bool := false
  divergence : Option Divergence := none
  updateFrom : Option Source := none
  deriving Repr, Inhabited

namespace Merge

def inOrder (order : List Source) (hits : List (Source × List Hit)) : List Hit :=
  order.flatMap fun s => (hits.lookup s).getD []

def mark (k : Key) : Nat := k.name.toList.foldl (fun n c => (31 * n + c.toNat) % 65536) 0

/-- The groups of hits with one key, by the first hit of each. The marks of keys are compared first. -/
def groups (hits : List Hit) : List (List Hit) :=
  let keyed := hits.map fun h => ((mark h.key, h.key), h)
  (keyed.map (·.1)).eraseDups.map fun k =>
    (keyed.filter fun x => x.1.1 == k.1 && x.1.2 == k.2).map (·.2)

theorem eraseDups_map {α β : Type} [BEq α] [LawfulBEq α] [BEq β] [LawfulBEq β] {f : α → β}
    (injective : ∀ a b, f a = f b → a = b) (l : List α) : (l.map f).eraseDups = l.eraseDups.map f := by
  generalize size : l.length = n
  induction n using Nat.strongRecOn generalizing l with
  | ind n ih =>
    cases l with
    | nil => rfl
    | cons a l =>
      have shorter : (l.filter fun b => !b == a).length < n :=
        size ▸ Nat.lt_succ_of_le (List.length_filter_le _ l)
      have same : ((fun b => !b == f a) ∘ f) = fun b => !b == a := by
        funext b
        by_cases same : b = a
        · simp [same]
        · have differ : f b ≠ f a := fun eq => same (injective b a eq)
          simp [beq_false_of_ne same, beq_false_of_ne differ]
      rw [List.map_cons, List.eraseDups_cons, List.eraseDups_cons, List.map_cons, List.filter_map, same,
        ih _ shorter _ rfl]

theorem groups_eq (hits : List Hit) :
    groups hits = (hits.map (·.key)).eraseDups.map fun k => hits.filter (·.key == k) := by
  have keys : (hits.map fun h => ((mark h.key, h.key), h)).map (·.1) =
      (hits.map (·.key)).map fun k => (mark k, k) := by
    simp [Function.comp_def]
  have injective (a b : Key) (h : (mark a, a) = (mark b, b)) : a = b := congrArg Prod.snd h
  unfold groups
  dsimp only
  rw [keys, eraseDups_map injective, List.map_map]
  refine List.map_congr_left fun k _ => ?_
  have marked : (fun h : Hit => mark h.key == mark k && h.key == k) = (·.key == k) := by
    funext h
    by_cases same : h.key = k <;> simp [same]
  simp only [Function.comp_apply, List.filter_map, List.map_map, Function.comp_def, marked, List.map_id']

def newest? (group : List Hit) : Option Hit :=
  group.foldl (fun best h =>
    if (Version.parse? h.version).isNone then best
    else match best with
      | none => some h
      | some b => if compareVersions h.version b.version == .gt then some h else some b) none

def updateFrom? (first : Hit) (group : List Hit) : Option Source :=
  (newest? group).bind fun n =>
    if compareVersions n.version first.version == .gt then some n.source else none

/-- What becomes of a group: its first hit, and under `all` the others too. -/
def findings (order : List Source) (all : Bool) (group : List Hit) : List Finding :=
  match group with
  | [] => []
  | first :: others =>
    let isDuplicate := 1 < (group.map (·.source)).eraseDups.length
    let divergence := if isDuplicate then Divergence.ofHits? group order else none
    { hit := first, isDuplicate, divergence, updateFrom := updateFrom? first group } ::
      (if all then others.map fun h => { hit := h, isDuplicate, divergence } else [])

def merge (order : List Source) (hits : List (Source × List Hit)) (all : Bool) : List Finding :=
  (groups (inOrder order hits)).flatMap (findings order all)

def check (order : List Source) (hits : List (Source × List Hit)) : Except Failure Unit :=
  (groups (inOrder order hits)).forM fun group => do
    let versions := Divergence.versionsOf group
    if 1 < (group.map (·.source)).eraseDups.length && Divergence.areSeveral versions then
      Divergence.check versions order
    group.forM fun h => Version.check h.version

end Merge

namespace Finding

def key (f : Finding) : Key := f.hit.key

def toValue (f : Finding) : Value :=
  .record [
    ("key", .text f.key.label), ("path", f.hit.entry.path), ("version", .text f.hit.version),
    ("source", .text f.hit.source.label), ("score", .text (fixed 6 f.hit.score)),
    ("match_type", .text f.hit.matchKind.label), ("is_duplicate", .bool f.isDuplicate),
    ("version_conflict", .ofOption Divergence.toValue f.divergence),
    ("update_available_from", .ofOption (fun s => .text s.label) f.updateFrom)]

def rank (order : List Source) (f : Finding) : Nat := Divergence.rank order f.hit.source

def compareBy (order : List Source) (sorting : Sorting) (a b : Finding) : Ordering :=
  let byName := Text.compare a.key.name b.key.name
  let byRank := compare (a.rank order) (b.rank order)
  let byScore := compare b.hit.score a.hit.score
  match sorting with
  | .name => byName.then byRank
  | .source => (byRank.then byScore).then byName
  | .version => ((compareVersions b.hit.version a.hit.version).then byRank).then byName
  | .relevance => (byScore.then byRank).then byName

def sort (order : List Source) (sorting : Sorting) (fs : List Finding) : List Finding :=
  fs.mergeSort fun a b => compareBy order sorting a b != .gt

end Finding

structure Page where
  findings : List Finding
  total : Nat
  number : Count
  size : Count
  hasMore : Bool
  searched : List Source
  failures : List (Source × String)
  cacheHits : Nat
  deriving Repr, Inhabited

def Page.cut (fs : List Finding) (number size : Nat) : List Finding × Bool :=
  let start := (number - 1) * size
  ((fs.drop start).take size, start + size < fs.length)

def Page.toValue (p : Page) : Value :=
  .record [
    ("results", .list (p.findings.map (·.toValue))), ("total", .int p.total),
    ("page", p.number.toValue), ("page_size", p.size.toValue), ("has_more", .bool p.hasMore),
    ("sources_searched", .texts (p.searched.map (·.label))),
    ("failures", .list (p.failures.map fun (s, reason) => .texts [s.label, reason])),
    ("cache_hits", .int p.cacheHits)]

end TriStore
