import TriStore.Search.Relevance
import TriStore.Version

/-!
Hits of a search and the choice between copies of one element in several stores.
-/
namespace TriStore

structure Hit where
  entry : Entry
  source : Source
  score : Nat := 0
  matchKind : MatchKind := .none
  deriving Repr, Inhabited

def Hit.key (h : Hit) : Key := h.entry.key

def Hit.version (h : Hit) : String := h.entry.version

/-- Versions of one element in several stores, and which store to take it from. -/
structure Divergence where
  versions : List (Source × String)
  recommended : Source
  reason : String
  deriving DecidableEq, Repr, Inhabited

namespace Divergence

/-- The place of a source in an order, the last one when listed twice; one not listed comes after all. -/
def rank (order : List Source) (s : Source) : Nat :=
  if order.contains s then order.length - 1 - order.reverse.idxOf s else order.eraseDups.length

def candidates (versions : List (Source × String)) (order : List Source) : List (Source × String) :=
  versions.mergeSort fun a b => rank order a.1 ≤ rank order b.1

def best : Source × String → List (Source × String) → Source × String
  | b, [] => b
  | b, c :: cs => best (if compareVersions c.2 b.2 == .gt then c else b) cs

/-- The store with the greatest version, when some version is less than it; else the first of the order. -/
def recommend? (versions : List (Source × String)) (order : List Source) : Option (Source × String) :=
  match candidates versions order with
  | [] => none
  | first :: rest =>
    let top := best first rest
    if (first :: rest).any fun c => compareVersions top.2 c.2 == .gt then
      some (top.1, "highest version (" ++ top.2 ++ ")")
    else some (first.1, "highest-priority source")

/-- Refuses versions that cannot be compared; the second is read first. -/
def check (versions : List (Source × String)) (order : List Source) : Except Failure Unit :=
  match candidates versions order with
  | a :: b :: rest => (b :: a :: rest).forM fun c => Version.check c.2
  | few => few.forM fun c => Version.check c.2

def recommend (versions : List (Source × String)) (order : List Source) : Except Failure (Source × String) := do
  check versions order
  match recommend? versions order with
  | some r => .ok r
  | none => .error .nothingThere

def put (s : Source) (v : String) : List (Source × String) → List (Source × String)
  | [] => [(s, v)]
  | (t, w) :: rest => if t == s then (t, v) :: rest else (t, w) :: put s v rest

/-- The versions by source; of several from one source the last counts. -/
def tally (pairs : List (Source × String)) : List (Source × String) :=
  pairs.foldl (fun acc p => put p.1 p.2 acc) []

def ofVersions? (versions : List (Source × String)) (order : List Source) : Option Divergence :=
  (recommend? versions order).map fun (s, reason) => ⟨versions, s, reason⟩

def versionsOf (group : List Hit) : List (Source × String) :=
  tally ((group.filter (!·.version.isEmpty)).map fun h => (h.source, h.version))

def areSeveral (versions : List (Source × String)) : Bool := 2 ≤ (versions.map (·.2)).eraseDups.length

/-- The divergence of the copies of one element, when they have two versions at least. -/
def ofHits? (group : List Hit) (order : List Source) : Option Divergence :=
  let versions := versionsOf group
  if areSeveral versions then ofVersions? versions order else none

def versionsValue (versions : List (Source × String)) : Value :=
  .record (versions.map fun (s, v) => (s.label, .text v))

def toValue (d : Divergence) : Value :=
  .record [
    ("versions", versionsValue d.versions), ("recommended", .text d.recommended.label),
    ("reason", .text d.reason)]

end Divergence

end TriStore
