import TriStore.Cache.Footprint
import TriStore.Portfolio.World

/-!
What can be asked of each store: its listing, the content of an element, a search, a write and a
delete.
-/
namespace TriStore

def Kind.labelOrStar (kind : Option Kind) : String := kind.elim "*" (·.label)

def Source.keyFront (s : Source) : String := s.label ++ ":"

namespace Action

def listingKey (s : Source) (kind : Option Kind) : String :=
  s.keyFront ++ "list:" ++ Kind.labelOrStar kind

def loadEntries (s : Source) (kind : Option Kind) : Action (List Entry) := do
  match ((← get).store s).backing with
  | .shelf x => onShelf s x (x.load kind)
  | .folder f =>
    let (lines, r) := f.load (← get).disk.files kind
    warnAll lines
    liftExcept r
  | .repository r => onWeb (r.load kind)
  | .catalog c => onWeb (c.load kind)

def cachedListing (s : Source) (kind : Option Kind) : Action (Option (List Entry)) := do
  let w ← get
  let (found, e, listings) := w.listings.get w.clock (listingKey s kind)
  set { w with listings }
  reportReset w.listings e
  return found

def keepListing (s : Source) (kind : Option Kind) (entries : List Entry) : Action Unit := do
  let w ← get
  let (_, e, listings) := w.listings.set w.clock (listingKey s kind) entries
    (Footprint.estimate (Footprint.ofEntries entries))
  set { w with listings }
  reportReset w.listings e

def listEntries (s : Source) (kind : Option Kind) : Action (List Entry) := do
  if !((← get).store s).cached then loadEntries s kind
  else
    match ← cachedListing s kind with
    | some entries => return entries
    | none =>
      let entries ← loadEntries s kind
      keepListing s kind entries
      return entries

def getEntry (s : Source) (key : Key) : Action (Option Entry) := do
  return (← listEntries s (some key.kind)).find? (·.key == key)

def dropListings (s : Source) : Action Nat := do
  let w ← get
  if !(w.store s).cached then return 0
  let (n, listings) := w.listings.invalidatePrefix s.keyFront
  set { w with listings }
  return n

def fetch (s : Source) (key : Key) : Action String := do
  match ((← get).store s).backing with
  | .shelf x => onShelf s x (x.fetch key)
  | .folder f => liftExcept (f.fetch (← get).disk.files key)
  | .repository r =>
    let entry ← getEntry s key
    onWeb (r.fetch key entry)
  | .catalog c =>
    let entry ← getEntry s key
    onWeb (c.fetch key entry)

def writeThrough (s : Source) (key : Key) (content : String) (expected : Option Value) : Action Value := do
  match ((← get).store s).backing with
  | .shelf x => onShelf s x (x.write key content expected)
  | .folder f => onDisk (f.write · key content expected)
  | .repository r =>
    let entry ← getEntry s key
    onWeb (r.write key entry content expected)
  | .catalog _ => throw (.readOnly s)

/-- Writes an element and answers its new revision. Without the last revision, the element has to be new. -/
def write (s : Source) (key : Key) (content : String) (expected : Option Value) : Action Value := do
  modify (·.offer ⟨s, key, content⟩)
  let revision ← writeThrough s key content expected
  let _ ← dropListings s
  return revision

def deleteThrough (s : Source) (key : Key) (expected : Option Value) : Action Unit := do
  match ((← get).store s).backing with
  | .shelf x => onShelf s x (x.delete key)
  | .folder f => onDisk (f.delete · key expected)
  | .repository r =>
    match ← getEntry s key with
    | some entry => onWeb (r.delete key entry expected)
    | none => return ()
  | .catalog _ => throw (.readOnly s)

def delete (s : Source) (key : Key) (expected : Option Value) : Action Unit := do
  deleteThrough s key expected
  let _ ← dropListings s

end Action

def Hit.among (s : Source) (query : String) (entries : List Entry) : Except Failure (List Hit) := do
  let hits ← entries.mapM fun entry => do
    let (score, matchKind) ← Relevance.score entry query
    return ({ entry, source := s, score, matchKind } : Hit)
  return (hits.filter (0 < ·.score)).mergeSort fun a b =>
    b.score < a.score || (b.score == a.score && a.key.le b.key)

def Action.searchStore (s : Source) (query : String) (kind : Option Kind) : Action (List Hit) := do
  liftExcept (Hit.among s query (← Action.listEntries s kind))

end TriStore
