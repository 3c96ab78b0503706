import TriStore.Portfolio.Basic
import TriStore.Search.Merge

/-!
Searching the stores of a portfolio as one.
-/
namespace TriStore.Portfolio

def searchPolicy (p : Portfolio) (o : SearchOptions) : Action Policy := do
  let base ← p.policy
  let (lines, settled) := o.settle
  Action.warnAll lines
  liftExcept settled
  let (lines, policy) := o.apply p.searched base
  Action.warnAll lines
  return policy

/-- The key of a search in one store; case and blanks around the query do not matter. -/
def resultsKey (s : Source) (query : String) (kind : Option Kind) : Except Failure String := do
  let bytes ← Digest.bytesOf (Text.lower (Text.strip query) ++ "|" ++ Kind.labelOrStar kind)
  return s.keyFront ++ "search:" ++ Digest.sha1 bytes.toList

/-- Whether a call of a store is over at once: the first one is, if it takes no time and reads no files. -/
def isInstant (before after : World) (s : Source) : Bool :=
  !before.called.contains s && before.elapsed == after.elapsed &&
    match (before.store s).backing with
    | .folder _ => false
    | _ => true

/-- Does something with a store, but does not wait for it longer than the timeout. -/
def within {α : Type} (p : Portfolio) (s : Source) (act : Action α) : Action α := do
  match p.timeout with
  | none => act
  | some wait =>
    let before ← get
    let start := before.elapsed
    if before.running.any fun r => r.1 == s && start < r.2 then
      throw (.unavailable s "previous call still running")
    let (r, after) := act.run before
    let after := { after with called := s :: after.called }
    let leftAt (time : Rat) : World := { after with
      elapsed := time
      running := (s, after.elapsed) :: after.running.filter (·.1 != s) }
    if isInstant before after s then
      set after
      liftExcept r
    else
      match wait with
      | .error e =>
        set (leftAt start)
        throw e
      | .ok limit =>
        if after.elapsed - start ≤ limit then
          set after
          liftExcept r
        else
          set (leftAt (start + limit))
          throw (.unavailable s ("timed out after " ++ fixed 1 limit ++ "s"))

def hitsIn (p : Portfolio) (s : Source) (query : String) (kind : Option Kind) : Action (List Hit × Bool) := do
  let key ← liftExcept (resultsKey s query kind)
  let w ← get
  let (found, e, results) := w.results.get w.clock key
  set { w with results }
  Action.reportReset w.results e
  match found with
  | some hits => return (hits, true)
  | none =>
    let hits ← p.within s (Action.searchStore s query kind)
    let w ← get
    let (_, e, results) := w.results.set w.clock key hits (Footprint.estimate (Footprint.ofHits hits))
    set { w with results }
    Action.reportReset w.results e
    return (hits, false)

structure Tour where
  hits : List (Source × List Hit) := []
  searched : List Source := []
  failures : List (Source × String) := []
  cacheHits : Nat := 0
  deriving Repr, Inhabited

def isExhaustive (o : SearchOptions) (policy : Policy) : Bool :=
  o.includeAll || policy.checkAllForUpdates || !policy.stopOnFirst

def ask (p : Portfolio) (s : Source) (query : String) (kind : Option Kind) :
    Action (Except String (List Hit × Bool)) :=
  tryCatch (do return .ok (← p.hitsIn s query kind)) fun e =>
    match e with
    | .unavailable _ reason => return .error reason
    | e => throw e

def visit (p : Portfolio) (query : String) (o : SearchOptions) (policy : Policy) : List Source → Tour → Action Tour
  | [], tour => return tour
  | s :: rest, tour => do
    match ← p.ask s query o.kind with
    | .error reason =>
      if !policy.fallbackOnError then throw (.unavailable s reason)
      Action.warn ("Skipping " ++ s.title ++ ": " ++ reason)
      visit p query o policy rest { tour with failures := tour.failures ++ [(s, reason)] }
    | .ok (hits, known) =>
      let tour := { tour with
        hits := tour.hits ++ [(s, hits)]
        searched := tour.searched ++ [s]
        cacheHits := tour.cacheHits + (if known then 1 else 0) }
      if !hits.isEmpty && !isExhaustive o policy then return tour
      visit p query o policy rest tour

def pageOf (o : SearchOptions) (order : List Source) (tour : Tour) (number size : Count) : Page :=
  let merged := Merge.merge order tour.hits o.includeAll
  let sorted := Finding.sort order o.sorting merged
  let (findings, hasMore) := Page.cut sorted number.toNat size.toNat
  { findings, total := sorted.length, number, size, hasMore, searched := tour.searched,
    failures := tour.failures, cacheHits := tour.cacheHits }

/-- Refuses a search before a store is visited: a page that has no order, or a kind that is none. -/
def checkOptions (o : SearchOptions) (policy : Policy) : Except Failure Unit := do
  if !(o.page.isOrdered && o.pageSize.isOrdered) then throw .wrongKind
  if o.misfits.kind && !policy.priority.isEmpty then throw .unsuited

def search (p : Portfolio) (query : String) (o : SearchOptions) : Action Page := do
  let policy ← p.searchPolicy o
  liftExcept (checkOptions o policy)
  let tour ← p.visit query o policy policy.priority {}
  liftExcept (Merge.check policy.priority tour.hits)
  match o.page.count?, o.pageSize.count? with
  | some number, some size => return pageOf o policy.priority tour number size
  | _, _ => throw (Amount.refusal o.page o.pageSize)

def wholePage : Amount := .whole 10000

def findByName (p : Portfolio) (name : String) (kind : Option Kind) : Action (Option Finding) := do
  let page ← p.search name { kind, pageSize := wholePage }
  let wanted := Name.normalize name
  return ((page.findings.find? (·.key.name == wanted)).or page.findings.head?)

def searchAll (p : Portfolio) (name : String) (kind : Option Kind) : Action (List Finding) := do
  return (← p.search name { kind, includeAll := true, pageSize := wholePage }).findings

structure Duplicate where
  key : Key
  versions : List (Source × String)
  divergence : Option Divergence
  deriving Repr, Inhabited

def Duplicate.toValue (d : Duplicate) : Value :=
  .record [
    ("key", .text d.key.label), ("versions", Divergence.versionsValue d.versions),
    ("version_conflict", .ofOption Divergence.toValue d.divergence)]

def duplicatesOf (findings : List Finding) : List Duplicate :=
  let several := findings.filter (·.isDuplicate)
  ((several.map (·.key)).eraseDups.mergeSort Key.le).map fun key =>
    let group := several.filter (·.key == key)
    { key, versions := Divergence.tally (group.map fun f => (f.hit.source, f.hit.version)),
      divergence := group.getLast?.bind (·.divergence) }

def duplicates (p : Portfolio) (name : String) (kind : Option Kind) : Action (List Duplicate) := do
  return duplicatesOf (← p.searchAll name kind)

def compareStores (p : Portfolio) (name : String) (kind : Option Kind) : Action (Option Divergence) := do
  let wanted := Name.normalize name
  let found := (← p.searchAll name kind).filter (·.key.name == wanted)
  if found.isEmpty then return none
  let policy ← p.searchPolicy { kind }
  let versions := Divergence.tally (found.map fun f => (f.hit.source, f.hit.version))
  liftExcept (Divergence.check versions policy.priority)
  return Divergence.ofVersions? versions policy.priority

def forgetAll (p : Portfolio) : List Source → Action Nat
  | [] => return 0
  | s :: rest => do
    let w ← get
    let (n, results) := w.results.invalidatePrefix s.keyFront
    set { w with results }
    let m ← if p.searched.contains s then Action.dropListings s else pure 0
    return n + m + (← forgetAll p rest)

def forget (p : Portfolio) (s : Option Source) : Action Nat :=
  p.forgetAll (s.elim p.searched fun s => [s])

end TriStore.Portfolio
