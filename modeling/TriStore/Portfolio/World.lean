import TriStore.Cache.Basic
import TriStore.Search.Hit
import TriStore.Store.Catalog
import TriStore.Store.Folder
import TriStore.Store.Repository
import TriStore.Store.Shelf

/-!
The state of a portfolio: its three stores, what they rest on, two caches, the time and the log.
-/
namespace TriStore

inductive Backing where
  | shelf (s : Shelf)
  | folder (f : Folder)
  | repository (r : Repository)
  | catalog (c : Catalog)
  deriving Inhabited

structure Store where
  backing : Backing
  /-- Whether its listings go through the cache. -/
  cached : Bool := false
  deriving Inhabited

inductive Severity where
  | warning
  | error
  deriving DecidableEq, Repr, Inhabited

structure LogLine where
  severity : Severity
  text : String
  deriving DecidableEq, Repr, Inhabited

structure Offer where
  store : Source
  key : Key
  content : String
  deriving DecidableEq, Repr, Inhabited

structure World where
  home : Store
  remote : Store
  registry : Store
  disk : Disk := {}
  web : Web := {}
  results : Cache String (List Hit)
  listings : Cache String (List Entry) := Cache.ofPreset .listing
  clock : Binary64 := .zero false
  elapsed : Rat := 0
  /-- Calls nobody waits for any more, and when they end. -/
  running : List (Source × Rat) := []
  /-- The stores of which calls have been made that somebody waits for. -/
  called : List Source := []
  log : List LogLine := []
  /-- All that stores were asked to write, taken or not, the latest last. -/
  offers : List Offer := []
  deriving Inhabited

namespace World

def store (w : World) : Source → Store
  | .home => w.home
  | .remote => w.remote
  | .registry => w.registry

def setStore (w : World) (s : Source) (x : Store) : World :=
  match s with
  | .home => { w with home := x }
  | .remote => { w with remote := x }
  | .registry => { w with registry := x }

def setShelf (w : World) (s : Source) (x : Shelf) : World :=
  w.setStore s { w.store s with backing := .shelf x }

def note (w : World) (severity : Severity) (text : String) : World :=
  { w with log := w.log ++ [⟨severity, text⟩] }

def offer (w : World) (o : Offer) : World := { w with offers := w.offers ++ [o] }

theorem store_setStore (w : World) (s : Source) (x : Store) : (w.setStore s x).store s = x := by
  cases s <;> rfl

theorem store_setStore_ne (w : World) {s t : Source} (x : Store) (h : t ≠ s) :
    (w.setStore s x).store t = w.store t := by
  cases s <;> cases t <;> simp_all [setStore, store]

end World

/-- Something done to a portfolio. What happened before a failure stays done. -/
abbrev Action := ExceptT Failure (StateM World)

namespace Action

def warn (text : String) : Action Unit := modify (·.note .warning text)

def report (text : String) : Action Unit := modify (·.note .error text)

def warnAll (lines : List String) : Action Unit := lines.forM warn

def reportReset {κ α : Type} (c : Cache κ α) (e : Option Cache.Corruption) : Action Unit :=
  match e with
  | some e => report (c.resetLine e)
  | none => pure ()

def onWeb {α : Type} (x : Exchange α) : Action α := do
  let w ← get
  let (r, web) := x.run w.web
  set { w with web }
  liftExcept r

def onDisk {α : Type} (x : Disk → Except Failure α × Disk) : Action α := do
  let w ← get
  let (r, disk) := x w.disk
  set { w with disk }
  match r with
  | .error (.lockTimeout path wait) =>
    warn (Locks.timeoutLine path wait)
    throw (.lockTimeout path wait)
  | r => liftExcept r

def onShelf {α : Type} (s : Source) (before : Shelf) (x : Except Failure α × Shelf) : Action α := do
  let pause := if before.calls == x.2.calls then 0 else before.delay.toOption.getD 0
  modify fun w => { w.setShelf s x.2 with elapsed := w.elapsed + pause }
  liftExcept x.1

end Action

end TriStore
