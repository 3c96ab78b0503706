import TriStore.Home
import TriStore.Portfolio.Access

/-!
A portfolio: three stores that are searched as one and kept in step. This module holds what does not
change while it is in use.
-/
namespace TriStore

structure Portfolio where
  home : Home
  settings : Settings := {}
  environment : List (String × String) := []
  searched : List Source := Source.all
  timeout : Option Wait := none
  hasRegistry : Bool := true
  /-- Whether a write by a sync drops what searches have found in that store. -/
  dropsResults : Bool := true
  validate : Key → String → Except Failure String := fun _ content => .ok content

namespace Portfolio

/-- The wait that a value gives. Nothing ends the wait unless it is greater than zero. -/
def timeoutOf (v : Value) : Except Failure (Option Wait) :=
  match v.magnitude? with
  | none => if v.isGiven then .error .wrongKind else .ok none
  | some .undefined | some .below => .ok none
  | some .above => .ok (some (Wait.ofValue v))
  | some (.value q) => .ok (if 0 < q then some (Wait.ofValue v) else none)

def bytesOf : Quantity → Except Failure Quantity
  | .whole n => .ok (.whole (n * Cache.megabyte))
  | .truth b => .ok (.whole (if b then Cache.megabyte else 0))
  | .real x =>
    match (x.mul (Binary64.ofInt Cache.megabyte)).toRat? with
    | some q => .ok (.whole (if q < 0 then q.ceil else q.floor))
    | none => .error .overflow

def resultsCache (s : Settings) : Except Failure (Cache String (List Hit)) := do
  let memory ← bytesOf s.cache.maxMemoryMb
  let ttl ← Cache.ttlOf s.cache.ttlSeconds.toValue
  Cache.make (.text Cache.Preset.search.name) s.cache.maxEntries memory ttl

def policy (p : Portfolio) : Action Policy := do
  let (lines, r) := p.home.policy (← get).disk.files p.environment
  Action.warnAll lines
  liftExcept r

def savePolicy (p : Portfolio) (faults : Except Failure (List String)) (document : Value) :
    Action (List String) := do
  let faults ← liftExcept faults
  if !faults.isEmpty then return faults
  let policy ← liftExcept (Policy.ofValue document "config")
  let w ← get
  let (r, files) := p.home.savePolicy w.disk.files policy
  set { w with disk.files := files }
  liftExcept r
  return []

def setPolicy (p : Portfolio) (document : Value) : Action (List String) :=
  p.savePolicy (Policy.faults document) document

def setReadyPolicy (p : Portfolio) (policy : Policy) : Action (List String) :=
  p.savePolicy (Policy.orderFaults (.list (policy.priority.map .source))) policy.toValue

def resetPolicy (p : Portfolio) : Action Bool := do
  let w ← get
  let (existed, files) ← liftExcept (p.home.clearPolicy w.disk.files)
  set { w with disk.files := files }
  return existed

end Portfolio

end TriStore
