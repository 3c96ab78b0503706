import TriStore.Files.Tree
import TriStore.Value.Basic

/-!
Locks on paths.
-/
namespace TriStore

/-- The paths whose locks are held, without steps back. -/
structure Locks where
  held : List Path := []
  deriving DecidableEq, Repr, Inhabited

/-- Seconds to wait for a lock; a wait that is not possible shows only when a lock is taken. -/
abbrev Wait := Except Failure Rat

namespace Wait

def usual : Wait := .ok 10

def nanoseconds (q : Rat) : Int :=
  if q < 0 then (q * 1000000000).floor else (q * 1000000000).ceil

def longest : Int := (Int.pow 2 63 - 1) / 1000

/-- The wait that a value gives. One second less than nothing means a wait without end. -/
def ofValue (v : Value) : Wait :=
  match v.magnitude? with
  | none => .error .wrongKind
  | some .undefined => .error .undefinedWait
  | some .below | some .above => .error .overflow
  | some (.value q) =>
    let n := nanoseconds q
    if n < -Int.pow 2 63 || longest * 1000 < n then .error .overflow
    else if n < 0 && n != -1000000000 then .error .negativeWait
    else .ok q

end Wait

namespace Locks

def isHeld (l : Locks) (p : Path) : Bool := l.held.contains p.straight

def test (l : Locks) (p : Path) : Except Failure Bool :=
  match p.fault? with
  | some e => .error e
  | none => .ok (l.isHeld p)

/-- Takes the lock of a path. While it is held, a wait of less than nothing has no end. -/
def take (l : Locks) (p : Path) (wait : Wait) : Except Failure Locks := do
  let held ← l.test p
  let seconds ← wait
  if held then throw (if seconds < 0 then .endless else .lockTimeout p.straight.toText seconds)
  return { held := p.straight :: l.held }

def release (l : Locks) (p : Path) : Locks := { held := l.held.filter (· != p.straight) }

def timeoutLine (path : String) (wait : Rat) : String :=
  "Lock timeout on " ++ path ++ " after " ++ fixed 1 wait ++ "s"

end Locks

end TriStore
