import TriStore.Number.Written
import TriStore.Value.Basic

/-!
Numbers of a document that serve as limits: whole, or with a fraction. The truth values count as zero
and one, but keep their own form.
-/
namespace TriStore

inductive Quantity where
  | whole (n : Int)
  | real (x : Binary64)
  | truth (b : Bool)
  deriving DecidableEq, Repr, Inhabited

namespace Quantity

def magnitude : Quantity → Magnitude
  | .whole n => .value n
  | .real x => Magnitude.ofBinary64 x
  | .truth b => .value (if b then 1 else 0)

def toValue : Quantity → Value
  | .whole n => .int n
  | .real x => .float x
  | .truth b => .bool b

def toText : Quantity → String
  | .whole n => Text.ofInt n
  | .real x => x.toText
  | .truth b => if b then "True" else "False"

def plus : Quantity → Int → Quantity
  | .whole m, n => .whole (m + n)
  | .truth b, n => .whole ((if b then 1 else 0) + n)
  | .real x, n => .real (x.add (Binary64.ofInt n))

def ofValue? : Value → Option Quantity
  | .bool b => some (.truth b)
  | .int n => some (.whole n)
  | .float x => some (.real x)
  | _ => none

end Quantity

end TriStore
