/-!
Numbers with a fraction, held in 64 bits: a sign, a mantissa of 53 bits and a power of two.
-/
namespace TriStore

/-- `finite s m e` is `m · 2 ^ e`, negated when `s` holds. -/
inductive Binary64 where
  | nan
  | infinite (negative : Bool)
  | finite (negative : Bool) (mantissa : Nat) (exponent : Int)
  deriving DecidableEq, Repr, Inhabited

namespace Binary64

def minExponent : Int := -1074

def maxExponent : Int := 971

def zero (negative : Bool) : Binary64 := .finite negative 0 minExponent

def roundDiv (num den : Nat) : Nat :=
  let q := num / den
  let r := num % den
  if 2 * r > den || (2 * r == den && q % 2 == 1) then q + 1 else q

def floorLog2 (num den : Nat) : Int :=
  let k : Int := num.log2 - den.log2
  if den * Nat.pow 2 k.toNat ≤ num * Nat.pow 2 (-k).toNat then k else k - 1

def nearest (negative : Bool) (num den : Nat) : Binary64 :=
  if num == 0 || den == 0 then zero negative
  else
    let e := max minExponent (floorLog2 num den - 52)
    let m := roundDiv (num * Nat.pow 2 (-e).toNat) (den * Nat.pow 2 e.toNat)
    let (m, e) := if m == Nat.pow 2 53 then (Nat.pow 2 52, e + 1) else (m, e)
    if e > maxExponent then .infinite negative else .finite negative m e

def ofRat (q : Rat) : Binary64 := nearest (q < 0) q.num.natAbs q.den

def ofInt (n : Int) : Binary64 := nearest (n < 0) n.natAbs 1

def ofDecimal (negative : Bool) (digits : Nat) (power : Int) : Binary64 :=
  let size : Int := (Nat.toDigits 10 digits).length + power
  if digits == 0 || size < -400 then zero negative
  else if size > 400 then .infinite negative
  else nearest negative (digits * Nat.pow 10 power.toNat) (Nat.pow 10 (-power).toNat)

def toRat? : Binary64 → Option Rat
  | .finite s m e =>
    let q : Rat := mkRat (m * Int.pow 2 e.toNat) (Nat.pow 2 (-e).toNat)
    some (if s then -q else q)
  | _ => none

def isZero : Binary64 → Bool
  | .finite _ m _ => m == 0
  | _ => false

def isNegative : Binary64 → Bool
  | .nan => false
  | .infinite s => s
  | .finite s _ _ => s

def neg : Binary64 → Binary64
  | .nan => .nan
  | .infinite s => .infinite (!s)
  | .finite s m e => .finite (!s) m e

/-- The sum; a sum of zero is positive unless both numbers are negative. -/
def add : Binary64 → Binary64 → Binary64
  | .nan, _ | _, .nan => .nan
  | .infinite s, .infinite t => if s == t then .infinite s else .nan
  | .infinite s, _ | _, .infinite s => .infinite s
  | x@(.finite s _ _), y@(.finite t _ _) =>
    let q := (x.toRat?.getD 0) + (y.toRat?.getD 0)
    if q == 0 then zero (s && t) else ofRat q

def sub (x y : Binary64) : Binary64 := x.add y.neg

def mul : Binary64 → Binary64 → Binary64
  | .nan, _ | _, .nan => .nan
  | .infinite s, y => if y.isZero then .nan else .infinite (s != y.isNegative)
  | x, .infinite t => if x.isZero then .nan else .infinite (x.isNegative != t)
  | x@(.finite s _ _), y@(.finite t _ _) =>
    let q := (x.toRat?.getD 0) * (y.toRat?.getD 0)
    nearest (s != t) q.num.natAbs q.den

end Binary64

/-- The finite number of 64 bits nearest to `q`; `q` itself when it is too great. -/
def roundRat (q : Rat) : Rat := (Binary64.ofRat q).toRat?.getD q

inductive Magnitude where
  | undefined
  | below
  | value (q : Rat)
  | above
  deriving DecidableEq, Repr, Inhabited

namespace Magnitude

def ofBinary64 : Binary64 → Magnitude
  | .nan => .undefined
  | .infinite true => .below
  | .infinite false => .above
  | x => .value (x.toRat?.getD 0)

def lt : Magnitude → Magnitude → Bool
  | .undefined, _ | _, .undefined => false
  | .value a, .value b => a < b
  | .below, .below | .above, _ | _, .below => false
  | .below, _ | _, .above => true

def same : Magnitude → Magnitude → Bool
  | .undefined, _ | _, .undefined => false
  | .value a, .value b => a == b
  | .below, .below | .above, .above => true
  | _, _ => false

def le (a b : Magnitude) : Bool := a.lt b || a.same b

instance : Coe Nat Magnitude := ⟨fun n => .value n⟩

instance : Coe Int Magnitude := ⟨fun n => .value n⟩

end Magnitude

def Binary64.isBelow (x y : Binary64) : Bool := (Magnitude.ofBinary64 x).lt (Magnitude.ofBinary64 y)

end TriStore
