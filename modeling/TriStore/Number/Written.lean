import TriStore.Number.Binary64
import TriStore.Text.Basic

/-!
Numbers as text: whole ones, with a fixed count of decimal places, and in the shortest form that reads
back, of equally short ones the nearest.
-/
namespace TriStore

/-- Numbers of more digits than this are neither read nor written. -/
def maxDigits : Nat := 4300

/-- The blanks that may stand around a number; the four separators of ASCII may not. -/
def isAroundNumber (c : Char) : Bool := Text.isBlank c && !(0x1c ≤ c.toNat && c.toNat ≤ 0x1f)

def whole? (s : String) : Option Int :=
  let cs := Text.trim isAroundNumber s.toList
  let (negative, ds) := match cs with
    | '-' :: rest => (true, rest)
    | '+' :: rest => (false, rest)
    | _ => (false, cs)
  let groups := Text.pieces (· == '_') ds
  let digits := groups.flatten
  if groups.all (fun g => !g.isEmpty && g.all Text.isDigit) && digits.length ≤ maxDigits then
    let n : Int := Text.natOfDigits digits
    some (if negative then -n else n)
  else none

namespace Binary64

/-- The greatest `k` with `10 ^ k ≤ q`, for a positive `q`. -/
def floorLog10 (q : Rat) : Int :=
  let est : Int := (floorLog2 q.num.natAbs q.den * 30103) / 100000 + 1
  let pow (k : Int) : Rat := if k ≥ 0 then Nat.pow 10 k.toNat else mkRat 1 (Nat.pow 10 (-k).toNat)
  if pow est ≤ q then est else if pow (est - 1) ≤ q then est - 1 else est - 2

def distance (a b : Rat) : Rat := if a < b then b - a else a - b

/-- The decimal with `count` digits that reads back as `x`, of value `q`: its digits and the power of ten of
the last one. -/
def decimalOf? (x : Binary64) (q : Rat) (count : Nat) : Option (Nat × Int) :=
  let power : Int := floorLog10 q - (count - 1 : Nat)
  let scaled : Rat := if power ≥ 0 then q / Nat.pow 10 power.toNat else q * Nat.pow 10 (-power).toNat
  let lo := scaled.floor.toNat
  let reads (d : Nat) : Bool := ofDecimal false d power == x
  match reads lo, reads (lo + 1) with
  | true, true =>
    let up := distance scaled (lo + 1 : Nat)
    let down := distance scaled lo
    some (if up < down || (up == down && lo % 2 == 1) then lo + 1 else lo, power)
  | true, false => some (lo, power)
  | false, true => some (lo + 1, power)
  | false, false => none

/-- The digits of a positive finite number and the power of ten of the last one; seventeen always suffice. -/
def shortest (x : Binary64) : Nat × Int :=
  let q := x.toRat?.getD 0
  ((List.range 17).findSome? fun n => decimalOf? x q (n + 1)).getD (0, 0)

end Binary64

def fixed (places : Nat) (q : Rat) : String :=
  let n := Binary64.roundDiv (q.num.natAbs * Nat.pow 10 places) q.den
  let whole := Text.ofNat (n / Nat.pow 10 places)
  let sign := if q < 0 then "-" else ""
  if places == 0 then sign ++ whole else sign ++ whole ++ "." ++ Text.padded places (n % Nat.pow 10 places)

namespace Binary64

/-- Where the positional form ends: at most sixteen digits before the point and three zeros after it. -/
def positional (point : Int) : Bool := -4 < point && point ≤ 16

def writeDigits (ds : List Char) (point : Int) : List Char :=
  if positional point then
    if point ≤ 0 then ['0', '.'] ++ List.replicate (-point).toNat '0' ++ ds
    else if ds.length ≤ point.toNat then ds ++ List.replicate (point.toNat - ds.length) '0' ++ ['.', '0']
    else ds.take point.toNat ++ ['.'] ++ ds.drop point.toNat
  else
    let e := point - 1
    let front := match ds with
      | [] => ['0']
      | [d] => [d]
      | d :: rest => [d, '.'] ++ rest
    front ++ ['e', if e < 0 then '-' else '+'] ++ (Text.padded 2 e.natAbs).toList

def toText : Binary64 → String
  | .nan => "nan"
  | .infinite s => if s then "-inf" else "inf"
  | .finite s m e =>
    let body :=
      if m == 0 then "0.0".toList
      else
        let (d, p) := shortest (.finite false m e)
        let ds := Nat.toDigits 10 d
        let kept := (ds.reverse.dropWhile (· == '0')).reverse
        writeDigits kept (ds.length + p)
    String.ofList (if s then '-' :: body else body)

def toFixed (places : Nat) : Binary64 → String
  | x@(.finite s _ _) =>
    let body := fixed places (x.toRat?.getD 0).abs
    if s then "-" ++ body else body
  | x => x.toText

end Binary64

end TriStore
