import TriStore.Text.Basic
import TriStore.Text.Points

/-!
Texts in ASCII.
-/
namespace TriStore.Text.Punycode

def digit (n : Nat) : Char := Char.ofNat (if n < 26 then 0x61 + n else 0x30 + (n - 26))

def threshold (k bias : Nat) : Nat := if k ≤ bias then 1 else min (k - bias) 26

def scale : Nat → Nat → Nat → Nat × Nat
  | 0, delta, k => (delta, k)
  | fuel + 1, delta, k => if 455 < delta then scale fuel (delta / 35) (k + 36) else (delta, k)

def adapt (delta points : Nat) (isFirst : Bool) : Nat :=
  let delta := if isFirst then delta / 700 else delta / 2
  let delta := delta + delta / points
  let (delta, k) := scale delta delta 0
  k + 36 * delta / (delta + 38)

def digits (bias : Nat) : Nat → Nat → Nat → List Char
  | 0, _, q => [digit (q % 36)]
  | fuel + 1, k, q =>
    let t := threshold k bias
    if q < t then [digit q]
    else digit (t + (q - t) % (36 - t)) :: digits bias fuel (k + 36) ((q - t) / (36 - t))

/-- The code point and the step reached, the bias, and how many characters have been written. -/
structure State where
  point : Nat := 128
  delta : Nat := 0
  bias : Nat := 72
  written : Nat
  out : List Char

def pass (basic n : Nat) (s : State) (c : Char) : State :=
  if c.toNat < n then { s with delta := s.delta + 1 }
  else if c.toNat == n then
    { s with
      out := s.out ++ digits s.bias (s.delta + 1) 36 s.delta
      bias := adapt s.delta (s.written + 1) (s.written == basic)
      delta := 0
      written := s.written + 1 }
  else s

def round (label : List Char) (basic : Nat) (s : State) (n : Nat) : State :=
  let start := { s with delta := s.delta + (n - s.point) * (s.written + 1) }
  let s := label.foldl (pass basic n) start
  { s with point := n + 1, delta := s.delta + 1 }

def encode (label : List Char) : List Char :=
  let basic := label.filter (·.toNat < 128)
  let others := ((label.filter (128 ≤ ·.toNat)).map (·.toNat)).mergeSort (· ≤ ·)
  let start : State := {
    written := basic.length
    out := if basic.isEmpty then [] else basic ++ ['-'] }
  (others.eraseDups.foldl (round label basic.length) start).out

def value? (c : Char) : Option Nat :=
  if 'a' ≤ c && c ≤ 'z' then some (c.toNat - 0x61)
  else if 'A' ≤ c && c ≤ 'Z' then some (c.toNat - 0x41)
  else if '0' ≤ c && c ≤ '9' then some (c.toNat - 0x30 + 26)
  else none

def step? (bias k weight acc : Nat) : List Char → Option (Nat × List Char)
  | [] => none
  | c :: cs =>
    (value? c).bind fun d =>
      let t := threshold k bias
      if d < t then some (acc + d * weight, cs)
      else step? bias (k + 36) (weight * (36 - t)) (acc + d * weight) cs

/-- Puts the characters of the steps into a text, up to one that cannot be read; whether all could be is told.
-/
def insertAll : Nat → Bool → Nat → Nat → Nat → Bool → List Nat → List Char → List Nat × Bool
  | 0, _, _, _, _, isFine, text, _ | _ + 1, _, _, _, _, isFine, text, [] => (text, isFine)
  | fuel + 1, isFirst, point, place, bias, isFine, text, steps =>
    match step? bias 36 1 0 steps with
    | none => (text, false)
    | some (delta, steps) =>
      let place := place + delta
      let point := point + place / (text.length + 1)
      let isChar := point < 0x110000
      let point := if isChar then point else 0x3f
      let place := place % (text.length + 1)
      let text := text.take place ++ point :: text.drop place
      insertAll fuel false point (place + 1) (adapt delta text.length isFirst) (isFine && isChar) text steps

def assemble (basic : List Nat) (steps : List Char) : List Nat × Bool :=
  insertAll (steps.length + 1) true 128 0 72 true basic steps

def read? (cs : List Char) : Option (List Char) :=
  let steps := (cs.reverse.takeWhile (· != '-')).reverse
  let basic := cs.take (cs.length - steps.length - 1)
  let (points, isFine) := assemble (basic.map (·.toNat)) steps
  if isFine then some (ofPoints points) else none

def decode (bs : List UInt8) : Except Undecodable (List Char) :=
  let steps := (bs.reverse.takeWhile (· != 0x2d)).reverse
  let basic := bs.take (bs.length - steps.length - 1)
  match steps.findIdx? (0x80 ≤ ·) with
  | some i =>
    .error { encoding := "ascii", fault := .eightBit, pos := i, size := 1, first := steps.getD i 0 }
  | none =>
    let (points, _) := assemble (basic.map fun b => if b < 0x80 then b.toNat else mark.toNat)
      (steps.map fun b => Char.ofNat b.toNat)
    .ok (ofPoints points)

end TriStore.Text.Punycode
