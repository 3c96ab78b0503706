import TriStore.Text.Table

/-!
Texts in their composed form: every letter is composed with a mark after it if it can be, and the marks
of a letter stand in the order of their places.
-/
namespace TriStore.Text

def ringBands : List (Nat × Nat) := [
  (1160, 1161), (6846, 6846), (8413, 8416), (8418, 8420), (42608, 42610)]

def isFlatMark (c : Char) : Bool := inBands Table.flatMarks.bands c.toNat

def isMark (c : Char) : Bool :=
  isFlatMark c || inBands Table.spacingMarks.bands c.toNat || inBands ringBands c.toNat

def compositionsFrom (c letter : Nat) : List Nat → List (Nat × Nat × Nat)
  | step :: way :: mark :: rest =>
    let letter := (letter + Packed.Foretold.signed way).toNat
    (c + step, letter, mark) :: compositionsFrom (c + step) letter rest
  | _ => []

def compositions : Thunk (List (Nat × Nat × Nat)) :=
  .mk fun _ => compositionsFrom 0 0 Table.compositions.numbers

def numberedFrom (start : Nat) : List Nat → List (Nat × Nat × Nat)
  | gap :: more :: number :: rest =>
    (start + gap, start + gap + more, number) :: numberedFrom (start + gap + more + 1) rest
  | _ => []

def placeBands : Thunk (List (Nat × Nat × Nat)) := .mk fun _ => numberedFrom 0 Table.places.numbers

namespace Normal

def place (n : Nat) : Nat :=
  ((placeBands.get.find? fun (lo, hi, _) => lo ≤ n && n ≤ hi).map (·.2.2)).getD 0

/-- The syllables of Korean are composed of two or three letters by their numbers. -/
def isSyllable (n : Nat) : Bool := 0xac00 ≤ n && n < 0xac00 + 19 * 21 * 28

def split? (n : Nat) : Option (Nat × Nat) :=
  if isSyllable n then
    let i := n - 0xac00
    if i % 28 == 0 then some (0x1100 + i / 588, 0x1161 + i % 588 / 28)
    else some (n - i % 28, 0x11a7 + i % 28)
  else (compositions.get.find? (·.1 == n)).map (·.2)

def join? (a b : Nat) : Option Nat :=
  if 0x1100 ≤ a && a < 0x1113 && 0x1161 ≤ b && b < 0x1176 then
    some (0xac00 + (a - 0x1100) * 588 + (b - 0x1161) * 28)
  else if isSyllable a && (a - 0xac00) % 28 == 0 && 0x11a7 < b && b < 0x11c3 then some (a + (b - 0x11a7))
  else (compositions.get.find? fun c => c.2 == (a, b)).map (·.1)

def parts : Nat → Nat → List Nat
  | 0, n => [n]
  | fuel + 1, n =>
    match split? n with
    | some (a, b) => parts fuel a ++ [b]
    | none => [n]

/-- Puts a character after others: a mark goes before the marks of later places. -/
def putLast (acc : List Nat) (n : Nat) : List Nat :=
  match acc with
  | [] => [n]
  | m :: rest =>
    if place n != 0 && place n < place m then m :: putLast rest n else n :: m :: rest

/-- Composing from left to right: what is done, a letter that may still be composed, and the marks after it,
each the last one first. -/
structure State where
  done : List Nat := []
  letter : Option Nat := none
  marks : List Nat := []

def State.flush (s : State) : List Nat := s.marks ++ s.letter.toList ++ s.done

def State.isFree (s : State) (k : Nat) : Bool :=
  match s.marks with
  | [] => true
  | m :: _ => place m < k

def State.step (s : State) (n : Nat) : State :=
  let k := place n
  let joined := if s.isFree k then s.letter.bind (join? · n) else none
  match joined with
  | some m => { s with letter := some m }
  | none =>
    if k == 0 then { done := s.flush, letter := some n }
    else { s with marks := n :: s.marks }

def compose (ns : List Nat) : List Nat :=
  let ordered := ((ns.flatMap (parts 4)).foldl putLast []).reverse
  (ordered.foldl State.step {}).flush.reverse

def isComposed (cs : List Char) : Bool :=
  let ns := cs.map (·.toNat)
  !ns.any (inBands Table.replaced.bands) && compose ns == ns

end Normal

end TriStore.Text
