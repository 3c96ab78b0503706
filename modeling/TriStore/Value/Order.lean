import TriStore.Value.Basic

/-!
The order in which a set gives its members. The set keeps them in a table that grows with it.
-/
namespace TriStore.Value

def modulus : Nat := Nat.pow 2 61 - 1

def words : Nat := Nat.pow 2 64

/-- The number for a magnitude below the prime and its sign, in 64 bits. -/
def signedMark (negative : Bool) (n : Nat) : Nat :=
  if n == 0 || !negative then n else words - (if n == 1 then 2 else n)

def infiniteMark : Nat := 314159

/-- The number for a number; that for a fraction is the quotient modulo the prime. -/
def floatMark? : Binary64 → Option Nat
  | .nan => none
  | .infinite negative => some (signedMark negative infiniteMark)
  | .finite negative m e => some (signedMark negative (m * Nat.pow 2 (e % 61).toNat % modulus))

/-- Mixes the number for one member of a tuple into that for the members before it. -/
def mixMark (acc lane : Nat) : Nat :=
  let mixed := (acc + lane * 14029467366897019727) % words
  ((mixed * Nat.pow 2 31 % words) + mixed / Nat.pow 2 33) * 11400714785074694791 % words

def tupleStart : Nat := 2870177450012600261

def finishMark (count acc : Nat) : Nat :=
  let mark := (acc + (count ^^^ (tupleStart ^^^ 3527539))) % words
  if mark == words - 1 then 1546275796 else mark

mutual

def mark? : Value → Option Nat
  | .bool b => some (if b then 1 else 0)
  | .int n => some (signedMark (n < 0) (n.natAbs % modulus))
  | .float x => floatMark? x
  | .text s => if s.isEmpty then some 0 else none
  | .bytes bs => if bs.isEmpty then some 0 else none
  | .tuple vs => (tupleMark? tupleStart vs).map (finishMark vs.length)
  | _ => none

def tupleMark? (acc : Nat) : List Value → Option Nat
  | [] => some acc
  | v :: vs => (mark? v).bind fun lane => tupleMark? (mixMark acc lane) vs

end

structure Numbered where
  value : Value
  mark : Nat
  deriving Repr, Inhabited

abbrev Places := Array (Option Numbered)

namespace Places

def empty (size : Nat) : Places := Array.replicate size none

def nearby : Nat := 9

/-- The first free place at `i` or right after it; near the end only `i` itself is tried. -/
def freeNear? (p : Places) (i : Nat) : Option Nat :=
  let count := if i + nearby < p.size then nearby + 1 else 1
  ((List.range count).map (i + ·)).find? fun j => (p.getD j none).isNone

/-- The place for a member: those near `i`, then those that the rest of its number leads to. -/
def free (p : Places) : Nat → Nat → Nat → Nat
  | 0, i, _ => i
  | fuel + 1, i, rest =>
    match p.freeNear? i with
    | some j => j
    | none =>
      let rest := rest / 32
      free p fuel ((i * 5 + 1 + rest) % p.size) rest

def place (p : Places) (m : Numbered) : Places :=
  p.setIfInBounds (p.free (p.size + 16) (m.mark % p.size) m.mark) (some m)

def taken (p : Places) : List Numbered := p.toList.filterMap id

def sizeAbove (n : Nat) : Nat := max 8 (Nat.pow 2 (n.log2 + 1))

def grown (p : Places) (n : Nat) : Places := p.taken.foldl place (empty (sizeAbove n))

def isTooFull (p : Places) (count : Nat) : Bool := 3 * (p.size - 1) ≤ 5 * count

def add (p : Places) (m : Numbered) : Places :=
  let p := p.place m
  let count := p.taken.length
  if p.isTooFull count then p.grown (if 50000 < count then 2 * count else 4 * count) else p

end Places

def ordered (size : Nat) (members : List Value) : List Value :=
  match members.mapM fun v => (mark? v).map fun mark => ({ value := v, mark } : Numbered) with
  | some numbered => ((numbered.foldl Places.add (Places.empty size)).taken).map (·.value)
  | none => members

def ofMembers (members : List Value) : Value := .set (ordered 8 members)

/-- The set of the keys of a mapping. -/
def ofKeys (keys : List Value) : Value :=
  let size := if (Places.empty 8).isTooFull keys.length then Places.sizeAbove (2 * keys.length) else 8
  .set (ordered size keys)

end TriStore.Value
