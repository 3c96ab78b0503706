/-!
Unpacking text and numbers that were packed by what their own past foretells. A character or a
number is unpacked bit by bit.
-/
namespace TriStore.Packed.Foretold

def spread (sum n : UInt64) : UInt64 := (sum + n + 1) * 0x9e3779b97f4a7c15

def log (n : Nat) : Int := 256 * n.log2 + ((256 * n) >>> n.log2) - 256

/-- The logarithms of the odds of the chances, which count in parts of 4096. -/
def odds : Array Int := (Array.range 4096).map fun chance => log chance - log (4096 - chance)

def chanceOf (odds : Int) : Nat :=
  let n := min odds.natAbs 3071
  let x := (256 + n % 256) <<< (n / 256)
  let chance := 65536 * x / (x + 256)
  if odds < 0 then 65536 - chance else chance

/-- A chance after one more bit; its last eight bits count those that it rests on. -/
def learn (one : Bool) (known : Nat) : Nat :=
  let chance := known / 256
  let count := known % 256
  let chance := if one then chance + (4194303 - chance) * 2 / (2 * count + 3)
    else chance - (chance - 1) * 2 / (2 * count + 3)
  256 * chance + min (count + 1) 127

def zeros (size : Nat) : ByteArray := (List.range size).foldl (fun bs _ => bs ++ bs) ⟨#[0]⟩

/-- The digits to come, the interval, the place in it, and what was learnt: the last bits by view and past,
the chances, and the weights of the views. -/
structure State where
  digits : List Nat
  range : Nat := 1
  place : Nat := 0
  lasts : ByteArray := zeros 25
  chances : Array Nat := Array.replicate (11 * 256) 0x20000000
  weights : Array Int := Array.replicate (4 * 128 * 11) 3000

/-- The digits that a sign writes: a large one stands in one sign with the digit after it. -/
def digitsOf (c : Char) : List Nat :=
  if c.toNat < 174 then [c.toNat - 32 - [34, 92, 123, 125].countP (· < c.toNat)]
  else [91 + (c.toNat - 174) / 103, (c.toNat - 174) % 103]

def State.ofRows (rows : List String) : State :=
  { digits := rows.flatMap fun row => row.toList.flatMap digitsOf }

def refill (range place : Nat) : List Nat → Nat × Nat × List Nat
  | [] => (range, place, [])
  | d :: ds =>
    if range < 0x100000000 then refill (103 * range) (103 * place + d) ds else (range, place, d :: ds)

def slot (bits : Nat) (view : UInt64) : Nat := (spread view bits.toUInt64 >>> 39).toNat

/-- What the views from the `i`-th on say together. -/
def said (lasts : ByteArray) (chances : Array Nat) (weights : Array Int) (bits j i : Nat) : List UInt64 → Int
  | [] => 0
  | view :: views =>
    let known := chances.getD (256 * i + (lasts.get! (slot bits view)).toNat) 0
    odds.getD (known / 262144) 0 * weights.getD (j + i) 0 + said lasts chances weights bits j (i + 1) views

def taught (bits : Nat) (one : Bool) (error : Int) (j i : Nat) (lasts : ByteArray) (chances : Array Nat)
    (weights : Array Int) : List UInt64 → ByteArray × Array Nat × Array Int
  | [] => (lasts, chances, weights)
  | view :: views =>
    let spot := slot bits view
    let last := lasts.get! spot
    let k := 256 * i + last.toNat
    let known := chances.getD k 0
    let next := 2 * max last.toNat 1 + one.toNat
    taught bits one error j (i + 1) (lasts.set! spot (if next < 256 then next else 128 + next % 128).toUInt8)
      (chances.setIfInBounds k (learn one known))
      (weights.modify (j + i) (· + odds.getD (known / 262144) 0 * error / 131072)) views

def nextBit (views : List UInt64) (set : Nat) (s : State) (bits : Nat) : State × Nat :=
  let ⟨digits, range, place, lasts, chances, weights⟩ := s
  let j := 11 * (128 * set + bits)
  let chance := chanceOf (said lasts chances weights bits j 0 views / 16384)
  let (range, place, digits) := refill range place digits
  let part := range * chance / 65536
  let one := decide (place < part)
  let (lasts, chances, weights) :=
    taught bits one ((if one then 65536 else 0) - chance) j 0 lasts chances weights views
  ({ digits, range := if one then part else range - part, place := if one then place else place - part,
     lasts, chances, weights }, 2 * bits + one.toNat)

/-- The text so far, where its last three entries begin, what came last after six characters and how often in
a row, the marks of the entry other than letters, and the last three words. -/
structure Past where
  text : ByteArray := ⟨.replicate 6 0⟩
  entry : Nat := 6
  above : Nat := 6
  higher : Nat := 6
  next : ByteArray := zeros 20
  runs : Nat := 0
  marks : UInt64 := 0
  word : UInt64 := 0
  second : UInt64 := 0
  third : UInt64 := 0

def nextChar (p : Past) (s : State) : Past × State :=
  let ⟨text, entry, above, higher, next, runs, marks, word, second, third⟩ := p
  let column := text.size - entry
  let back n := (text.get! (text.size - n)).toUInt64
  let up start stop := if start + column < stop then (text.get! (start + column)).toUInt64 else 0
  let a := back 1
  let b := up above entry
  let place := (([1, 2, 3, 4, 5, 6].foldl (fun sum n => spread sum (back n)) 0) >>> 44).toNat
  let n := next.get! place
  let views := [[0, a, back 2], [1, a, back 2, back 3], [2, a, back 2, back 3, back 4],
    [3, a, b, up higher above], [4, column.toUInt64, b], [5, n.toUInt64, (min runs 7).toUInt64],
    [6, n.toUInt64, a], [7, word], [8, marks, a], [9, word, second, third],
    [10, word, b, up (above + 1) entry]].map (·.foldl spread 0)
  let (s, bits) := (List.range 7).foldl (fun (s, bits) _ => nextBit views (min column 3) s bits) (s, 1)
  let c := (bits - 128).toUInt8
  let ends := c == 10 || c == 58 || c == 59
  let letter := 65 ≤ c && c ≤ 90
  let text := text.push c
  let old := letter || word == 0
  ({ text, entry := if ends then text.size else entry, above := if ends then entry else above,
     higher := if ends then above else higher, next := next.set! place c,
     runs := if n == c then runs + 1 else 0,
     marks := if ends then 0 else if letter then marks else spread marks c.toUInt64,
     word := if letter then spread word c.toUInt64 else 0,
     second := if old then second else word, third := if old then third else second }, s)

def unpack (size : Nat) (rows : List String) : String :=
  let (p, _) := (List.range size).foldl (fun (p, s) _ => nextChar p s)
    (({} : Past), .ofRows rows)
  String.ofList ((p.text.toList.drop 6).map fun c => Char.ofNat c.toNat)

def ones (views : List UInt64) (set : Nat) : Nat → Nat → State → State × Nat
  | 0, n, s => (s, n)
  | fuel + 1, n, s =>
    let (s, bits) := nextBit views set s (n + 1)
    if bits % 2 == 1 then ones views set fuel (n + 1) s else (s, n)

def lastBits (views : List UInt64) (set length : Nat) : Nat → Nat → State → State × Nat
  | 0, n, s => (s, n)
  | left + 1, n, s =>
    let mark := if n < 256 then 32 * n + length else left
    let (s, bits) := nextBit (views.map (spread · mark.toUInt64)) set s (left + 1)
    lastBits views set length left (2 * n + bits % 2) s

def measure (n : Nat) : Nat := if n < 2 then n else 2 + 2 * (n / 2).log2 + n % 2

/-- The next number of a list, which is like the one a period before. -/
def nextNumber (list period : Nat) (past : Array Nat) (s : State) : Array Nat × State :=
  let back n := if n ≤ past.size then past.getD (past.size - n) 0 else 0
  let column := past.size % period
  let a := back 1
  let again := if a == back (period + 1) then 1 else 0
  let views := [[0, list, column], [1, list, column, measure a], [2, a, back 2, back 3, period],
    [3, measure a, measure (back 2), measure (back 3)], [4, column, a],
    [5, back period, back (2 * period), again, period]].map
      (·.foldl (fun sum n => spread sum n.toUInt64) 0)
  let set := if a == 1 then 2 else 0
  let (s, length) := ones (views.map (spread · 0)) set 24 0 s
  let (s, n) := lastBits views (set + 1) length length 1 s
  (past.push (n - 1), s)

/-- Even numbers lead ahead and odd ones back. -/
def signed (n : Nat) : Int := if n % 2 == 0 then (n / 2 : Nat) else -((n / 2 : Nat) : Int) - 1

def lists (shapes : List (Nat × Nat)) (rows : List String) : Array (List Nat) :=
  let (all, _) := shapes.foldl (fun (all, s) (size, period) =>
    let (list, s) := (List.range size).foldl (fun (past, s) _ => nextNumber all.size period past s) (#[], s)
    (all.push list.toList, s)) ((#[] : Array (List Nat)), State.ofRows rows)
  all

end TriStore.Packed.Foretold
