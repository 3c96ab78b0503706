/-!
Data that was packed by repetitions and codes of varying length, with a header before it and sums after
it, maybe several times.
-/
namespace TriStore.Packed

inductive Fault where
  | header
  | method
  | headerFlags
  | headerSum
  | window
  | dictionary
  | blockKind
  | storedSize
  | tooManyCodes
  | lengthCodes
  | lengthRepeat
  | noEnd
  | symbolCodes
  | distanceCodes
  | symbol
  | distance
  | tooFarBack
  | sum
  | size
  deriving DecidableEq, Repr, Inhabited

def Fault.reason : Fault → String
  | .header => "incorrect header check"
  | .method => "unknown compression method"
  | .headerFlags => "unknown header flags set"
  | .headerSum => "header crc mismatch"
  | .window => "invalid window size"
  | .dictionary => ""
  | .blockKind => "invalid block type"
  | .storedSize => "invalid stored block lengths"
  | .tooManyCodes => "too many length or distance symbols"
  | .lengthCodes => "invalid code lengths set"
  | .lengthRepeat => "invalid bit length repeat"
  | .noEnd => "invalid code -- missing end-of-block"
  | .symbolCodes => "invalid literal/lengths set"
  | .distanceCodes => "invalid distances set"
  | .symbol => "invalid literal/length code"
  | .distance => "invalid distance code"
  | .tooFarBack => "invalid distance too far back"
  | .sum => "incorrect data check"
  | .size => "incorrect length check"

def Fault.message (f : Fault) : String :=
  if f == .dictionary then "Error 2 while decompressing data"
  else "Error -3 while decompressing data: " ++ f.reason

inductive Stop where
  | short
  | fault (f : Fault)
  deriving DecidableEq, Repr, Inhabited

structure State where
  bits : List Bool
  out : Array UInt8 := #[]

abbrev Unpack := ExceptT Stop (StateM State)

def bitsOf (b : UInt8) : List Bool := (List.range 8).map fun i => (b.toNat >>> i) % 2 == 1

def take (n : Nat) : Unpack Nat := do
  let s ← get
  let front := s.bits.take n
  if front.length < n then throw .short
  set { s with bits := s.bits.drop n }
  return front.foldr (fun b acc => acc * 2 + b.toNat) 0

def emit (b : UInt8) : Unpack Unit := modify fun s => { s with out := s.out.push b }

structure Codes where
  lengths : List Nat
  deriving Repr, Inhabited

namespace Codes

def maxLength : Nat := 15

def count (c : Codes) (n : Nat) : Nat := c.lengths.count n

def longest (c : Codes) : Nat := c.lengths.foldl max 0

def symbols (c : Codes) : Array Nat :=
  ((List.range maxLength).flatMap fun n =>
    (c.lengths.zipIdx.filter (·.1 == n + 1)).map (·.2)).toArray

/-- How many codes of the greatest length are left over, or less than zero. -/
def left (c : Codes) : Int :=
  (List.range maxLength).foldl (fun (acc : Int) n =>
    if acc < 0 then acc else acc * 2 - c.count (n + 1)) 1

def isUsable (c : Codes) (few : Bool) : Bool :=
  c.longest == 0 || c.left == 0 || (few && 0 < c.left && c.longest == 1)

end Codes

/-- A set of codes made ready: how many have each length, the symbols, and the greatest length. -/
structure CodeTable where
  counts : Array Nat
  symbols : Array Nat
  longest : Nat
  deriving Repr, Inhabited

def Codes.table (c : Codes) : CodeTable where
  counts := ((List.range (maxLength + 1)).map fun n => if n == 0 then 0 else c.count n).toArray
  symbols := c.symbols
  longest := c.longest

/-- Reads a symbol bit by bit: what was read, the first code of this length and the number of shorter codes.
-/
def CodeTable.readFrom (t : CodeTable) (missing : Unpack Nat) : Nat → Nat → Nat → Nat → Nat → Unpack Nat
  | 0, _, _, _, _ => missing
  | fuel + 1, length, code, first, index => do
    let bit ← take 1
    let code := code * 2 + bit
    let count := t.counts.getD length 0
    if code < first + count then return t.symbols.getD (index + (code - first)) 0
    if max t.longest 1 ≤ length then missing
    else readFrom t missing fuel (length + 1) code ((first + count) * 2) (index + count)

def CodeTable.read (t : CodeTable) (missing : Unpack Nat) : Unpack Nat :=
  t.readFrom missing Codes.maxLength 1 0 0 0

def lengthBases : Array (Nat × Nat) := #[
  (3, 0), (4, 0), (5, 0), (6, 0), (7, 0), (8, 0), (9, 0), (10, 0), (11, 1), (13, 1), (15, 1), (17, 1),
  (19, 2), (23, 2), (27, 2), (31, 2), (35, 3), (43, 3), (51, 3), (59, 3), (67, 4), (83, 4), (99, 4),
  (115, 4), (131, 5), (163, 5), (195, 5), (227, 5), (258, 0)]

def distanceBases : Array (Nat × Nat) := #[
  (1, 0), (2, 0), (3, 0), (4, 0), (5, 1), (7, 1), (9, 2), (13, 2), (17, 3), (25, 3), (33, 4), (49, 4),
  (65, 5), (97, 5), (129, 6), (193, 6), (257, 7), (385, 7), (513, 8), (769, 8), (1025, 9), (1537, 9),
  (2049, 10), (3073, 10), (4097, 11), (6145, 11), (8193, 12), (12289, 12), (16385, 13), (24577, 13)]

def fail {α : Type} (f : Fault) : Unpack α := throw (.fault f)

def copy (distance : Nat) : Nat → Unpack Unit
  | 0 => return
  | n + 1 => do
    let out := (← get).out
    emit (out.getD (out.size - distance) 0)
    copy distance n

def content (symbol distance : Unpack Nat) : Nat → Unpack Unit
  | 0 => throw .short
  | fuel + 1 => do
    let n ← symbol
    if n < 256 then
      emit n.toUInt8
      content symbol distance fuel
    else if n == 256 then return
    else
      let some (base, extra) := lengthBases[n - 257]? | fail .symbol
      let length := base + (← take extra)
      let some (base, extra) := distanceBases[← distance]? | fail .distance
      let back := base + (← take extra)
      if (← get).out.size < back then fail .tooFarBack
      copy back length
      content symbol distance fuel

def fixedSymbols : Codes :=
  ⟨List.replicate 144 8 ++ List.replicate 112 9 ++ List.replicate 24 7 ++ List.replicate 8 8⟩

def fixedDistances : Codes := ⟨List.replicate 32 5⟩

def lengthOrder : List Nat := [16, 17, 18, 0, 8, 7, 9, 6, 10, 5, 11, 4, 12, 3, 13, 2, 14, 1, 15]

def codeLengths (symbol : Unpack Nat) (total : Nat) : Nat → List Nat → Unpack (List Nat)
  | 0, acc => return acc
  | fuel + 1, acc => do
    if total ≤ acc.length then return acc
    let n ← symbol
    if n < 16 then codeLengths symbol total fuel (n :: acc)
    else
      let (length, times) ←
        if n == 16 then do
          let more ← take 2
          match acc with
          | [] => fail .lengthRepeat
          | last :: _ => pure (last, 3 + more)
        else if n == 17 then do pure (0, 3 + (← take 3))
        else do pure (0, 11 + (← take 7))
      if total < acc.length + times then fail .lengthRepeat
      codeLengths symbol total fuel (List.replicate times length ++ acc)

def ownCodes : Unpack (Codes × Codes) := do
  let sizes ← take 14
  let symbols := sizes % 32 + 257
  let distances := sizes / 32 % 32 + 1
  let given := sizes / 1024 + 4
  if 286 < symbols || 30 < distances then fail .tooManyCodes
  let short ← (List.range given).mapM fun _ => take 3
  let lengths := (List.range 19).map fun n => short.getD (lengthOrder.idxOf n) 0
  let codes : Codes := ⟨lengths⟩
  if !codes.isUsable false then fail .lengthCodes
  let total := symbols + distances
  let table := codes.table
  let all := (← codeLengths (table.read (pure 0)) total (total + 1) []).reverse
  if all.getD 256 0 == 0 then fail .noEnd
  let first : Codes := ⟨all.take symbols⟩
  let second : Codes := ⟨all.drop symbols⟩
  if !first.isUsable true then fail .symbolCodes
  if !second.isUsable true then fail .distanceCodes
  return (first, second)

/-- A block that is not packed starts at a whole byte. -/
def alignToByte : Unpack Unit := modify fun s => { s with bits := s.bits.drop (s.bits.length % 8) }

def stored : Unpack Unit := do
  alignToByte
  let sizes ← take 32
  let size := sizes % 65536
  if size + sizes / 65536 != 65535 then fail .storedSize
  (List.range size).forM fun _ => do emit (← take 8).toUInt8

def blocks : Nat → Unpack Unit
  | 0 => throw .short
  | fuel + 1 => do
    let header ← take 3
    let room := (← get).bits.length + 1
    match header / 2 with
    | 0 => stored
    | 1 =>
      let symbols := fixedSymbols.table
      let distances := fixedDistances.table
      content (symbols.read (fail .symbol)) (distances.read (fail .distance)) room
    | 2 =>
      let (symbols, distances) ← ownCodes
      let symbols := symbols.table
      let distances := distances.table
      content (symbols.read (fail .symbol)) (distances.read (fail .distance)) room
    | _ => fail .blockKind
    if header % 2 == 1 then return
    blocks fuel

def run (act : Unpack Unit) (bs : List UInt8) : Except Fault (List UInt8) :=
  let (r, s) := (act.run { bits := bs.flatMap bitsOf }).run
  match r with
  | .error (.fault f) => .error f
  | .ok _ | .error .short => .ok s.out.toList

def allBlocks : Unpack Unit := do blocks ((← get).bits.length + 1)

def crc32 (bs : List UInt8) : Nat :=
  let step (n : UInt32) : UInt32 := if n &&& 1 == 1 then (n >>> 1) ^^^ 0xedb88320 else n >>> 1
  let sum := bs.foldl (fun (n : UInt32) b =>
    (List.range 8).foldl (fun n _ => step n) (n ^^^ b.toUInt32)) 0xffffffff
  (sum ^^^ 0xffffffff).toNat

def adler32 (bs : List UInt8) : Nat :=
  let (a, b) := bs.foldl (fun (a, b) byte =>
    let a := (a + byte.toNat) % 65521
    (a, (b + a) % 65521)) (1, 0)
  b * 65536 + a

def swapped (n : Nat) : Nat :=
  n % 256 * Nat.pow 2 24 + n / 256 % 256 * Nat.pow 2 16 + n / Nat.pow 2 16 % 256 * 256 + n / Nat.pow 2 24

def skipText : Nat → List UInt8 → Unpack (List UInt8)
  | 0, acc => return acc
  | fuel + 1, acc => do
    let b ← take 8
    if b == 0 then return b.toUInt8 :: acc else skipText fuel (b.toUInt8 :: acc)

def hasFlag (flags n : Nat) : Bool := flags / Nat.pow 2 n % 2 == 1

def byteTimes (n : Nat) : Unpack (List UInt8) := do
  return (← (List.range n).mapM fun _ => take 8).map Nat.toUInt8

def fileHeader : Unpack Unit := do
  let start ← take 16
  if start != 0x8b1f then fail .header
  let second ← take 16
  if second % 256 != 8 then fail .method
  let flags := second / 256
  if 32 ≤ flags then fail .headerFlags
  let front : List UInt8 := [0x1f, 0x8b, 8, flags.toUInt8]
  let plain ← byteTimes 6
  let extra ← if hasFlag flags 2 then do
      let size ← byteTimes 2
      let count := size.foldr (fun b n => n * 256 + b.toNat) 0
      pure (size ++ (← byteTimes count))
    else pure []
  let room := (← get).bits.length
  let name ← if hasFlag flags 3 then skipText room [] else pure []
  let comment ← if hasFlag flags 4 then skipText room [] else pure []
  if hasFlag flags 1 then
    let sum ← take 16
    let header := front ++ plain ++ extra ++ name.reverse ++ comment.reverse
    if sum != crc32 header % 65536 then fail .headerSum

def file : Unpack Unit := do
  fileHeader
  allBlocks
  alignToByte
  let sum ← take 32
  let out := (← get).out
  if sum != crc32 out.toList then fail .sum
  let size ← take 32
  if size != out.size % Nat.pow 2 32 then fail .size

def wrapped : Unpack Unit := do
  let start ← take 16
  let low := start % 256
  let high := start / 256
  if (low * 256 + high) % 31 != 0 then fail .header
  if low % 16 != 8 then fail .method
  if 7 < low / 16 then fail .window
  if hasFlag high 5 then
    let _ ← take 32
    fail .dictionary
  allBlocks
  alignToByte
  let sum ← take 32
  if swapped sum != adler32 (← get).out.toList then fail .sum

inductive Method where
  | file
  | blocks
  deriving DecidableEq, Repr, Inhabited

def Method.ofLabel? : String → Option Method
  | "gzip" => some .file
  | "deflate" => some .blocks
  | _ => none

def Method.unpack (m : Method) (bs : List UInt8) : Except Fault (List UInt8) :=
  match m with
  | .file => run Packed.file bs
  | .blocks =>
    match run wrapped bs with
    | .ok out => .ok out
    | .error _ => run allBlocks bs

def unpackAll (methods : List Method) (bs : List UInt8) : Except Fault (List UInt8) :=
  methods.reverse.foldlM (fun bs m => m.unpack bs) bs

end TriStore.Packed
