/-!
Bands of code points, blank characters, digits, lines, hexadecimal digits, and bytes that cannot be
read.
-/
namespace TriStore.Text

def inBands : List (Nat × Nat) → Nat → Bool
  | [], _ => false
  | (lo, hi) :: rest, n => if n < lo then false else n ≤ hi || inBands rest n

/-- The bands that steps tell: how many numbers are left out, and how many follow the first one in the band,
in turn. -/
def bandsFrom (start : Nat) : List Nat → List (Nat × Nat)
  | gap :: more :: rest => (start + gap, start + gap + more) :: bandsFrom (start + gap + more + 1) rest
  | _ => []

/-- The controls from tab to carriage return, the four separators before the space, the space, and the spaces
and line ends of other scripts. -/
def isBlank (c : Char) : Bool :=
  let n := c.toNat
  (9 ≤ n && n ≤ 13) || (28 ≤ n && n ≤ 32) || n == 0x85 || n == 0xa0 || n == 0x1680 ||
    (0x2000 ≤ n && n ≤ 0x200a) || n == 0x2028 || n == 0x2029 || n == 0x202f || n == 0x205f ||
    n == 0x3000

def trimStart (p : Char → Bool) (cs : List Char) : List Char := cs.dropWhile p

def trimEnd (p : Char → Bool) (cs : List Char) : List Char := (cs.reverse.dropWhile p).reverse

def trim (p : Char → Bool) (cs : List Char) : List Char := trimEnd p (trimStart p cs)

def strip (s : String) : String := String.ofList (trim isBlank s.toList)

def occursIn {α : Type} [BEq α] (needle : List α) : List α → Bool
  | [] => needle.isEmpty
  | c :: cs => needle.isPrefixOf (c :: cs) || occursIn needle cs

def includes (s needle : String) : Bool := occursIn needle.toList s.toList

def pieces (sep : Char → Bool) : List Char → List (List Char)
  | [] => [[]]
  | c :: cs =>
    if sep c then [] :: pieces sep cs
    else match pieces sep cs with
      | [] => [[c]]
      | p :: ps => (c :: p) :: ps

def words (sep : Char → Bool) (cs : List Char) : List (List Char) :=
  (pieces sep cs).filter (! ·.isEmpty)

def afterLast (sep : Char) (s : String) : String :=
  String.ofList (s.toList.reverse.takeWhile (· != sep)).reverse

def dropEnd (p : Char → Bool) (s : String) : String := String.ofList (trimEnd p s.toList)

def dropStart (p : Char → Bool) (s : String) : String := String.ofList (trimStart p s.toList)

def join (sep : String) : List String → String
  | [] => ""
  | [s] => s
  | s :: rest => s ++ sep ++ join sep rest

def ofNat (n : Nat) : String := String.ofList (Nat.toDigits 10 n)

def ofInt : Int → String
  | .ofNat n => ofNat n
  | .negSucc n => "-" ++ ofNat (n + 1)

def padded (width n : Nat) : String :=
  let ds := Nat.toDigits 10 n
  String.ofList (List.replicate (width - ds.length) '0' ++ ds)

def hex (width n : Nat) : String :=
  let ds := Nat.toDigits 16 n
  String.ofList (List.replicate (width - ds.length) '0' ++ ds)

def digitZeros : List Nat := [
  48, 1632, 1776, 1984, 2406, 2534, 2662, 2790, 2918, 3046, 3174, 3302, 3430, 3558, 3664, 3792,
  3872, 4160, 4240, 6112, 6160, 6470, 6608, 6784, 6800, 6992, 7088, 7232, 7248, 42528, 43216,
  43264, 43472, 43504, 43600, 44016, 65296, 66720, 68912, 69734, 69872, 69942, 70096, 70384, 70736,
  70864, 71248, 71360, 71472, 71904, 72016, 72784, 73040, 73120, 92768, 92864, 93008, 120782,
  120792, 120802, 120812, 120822, 123200, 123632, 125264, 130032]

def digitValue? (c : Char) : Option Nat :=
  (digitZeros.find? fun z => z ≤ c.toNat && c.toNat < z + 10).map (c.toNat - ·)

def isDigit (c : Char) : Bool := (digitValue? c).isSome

def natOfDigits (cs : List Char) : Nat :=
  cs.foldl (fun n c => n * 10 + (digitValue? c).getD 0) 0

def isLineEnd (c : Char) : Bool :=
  let n := c.toNat
  (10 ≤ n && n ≤ 13) || (28 ≤ n && n ≤ 30) || n == 0x85 || n == 0x2028 || n == 0x2029

/-- A carriage return and the line feed after it end one line together. -/
def lines : List Char → List (List Char)
  | [] => []
  | '\r' :: '\n' :: cs => ['\r', '\n'] :: lines cs
  | c :: cs =>
    if isLineEnd c then [c] :: lines cs
    else match lines cs with
      | [] => [[c]]
      | l :: ls => (c :: l) :: ls

inductive DecodingFault where
  | start
  | continuation
  | unfinished
  | cut
  | beyond
  | eightBit
  deriving DecidableEq, Repr, Inhabited

def DecodingFault.reason : DecodingFault → String
  | .start => "invalid start byte"
  | .continuation => "invalid continuation byte"
  | .unfinished => "unexpected end of data"
  | .cut => "truncated data"
  | .beyond => "code point not in range(0x110000)"
  | .eightBit => "ordinal not in range(128)"

structure Undecodable where
  encoding : String := "utf-8"
  fault : DecodingFault
  pos : Nat
  size : Nat
  first : UInt8
  deriving DecidableEq, Repr, Inhabited

def Undecodable.message (e : Undecodable) : String :=
  let place :=
    if e.size ≤ 1 then "byte 0x" ++ hex 2 e.first.toNat ++ " in position " ++ ofNat e.pos
    else "bytes in position " ++ ofNat e.pos ++ "-" ++ ofNat (e.pos + e.size - 1)
  "'" ++ e.encoding ++ "' codec can't decode " ++ place ++ ": " ++ e.fault.reason

def mark : Char := Char.ofNat 0xfffd

namespace Hex

def digit? (c : Char) : Option Nat :=
  if '0' ≤ c && c ≤ '9' then some (c.toNat - 48)
  else if 'a' ≤ c && c ≤ 'f' then some (c.toNat - 87)
  else if 'A' ≤ c && c ≤ 'F' then some (c.toNat - 55)
  else none

def number? (cs : List Char) : Option Nat :=
  cs.foldl (fun acc c => acc.bind fun n => (digit? c).map (n * 16 + ·)) (some 0)

def encode (bs : List UInt8) : String := Text.join "" (bs.map fun b => Text.hex 2 b.toNat)

def decodePairs : List Char → List UInt8
  | a :: b :: rest => ((digit? a).getD 0 * 16 + (digit? b).getD 0).toUInt8 :: decodePairs rest
  | _ => []

def decode (s : String) : List UInt8 := decodePairs s.toList

end Hex

end TriStore.Text
