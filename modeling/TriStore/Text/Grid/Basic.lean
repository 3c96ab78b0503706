import TriStore.Packed.Foretold
import TriStore.Text.Basic
import TriStore.Text.Grid.Table
import TriStore.Text.Points

/-!
Characters in rows and columns, as encodings of several bytes number them, and the simplified Chinese
ones, of which the older standard has the common ones.
-/
namespace TriStore.Text

/-- The grids in the order in which they are packed. -/
inductive Grid where
  | japanese
  | supplement
  /-- The characters that a later standard has in free places of the main Japanese grid. -/
  | japaneseLater
  | japaneseSecond
  /-- The common ideographs of simplified Chinese. -/
  | chineseCommon
  | traditional
  | hongKong
  | korean
  | chineseSigns
  | additions
  /-- Characters that stand in Chinese places which were private before. -/
  | chineseFilled
  deriving DecidableEq, Repr, Inhabited

namespace Grid

/-- The numbers and columns of each grid, and the earlier grid whose characters do not come again in it. -/
def shapes : List (Nat × Nat × Option Nat) := [
  (9290, 94, none), (7253, 94, some 0), (9109, 94, some 0), (3160, 94, some 2), (10268, 94, none),
  (14210, 157, none), (9250, 157, some 5), (10415, 94, none), (1752, 190, none), (1596, 188, none),
  (272, 255, none)]

/-- The characters so far, the code points that are taken and the last one of them. -/
structure Walk where
  taken : Array Bool := Array.replicate 0x30000 false
  last : Nat := 0x4e00
  chars : Array Char := #[]

def Walk.put (w : Walk) (n : Nat) : Walk where
  taken := w.taken.setIfInBounds n true
  last := n
  chars := w.chars.push (Char.ofNat n)

/-- Passes over so many code points that are not taken, and goes to the next one. -/
def passOver (taken : Array Bool) (move : Nat → Nat) : Nat → Nat → Nat → Nat
  | 0, _, n => n
  | fuel + 1, count, n =>
    if taken.getD (move n) false then passOver taken move fuel count (move n)
    else if count == 0 then move n
    else passOver taken move fuel (count - 1) (move n)

/-- Zero is a place without a character, and after a one comes the code point. Of the others the even ones
lead ahead and the odd ones back. -/
def Walk.follow (w : Walk) : List Nat → Walk
  | [] => w
  | 0 :: ns => follow { w with chars := w.chars.push mark } ns
  | 1 :: n :: ns => follow (w.put n) ns
  | n :: ns =>
    let move := if n % 2 == 0 then (· + 1) else (· - 1)
    follow (w.put (passOver w.taken move 2000 (n / 2 - 1) w.last)) ns

def walks : Thunk (Array Walk) := .mk fun _ =>
  let lists := Packed.Foretold.lists (shapes.map fun (size, _) => (size, 1)) packed
  (shapes.zip lists.toList).foldl (fun walks ((_, _, before), ns) =>
    let start : Walk := match before with
      | some i => { taken := (walks.getD i {}).taken }
      | none => {}
    walks.push (start.follow ns)) #[]

def chars (g : Grid) : Array Char := (walks.get.getD g.ctorIdx {}).chars

def columns (g : Grid) : Nat := ((shapes[g.ctorIdx]?).map (·.2.1)).getD 0

def char? (g : Grid) (row column : Nat) : Option Char :=
  if column < g.columns then (g.chars[g.columns * row + column]?).filter (· != mark) else none

def japanesePairs : List ((Nat × Nat) × String) := [
  ((3, 86), "か\u309a"), ((3, 87), "き\u309a"), ((3, 88), "く\u309a"), ((3, 89), "け\u309a"),
  ((3, 90), "こ\u309a"), ((4, 86), "カ\u309a"), ((4, 87), "キ\u309a"), ((4, 88), "ク\u309a"),
  ((4, 89), "ケ\u309a"), ((4, 90), "コ\u309a"), ((4, 91), "セ\u309a"), ((4, 92), "ツ\u309a"),
  ((4, 93), "ト\u309a"), ((5, 87), "ㇷ\u309a"), ((10, 35), "æ\u0300"), ((10, 39), "ɔ\u0300"),
  ((10, 40), "ɔ\u0301"), ((10, 41), "ʌ\u0300"), ((10, 42), "ʌ\u0301"), ((10, 43), "ə\u0300"),
  ((10, 44), "ə\u0301"), ((10, 45), "ɚ\u0300"), ((10, 46), "ɚ\u0301"), ((10, 68), "˩˥"),
  ((10, 69), "˥˩")]

def secondRows : List Nat := [
  0, 7, 2, 3, 4, 11, 12, 13, 14, 77, 78, 79, 80, 81, 82, 83, 84, 85, 86, 87, 88, 89, 90, 91, 92, 93]

def hongKongLeads : List UInt8 := [
  0x87, 0x88, 0x89, 0x8a, 0x8b, 0x8c, 0x8d, 0x8e, 0x8f, 0x90, 0x91, 0x92, 0x93, 0x94, 0x95,
  0x96, 0x97, 0x98, 0x99, 0x9a, 0x9b, 0x9c, 0x9d, 0x9e, 0x9f, 0xa0, 0xc6, 0xc7, 0xc8, 0xf9,
  0xfa, 0xfb, 0xfc, 0xfd, 0xfe]

def hongKongPairs : List ((UInt8 × UInt8) × String) := [
  ((0x88, 0x62), "Ê\u0304"), ((0x88, 0x64), "Ê\u030c"),
  ((0x88, 0xa3), "ê\u0304"), ((0x88, 0xa5), "ê\u030c")]

end Grid

namespace Grid

def present (first count : Nat) (codes : Array Nat) : Array Bool :=
  codes.foldl (fun flags n => if first ≤ n then flags.setIfInBounds (n - first) true else flags)
    (Array.replicate count false)

def missing (first count : Nat) (codes : Array Nat) : Array Nat :=
  let flags := present first count codes
  (Array.range count).filterMap fun n => if flags.getD n false then none else some (first + n)

def chineseOthers : Thunk (Array Char) := .mk fun _ =>
  (missing 0x4e00 20902 (chineseCommon.chars.map Char.toNat)).map Char.ofNat ++
    "郎凉秊裏隣兀嗀﨎﨏﨑﨓﨔礼﨟蘒﨡﨣﨤﨧﨨﨩".toList.toArray

/-- The character of a place by rows of 190. -/
def chinese? (row column : Nat) : Option Char :=
  if row < 32 then chineseOthers.get[190 * row + column]?
  else if row < 41 then chineseSigns.char? (row - 32) column
  else if column < 96 then chineseOthers.get[6080 + 96 * (row - 41) + column]?
  else if row < 47 then none
  else chineseCommon.char? (row - 47) (column - 96)

def ownCode? (row column : Nat) : Option Nat :=
  if 96 ≤ column then
    if 41 ≤ row && row < 47 then some (0xe000 + 94 * (row - 41) + (column - 96))
    else if 119 ≤ row then some (0xe234 + 94 * (row - 119) + (column - 96))
    else none
  else if 32 ≤ row && row < 39 then some (0xe4c6 + 96 * (row - 32) + column)
  else none

/-- The code points of all places. -/
def chineseCodes : Thunk (Array Nat) := .mk fun _ =>
  ((List.range (126 * 190)).foldl (fun (codes, free) n =>
    match (ownCode? (n / 190) (n % 190)).or ((chinese? (n / 190) (n % 190)).map Char.toNat) with
    | some code => (codes.push code, free)
    | none => (codes.push (((chineseFilled.char? 0 free).map Char.toNat).getD (0xe766 + free)), free + 1))
    (#[], 0)).1

def chineseLong : Thunk (Array Nat) := .mk fun _ =>
  (missing 0x80 (0x10000 - 0x80) chineseCodes.get).filter fun n => !isHalf n

/-- Syllables that the Korean grid lacks, in the order of their codes. -/
def otherSyllables : Thunk (Array Char) := .mk fun _ =>
  (missing 0xac00 11172 (korean.chars.map Char.toNat)).map Char.ofNat

end Grid

end TriStore.Text
