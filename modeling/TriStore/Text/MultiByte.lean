import TriStore.Text.Grid.Basic

/-!
East Asian encodings, in which ASCII has one byte a character and the other characters have two or
more.
-/
namespace TriStore.Text

inductive Edition where
  | first
  | second
  deriving DecidableEq, Repr, Inhabited

inductive MultiByte where
  | shiftJis
  | windowsJapanese
  | shiftJisLater (e : Edition)
  | eucJapanese
  | eucJapaneseLater (e : Edition)
  | gb2312
  | gbk
  | gb18030
  | big5
  | windowsTraditional
  | hongKong
  | eucKorean
  | windowsKorean
  | letteredKorean
  deriving DecidableEq, Repr, Inhabited

namespace MultiByte

inductive Front where
  | chars (cs : List Char) (size : Nat)
  | short
  | bad (size : Nat)

def Front.ofChars? (size : Nat) : Option (List Char) → Front
  | some cs => .chars cs size
  | none => .bad 1

def Front.char (c : Char) (size : Nat) : Front := .chars [c] size

def Front.ofChar? (size : Nat) (c : Option Char) : Front := .ofChars? size (c.map fun c => [c])

def between (lo hi b : UInt8) : Bool := lo ≤ b && b ≤ hi

def wideColumn? (last b : UInt8) : Option Nat :=
  if between 0x40 0x7e b then some (b.toNat - 0x40)
  else if between 0x80 last b then some (b.toNat - 0x41)
  else none

def halfWidth (b : UInt8) : Char := Char.ofNat (0xfec0 + b.toNat)

def shiftRow (b : UInt8) : Nat := if b < 0xe0 then b.toNat - 0x81 else b.toNat - 0xc1

def isShiftLead (b : UInt8) : Bool := between 0x81 0x9f b || between 0xe0 0xfc b

def shiftPair? (a b : UInt8) : Option Char :=
  (wideColumn? 0xfc b).bind fun column =>
    Grid.japanese.char? (2 * shiftRow a + column / 94) (column % 94)

def secondOnly : List (Nat × Nat) := [
  (13, 0), (14, 93), (46, 51), (46, 93), (83, 6), (93, 89), (93, 90), (93, 91), (93, 92), (93, 93)]

def isLeftFree (e : Edition) (row column : Nat) : Bool := e == .first && secondOnly.contains (row, column)

def later? (e : Edition) (row column : Nat) : Option (List Char) :=
  if isLeftFree e row column then none
  else (((Grid.japanese.char? row column).or (Grid.japaneseLater.char? row column)).map fun c => [c]).or
    ((Grid.japanesePairs.lookup (row, column)).map (·.toList))

/-- The character of the second grid; `row` counts the rows that it has. -/
def second? (e : Edition) (row column : Nat) : Option (List Char) :=
  if e == .first && row == 24 && column == 26 then some [Char.ofNat 0x9b1d]
  else (Grid.japaneseSecond.char? row column).map fun c => [c]

def laterFront (e : Edition) (row column : Nat) : Front :=
  if isLeftFree e row column then .bad 2 else .ofChars? 2 (later? e row column)

def shiftLater (e : Edition) (a b : UInt8) : Front :=
  match wideColumn? 0xfc b with
  | none => .bad 1
  | some column =>
    let row := 2 * shiftRow a + column / 94
    let column := column % 94
    if (row, column) == (0, 31) then .char '\\' 2
    else if (row, column) == (1, 17) then .char '~' 2
    else if row < 94 then laterFront e row column
    else .ofChars? 2 (second? e (row - 94) column)

def windowsVariants : List (UInt8 × Nat) :=
  [(0x60, 0xff5e), (0x61, 0x2225), (0x7c, 0xff0d), (0x91, 0xffe0), (0x92, 0xffe1), (0xca, 0xffe2)]

def additionLeads : List UInt8 := [0x87, 0xed, 0xee, 0xfa, 0xfb, 0xfc]

def windowsPair? (a b : UInt8) : Option Char :=
  (wideColumn? 0xfc b).bind fun column =>
    let variant := if a == 0x81 then (windowsVariants.lookup b).map Char.ofNat else none
    let addition :=
      if additionLeads.contains a then Grid.additions.char? (additionLeads.idxOf a) column else none
    let own := if between 0xf0 0xf9 a then some (Char.ofNat (0xe000 + 188 * (a.toNat - 0xf0) + column))
      else none
    ((variant.or addition).or own).or (shiftPair? a b)

def plain? (g : Grid) (a b : UInt8) : Option Char :=
  if 0xa1 ≤ a && 0xa1 ≤ b then g.char? (a.toNat - 0xa1) (b.toNat - 0xa1) else none

def gbkPair? (a b : UInt8) : Option Char :=
  if between 0x81 0xfe a then
    (wideColumn? 0xfe b).bind fun column => Grid.chinese? (a.toNat - 0x81) column
  else none

/-- The places of the plain Chinese encoding that its successor fills and it does not. -/
def isLaterChinese (row column : Nat) : Bool :=
  (row == 1 && column < 10) || (row == 5 && 63 ≤ column && column ≤ 84 && !([75, 76, 82].contains column)) ||
    (row == 7 && [26, 28, 29, 31].contains column)

def gb2312Pair? (a b : UInt8) : Option Char :=
  if 0xa1 ≤ a && 0xa1 ≤ b then
    let row := a.toNat - 0xa1
    let column := b.toNat - 0xa1
    if row == 0 && column == 3 then some (Char.ofNat 0x30fb)
    else if row == 0 && column == 9 then some (Char.ofNat 0x2015)
    else if isLaterChinese row column then none
    else gbkPair? a b
  else none

def gb18030Pair? (a b : UInt8) : Option Char :=
  if between 0x81 0xfe a then
    (wideColumn? 0xfe b).bind fun column =>
      (Grid.chineseCodes.get[190 * (a.toNat - 0x81) + column]?).map Char.ofNat
  else none

def gb18030Long? (a b c d : UInt8) : Option (List Char) :=
  if between 0x81 0xfe a && between 0x81 0xfe c && between 0x30 0x39 d then
    let lead := a.toNat - 0x81
    let rest := ((b.toNat - 0x30) * 126 + (c.toNat - 0x81)) * 10 + (d.toNat - 0x30)
    if lead < 4 then (Grid.chineseLong.get[12600 * lead + rest]?).map ofPoint
    else if 15 ≤ lead then
      let n := 0x10000 + 12600 * (lead - 15) + rest
      if n < 0x110000 then some (ofPoint n) else none
    else none
  else none

def big5Pair? (a b : UInt8) : Option Char :=
  if between 0xa1 0xf9 a then
    let row := a.toNat - 0xa1
    if between 0x40 0x7e b then Grid.traditional.char? row (b.toNat - 0x40)
    else if between 0xa1 0xfe b then Grid.traditional.char? row (b.toNat - 0x62)
    else none
  else none

def traditionalVariants : List ((UInt8 × UInt8) × Nat) := [
  ((0xa1, 0x45), 0x2027), ((0xa1, 0x4e), 0xfe51), ((0xa1, 0xc2), 0xaf), ((0xa1, 0xe3), 0xff5e),
  ((0xa1, 0xf2), 0x2295), ((0xa1, 0xf3), 0x2299), ((0xa2, 0x41), 0x2215), ((0xa2, 0x42), 0xfe68),
  ((0xa2, 0x44), 0xffe5), ((0xa2, 0x46), 0xffe0), ((0xa2, 0x47), 0xffe1), ((0xa3, 0xe1), 0x20ac)]

def traditionalMore : String := "碁銹裏墻恒粧嫺╔╦╗╠╬╣╚╩╝╒╤╕╞╪╡╘╧╛╓╥╖╟╫╢╙╨╜║═╭╮╰╯▓"

def windowsTraditionalPair? (a b : UInt8) : Option Char :=
  let variant := (traditionalVariants.lookup (a, b)).map Char.ofNat
  let more := if a == 0xf9 && 0xd6 ≤ b then traditionalMore.toList[b.toNat - 0xd6]? else none
  (variant.or more).or (big5Pair? a b)

def hongKongPair? (a b : UInt8) : Option (List Char) :=
  let replaced := a == 0xc7 || a == 0xc8 || (a == 0xc6 && 0xa1 ≤ b)
  let column? := if between 0x40 0x7e b then some (b.toNat - 0x40)
    else if between 0xa1 0xfe b then some (b.toNat - 0x62) else none
  let own := column?.bind fun column => (Grid.hongKongLeads.idxOf? a).bind fun row =>
    Grid.hongKong.char? row column
  let char := (if replaced then none else big5Pair? a b).or own
  (char.map fun c => [c]).or ((Grid.hongKongPairs.lookup (a, b)).map (·.toList))

def letterColumn? (b : UInt8) : Option Nat :=
  if between 0x41 0x5a b then some (b.toNat - 0x41)
  else if between 0x61 0x7a b then some (b.toNat - 0x61 + 26)
  else if between 0x81 0xfe b then some (b.toNat - 0x81 + 52)
  else none

/-- How many second bytes may follow a first byte before the place of the grid. -/
def syllableNumber? (a b : UInt8) : Option Nat :=
  (letterColumn? b).bind fun column =>
    if between 0x81 0xa0 a then some (178 * (a.toNat - 0x81) + column)
    else if between 0xa1 0xc6 a && b < 0xa1 then some (178 * 32 + 84 * (a.toNat - 0xa1) + column)
    else none

def windowsKoreanPair? (a b : UInt8) : Option Char :=
  (plain? Grid.korean a b).or ((syllableNumber? a b).bind fun n => Grid.otherSyllables.get[n]?)

def initials : List Nat := [0, 1, 3, 6, 7, 8, 16, 17, 18, 20, 21, 22, 23, 24, 25, 26, 27, 28, 29]

def noFinals : List Nat := [7, 18, 24]

/-- A syllable of three letters, each after the byte 0xa4; a filler stands for no last letter. -/
def composed? (first second third : UInt8) : Option Char :=
  let letter := first.toNat - 0xa1
  let last := third.toNat - 0xa1
  if !(between 0xa1 0xbe first && initials.contains letter && between 0xbf 0xd3 second) then none
  else
    let start := 0xac00 + 588 * initials.idxOf letter + 28 * (second.toNat - 0xbf)
    if third == 0xd4 then some (Char.ofNat start)
    else if between 0xa1 0xbe third && !noFinals.contains last then
      some (Char.ofNat (start + last + 1 - (noFinals.filter (· < last)).length))
    else none

def firstLetters : List (Option Nat) := [
  none, some 0x3131, some 0x3132, some 0x3134, some 0x3137, some 0x3138, some 0x3139, some 0x3141,
  some 0x3142, some 0x3143, some 0x3145, some 0x3146, some 0x3147, some 0x3148, some 0x3149,
  some 0x314a, some 0x314b, some 0x314c, some 0x314d, some 0x314e]

def vowels : List (Option Nat) := none :: (List.range 21).map fun n => some (0x314f + n)

def lastLetters : List (Option Nat) := [
  none, some 0x3131, some 0x3132, some 0x3133, some 0x3134, some 0x3135, some 0x3136, some 0x3137,
  some 0x3139, some 0x313a, some 0x313b, some 0x313c, some 0x313d, some 0x313e, some 0x313f,
  some 0x3140, some 0x3141, some 0x3142, some 0x3144, some 0x3145, some 0x3146, some 0x3147,
  some 0x3148, some 0x314a, some 0x314b, some 0x314c, some 0x314d, some 0x314e]

def firstBits : List Nat := (List.range 20).map (· + 1)

def vowelBits : List Nat := (List.range 6).map (· + 2) ++ (List.range 6).map (· + 10) ++
  (List.range 6).map (· + 18) ++ (List.range 4).map (· + 26)

def lastBits : List Nat := (List.range 17).map (· + 1) ++ (List.range 11).map (· + 19)

def lettered? (first vowel last : Nat) : Option Char :=
  match firstBits.idxOf? first, vowelBits.idxOf? vowel, lastBits.idxOf? last with
  | some 0, some 0, some 0 => some (Char.ofNat 0x3000)
  | some 0, some 0, some l => (lastLetters.getD l none).map Char.ofNat
  | some 0, some v, some 0 => (vowels.getD v none).map Char.ofNat
  | some f, some 0, some 0 => (firstLetters.getD f none).map Char.ofNat
  | some (f + 1), some (v + 1), some l => some (Char.ofNat (0xac00 + 588 * f + 28 * v + l))
  | _, _, _ => none

/-- Below 212 a pair spells a syllable; from there on it is a place of the grid, but not of a letter in it. -/
def letteredPair? (a b : UInt8) : Option Char :=
  let n := a.toNat * 256 + b.toNat
  if a < 0xd4 then lettered? (n / 1024 % 32) (n / 32 % 32) (n % 32)
  else if a < 0xd9 || a == 0xdf || 0xf9 < a || b < 0x31 || between 0x7f 0x90 b || b == 0xff ||
      (a == 0xda && between 0xa1 0xd3 b) then none
  else
    let row := if a < 0xe0 then 2 * (a.toNat - 0xd9) else 2 * a.toNat - 0x197
    let column := if b < 0x91 then b.toNat - 0x31 else b.toNat - 0x43
    Grid.korean.char? (row + column / 94) (column % 94)

def pairOf (f : UInt8 → UInt8 → Option Char) (a : UInt8) : List UInt8 → Front
  | b :: _ => .ofChar? 2 (f a b)
  | [] => .short

def eucKorean? (a : UInt8) (rest : List UInt8) : Front :=
  if a == 0xa4 && rest.head? == some 0xd4 then
    match rest.drop 1 with
    | x :: first :: y :: second :: z :: third :: _ =>
      if x == 0xa4 && y == 0xa4 && z == 0xa4 then .ofChar? 8 (composed? first second third) else .bad 1
    | _ => .short
  else pairOf (plain? Grid.korean) a rest

def eucJapanese? (a : UInt8) (rest : List UInt8) : Front :=
  if a == 0x8e then
    pairOf (fun _ b => if between 0xa1 0xdf b then some (halfWidth b) else none) a rest
  else if a == 0x8f then
    match rest with
    | b :: c :: _ => .ofChar? 3 (plain? Grid.supplement b c)
    | _ => .short
  else pairOf (plain? Grid.japanese) a rest

def charsOf (f : UInt8 → UInt8 → Option (List Char)) (a : UInt8) : List UInt8 → Front
  | b :: _ => .ofChars? 2 (f a b)
  | [] => .short

def eucLater? (e : Edition) (a : UInt8) (rest : List UInt8) : Front :=
  if a == 0x8e then eucJapanese? a rest
  else if a == 0x8f then
    match rest with
    | b :: c :: _ =>
      let second := if 0xa1 ≤ b && 0xa1 ≤ c then
        (Grid.secondRows.idxOf? (b.toNat - 0xa1)).bind fun i => second? e i (c.toNat - 0xa1) else none
      .ofChars? 3 (second.or ((plain? Grid.supplement b c).map fun c => [c]))
    | _ => .short
  else match rest with
    | b :: _ => if 0xa1 ≤ a && 0xa1 ≤ b then laterFront e (a.toNat - 0xa1) (b.toNat - 0xa1) else .bad 1
    | [] => .short

def gb18030? (a : UInt8) (rest : List UInt8) : Front :=
  match rest with
  | b :: more =>
    if between 0x30 0x39 b then
      match more with
      | c :: d :: _ => .ofChars? 4 (gb18030Long? a b c d)
      | _ => .short
    else .ofChar? 2 (gb18030Pair? a b)
  | [] => .short

def windowsJapanese? (a : UInt8) (rest : List UInt8) : Front :=
  if a == 0x80 then .char (Char.ofNat 0x80) 1
  else if a == 0xa0 then .char (Char.ofNat 0xf8f0) 1
  else if between 0xa1 0xdf a then .char (halfWidth a) 1
  else if 0xfd ≤ a then .char (Char.ofNat (0xf8f1 + (a.toNat - 0xfd))) 1
  else pairOf windowsPair? a rest

def shiftJis? (a : UInt8) (rest : List UInt8) : Front :=
  if between 0xa1 0xdf a then .char (halfWidth a) 1
  else if isShiftLead a then pairOf shiftPair? a rest
  else .bad 1

def shiftJisLater? (e : Edition) (a : UInt8) (rest : List UInt8) : Front :=
  if between 0xa1 0xdf a then .char (halfWidth a) 1
  else if isShiftLead a then
    match rest with
    | b :: _ => shiftLater e a b
    | [] => .short
  else .bad 1

def roman (a : UInt8) : Char :=
  if a == 0x5c then Char.ofNat 0xa5 else if a == 0x7e then Char.ofNat 0x203e else Char.ofNat a.toNat

def basic (e : MultiByte) (a : UInt8) : Char :=
  match e with
  | .shiftJisLater _ => roman a
  | _ => Char.ofNat a.toNat

def front (e : MultiByte) (a : UInt8) (rest : List UInt8) : Front :=
  if a < 0x80 then .char (e.basic a) 1
  else match e with
    | .shiftJisLater edition => shiftJisLater? edition a rest
    | .eucJapaneseLater edition => eucLater? edition a rest
    | .hongKong => charsOf hongKongPair? a rest
    | .letteredKorean => pairOf letteredPair? a rest
    | .shiftJis => shiftJis? a rest
    | .windowsJapanese => windowsJapanese? a rest
    | .eucJapanese => eucJapanese? a rest
    | .gb2312 => pairOf gb2312Pair? a rest
    | .gbk => pairOf gbkPair? a rest
    | .gb18030 => gb18030? a rest
    | .big5 => pairOf big5Pair? a rest
    | .windowsTraditional => pairOf windowsTraditionalPair? a rest
    | .eucKorean => eucKorean? a rest
    | .windowsKorean => pairOf windowsKoreanPair? a rest

def decode (e : MultiByte) : Nat → List UInt8 → List Char
  | 0, _ => []
  | _ + 1, [] => []
  | fuel + 1, a :: rest =>
    match e.front a rest with
    | .chars cs size => cs ++ decode e fuel (rest.drop (size - 1))
    | .short => [mark]
    | .bad size => mark :: decode e fuel (rest.drop (size - 1))

end MultiByte

end TriStore.Text
