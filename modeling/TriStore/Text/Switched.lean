import TriStore.Failure
import TriStore.Text.MultiByte

/-!
Encodings of seven bits, in which escape sequences choose the set that the next characters are from.
-/
namespace TriStore.Text

inductive CharacterSet where
  | ascii
  | roman
  | kana
  | japanese
  | olderJapanese
  | supplement
  | later (e : Edition)
  | laterSecond
  | korean
  | chinese
  | latin
  | greek
  deriving DecidableEq, Repr, Inhabited

namespace CharacterSet

def width : CharacterSet → Nat
  | .japanese | .olderJapanese | .supplement | .later _ | .laterSecond | .korean | .chinese => 2
  | _ => 1

/-- The set that a designation names: its last byte, and whether it has two bytes a character. -/
def ofDesignation? : Bool → UInt8 → Option CharacterSet
  | false, 0x42 => some .ascii
  | false, 0x4a => some .roman
  | false, 0x49 => some .kana
  | false, 0x41 => some .latin
  | false, 0x46 => some .greek
  | true, 0x42 => some .japanese
  | true, 0x40 => some .olderJapanese
  | true, 0x44 => some .supplement
  | true, 0x4f => some (.later .first)
  | true, 0x51 => some (.later .second)
  | true, 0x50 => some .laterSecond
  | true, 0x43 => some .korean
  | true, 0x41 => some .chinese
  | _, _ => none

def later? (e : Edition) (row column : Nat) : Option (List Char) :=
  if (row, column) == (1, 17) then some ['~'] else MultiByte.later? e row column

def chars? (s : CharacterSet) (a b : UInt8) : Option (List Char) :=
  let one (c : Option Char) : Option (List Char) := c.map fun c => [c]
  let pair (f : UInt8 → UInt8 → Option Char) : Option (List Char) :=
    if b < 0x80 then one (f (a + 0x80) (b + 0x80)) else none
  let place (f : Nat → Nat → Option (List Char)) : Option (List Char) :=
    if 0x21 ≤ a && 0x21 ≤ b && b < 0x80 then f (a.toNat - 0x21) (b.toNat - 0x21) else none
  match s with
  | .ascii => some [Char.ofNat a.toNat]
  | .roman => some [MultiByte.roman a]
  | .kana => one (if MultiByte.between 0x21 0x5f a then some (MultiByte.halfWidth (a + 0x80)) else none)
  | .japanese | .olderJapanese => pair (MultiByte.plain? Grid.japanese)
  | .supplement => pair (MultiByte.plain? Grid.supplement)
  | .later e => place (later? e)
  | .laterSecond => place fun row column =>
    (Grid.secondRows.idxOf? row).bind fun i => MultiByte.second? .second i column
  | .korean => pair (MultiByte.plain? Grid.korean)
  | .chinese => pair MultiByte.gb2312Pair?
  | .latin | .greek => none

def sharedGreek : List Nat := [
  0xa0, 0xa3, 0xa6, 0xa7, 0xa8, 0xa9, 0xab, 0xac, 0xad, 0xb0, 0xb1, 0xb2, 0xb3, 0xb7, 0xbb, 0xbd]

def noLetter : List Nat := [0xb7, 0xbb, 0xbd, 0xd2, 0xff]

def greek? (n : Nat) : Option Char :=
  if n < 0xa0 || sharedGreek.contains n then some (Char.ofNat n)
  else if n == 0xa1 then some (Char.ofNat 0x2018)
  else if n == 0xa2 then some (Char.ofNat 0x2019)
  else if n == 0xaf then some (Char.ofNat 0x2015)
  else if 0xb4 ≤ n && !noLetter.contains n then some (Char.ofNat (n + 0x2d0))
  else none

def shifted? (s : CharacterSet) (b : UInt8) : Option Char :=
  match s with
  | .greek => greek? (if b < 0x80 then b.toNat + 0x80 else b.toNat - 0x80)
  | _ =>
    if 0x80 ≤ b then none
    else some (Char.ofNat (if s == .latin then b.toNat + 0x80 else b.toNat))

end CharacterSet

structure Switched where
  sets : List CharacterSet
  shifts : Bool := false
  singleShifts : Bool := false
  announces : Bool := true
  deriving DecidableEq, Repr, Inhabited

namespace Switched

structure State where
  first : CharacterSet := .ascii
  second : CharacterSet := .ascii
  third : CharacterSet := .ascii
  shifted : Bool := false
  foreign : Bool := false
  deriving DecidableEq, Repr, Inhabited

inductive Step where
  | go (out : List Char) (size : Nat) (s : State)
  | short
  | bad (size : Nat)

def escape : UInt8 := 0x1b

def endsSequence (b : UInt8) : Bool := MultiByte.between 0x40 0x5a b

/-- The length of the sequence at the front: none when it is cut, zero when it is too long. -/
def sequenceLength (announces : Bool) (bs : List UInt8) : Nat → Nat → Option Nat
  | 0, _ => some 0
  | fuel + 1, i =>
    if 16 ≤ i then some 0
    else match bs[i]? with
      | none => none
      | some b =>
        if endsSequence b then some (i + 1)
        else if announces && b == 0x26 && bs[i + 1]? == some 0x40 then
          sequenceLength announces bs fuel (i + 3)
        else sequenceLength announces bs fuel (i + 1)

def State.designate? (s : State) (singleShifts : Bool) (place : UInt8) (set : CharacterSet) : Option State :=
  if place == 0x28 then some { s with first := set }
  else if place == 0x29 then some { s with second := set }
  else if place == 0x2e && singleShifts then some { s with third := set }
  else none

def designation (e : Switched) (s : State) (bs : List UInt8) : Step :=
  match sequenceLength e.announces bs 16 1 with
  | none => .short
  | some 0 => .bad 1
  | some n =>
    let choose (double : Bool) (last place : UInt8) : Step :=
      match CharacterSet.ofDesignation? double last with
      | none => .bad n
      | some set =>
        if set == .ascii || e.sets.contains set then
          match s.designate? (e.singleShifts && !double) place set with
          | some s => .go [] n s
          | none => .bad n
        else .bad n
    match n, bs.drop 1 with
    | 3, 0x24 :: last :: _ => choose true last 0x28
    | 3, place :: last :: _ => choose false last place
    | 4, 0x24 :: place :: last :: _ => choose true last place
    | 6, _ :: _ :: a :: b :: c :: _ =>
      if e.announces && a == escape && b == 0x24 && c == 0x42 then choose true 0x42 0x28 else .bad n
    | _, _ => .bad n

def step (e : Switched) (s : State) (a : UInt8) (rest : List UInt8) : Step :=
  let itself : Step := .go [Char.ofNat a.toNat] 1 s
  if s.foreign then .go [Char.ofNat a.toNat] 1 { s with foreign := !endsSequence a }
  else if a == escape then
    match rest with
    | [] => .short
    | b :: more =>
      if [0x28, 0x29, 0x24, 0x2e, 0x26].contains b then e.designation s (a :: rest)
      else if e.singleShifts && b == 0x4e then
        match more with
        | [] => .short
        | c :: _ =>
          match s.third.shifted? c with
          | some ch => .go [ch] 3 s
          | none => .bad 3
      else .go [Char.ofNat a.toNat] 1 { s with foreign := true }
  else if a == 0x0f then if e.shifts then .go [] 1 { s with shifted := false } else itself
  else if a == 0x0e then if e.shifts then .go [] 1 { s with shifted := true } else itself
  else if a == 0x0a then .go ['\n'] 1 { s with shifted := false }
  else if a < 0x20 then itself
  else if 0x80 ≤ a then .bad 1
  else
    let set := if s.shifted then s.second else s.first
    if set.width == 2 && rest.isEmpty then .short
    else match set.chars? a (rest.headD 0) with
      | some cs => .go cs set.width s
      | none => .bad set.width

def maxWaiting : Nat := 8

def decode (e : Switched) : Nat → State → List UInt8 → Except Failure (List Char)
  | 0, _, _ => .ok []
  | _ + 1, _, [] => .ok []
  | fuel + 1, s, a :: rest =>
    match e.step s a rest with
    | .go out size s => (decode e fuel s (rest.drop (size - 1))).map (out ++ ·)
    | .bad size => (decode e fuel s (rest.drop (size - 1))).map (mark :: ·)
    | .short => if maxWaiting < rest.length + 1 then .error .unreadable else .ok [mark]

def japanese : Switched := { sets := [.japanese, .roman, .olderJapanese] }

def japaneseOne : Switched := { sets := [.japanese, .supplement, .roman, .olderJapanese] }

def japaneseTwo : Switched :=
  { sets := [.japanese, .supplement, .korean, .chinese, .roman, .olderJapanese, .latin, .greek]
    singleShifts := true }

def japaneseMore : Switched := { sets := [.japanese, .supplement, .roman, .kana, .olderJapanese] }

def japaneseLater (e : Edition) : Switched := { sets := [.japanese, .later e, .laterSecond] }

def korean : Switched := { sets := [.korean], shifts := true, announces := false }

end Switched

def tildeChinese (inPairs : Bool) : Nat → List UInt8 → List Char
  | 0, _ => []
  | _ + 1, [] => []
  | fuel + 1, a :: rest =>
    if a == 0x7e then
      match rest with
      | [] => [mark]
      | b :: more =>
        if b == 0x7e && !inPairs then '~' :: tildeChinese inPairs fuel more
        else if b == 0x7b && !inPairs then tildeChinese true fuel more
        else if b == 0x0a && !inPairs then tildeChinese inPairs fuel more
        else if b == 0x7d && inPairs then tildeChinese false fuel more
        else mark :: tildeChinese inPairs fuel rest
    else if 0x80 ≤ a then mark :: tildeChinese inPairs fuel rest
    else if !inPairs then Char.ofNat a.toNat :: tildeChinese inPairs fuel rest
    else match rest with
      | [] => [mark]
      | b :: more =>
        match CharacterSet.chinese.chars? a b with
        | some cs => cs ++ tildeChinese inPairs fuel more
        | none => mark :: tildeChinese inPairs fuel rest

end TriStore.Text
