import TriStore.Text.Basic
import TriStore.Text.Points

/-!
Encodings of Unicode: bytes as UTF-8, and units of two or four bytes, with a known byte order or a mark
that tells it.
-/
namespace TriStore.Text

namespace Utf8

inductive Front where
  | point (n : Nat) (size : Nat)
  | fault (f : DecodingFault) (size : Nat)

def isTail (b : UInt8) : Bool := 0x80 ≤ b && b < 0xc0

def sizeFrom (b : UInt8) : Nat :=
  if b < 0x80 then 1 else if b < 0xc2 then 0 else if b < 0xe0 then 2 else if b < 0xf0 then 3
  else if b < 0xf5 then 4 else 0

def mayFollow (b c : UInt8) : Bool :=
  isTail c && !(b == 0xe0 && c < 0xa0) && !(b == 0xed && 0xa0 ≤ c) && !(b == 0xf0 && c < 0x90) &&
    !(b == 0xf4 && 0x90 ≤ c)

def codePoint (size : Nat) (b : UInt8) (tail : List UInt8) : Nat :=
  let top := if size == 1 then b.toNat else if size == 2 then b.toNat - 0xc0
    else if size == 3 then b.toNat - 0xe0 else b.toNat - 0xf0
  tail.foldl (fun n c => n * 64 + (c.toNat - 0x80)) top

def front (b : UInt8) (rest : List UInt8) : Front :=
  let size := sizeFrom b
  if size == 0 then .fault .start 1
  else
    let want := size - 1
    let good := match rest with
      | [] => []
      | c :: more => if mayFollow b c then c :: (more.take want).takeWhile isTail else []
    let tail := good.take want
    if tail.length == want then .point (codePoint size b tail) size
    else if (rest.drop tail.length).isEmpty then .fault .unfinished (tail.length + 1)
    else .fault .continuation (tail.length + 1)

def frontOrHalf (b : UInt8) (rest : List UInt8) : Front :=
  match rest with
  | c :: d :: _ =>
    if b == 0xed && 0xa0 ≤ c && isTail c && isTail d then .point (codePoint 3 b [c, d]) 3
    else front b rest
  | _ => front b rest

def read (front : UInt8 → List UInt8 → Front) : Nat → List Nat → Nat → List UInt8 → Except Undecodable (List Nat)
  | 0, acc, _, _ => .ok acc.reverse
  | _ + 1, acc, _, [] => .ok acc.reverse
  | fuel + 1, acc, pos, b :: rest =>
    match front b rest with
    | .point n size => read front fuel (n :: acc) (pos + size) (rest.drop (size - 1))
    | .fault fault size => .error { fault, pos, size, first := b }

def lossy : Nat → List UInt8 → List Nat
  | 0, _ => []
  | _ + 1, [] => []
  | fuel + 1, b :: rest =>
    match front b rest with
    | .point n size => n :: lossy fuel (rest.drop (size - 1))
    | .fault _ size => mark.toNat :: lossy fuel (rest.drop (size - 1))

def decode (bs : ByteArray) : Except Undecodable String :=
  match String.fromUTF8? bs with
  | some s => .ok (kept s)
  | none => (read front bs.size [] 0 bs.toList).map ofCodes

def decodeHalves (bs : ByteArray) : Except Undecodable String :=
  match String.fromUTF8? bs with
  | some s => .ok (kept s)
  | none => (read frontOrHalf bs.size [] 0 bs.toList).map ofCodes

def decodeLossy (bs : ByteArray) : String :=
  match String.fromUTF8? bs with
  | some s => kept s
  | none => ofCodes (lossy bs.size bs.toList)

end Utf8

inductive ByteOrder where
  | big
  | little
  deriving DecidableEq, Repr, Inhabited

def ByteOrder.number (o : ByteOrder) (bs : List UInt8) : Nat :=
  let fromTop := match o with
    | .big => bs
    | .little => bs.reverse
  fromTop.foldl (fun n b => n * 256 + b.toNat) 0

def ByteOrder.suffix : ByteOrder → String
  | .big => "-be"
  | .little => "-le"

inductive UnitSize where
  | two
  | four
  deriving DecidableEq, Repr, Inhabited

def UnitSize.bytes : UnitSize → Nat
  | .two => 2
  | .four => 4

def UnitSize.name : UnitSize → String
  | .two => "utf-16"
  | .four => "utf-32"

namespace Wide

def orderMark : UnitSize → ByteOrder → List UInt8
  | .two, .big => [0xfe, 0xff]
  | .two, .little => [0xff, 0xfe]
  | .four, .big => [0, 0, 0xfe, 0xff]
  | .four, .little => [0xff, 0xfe, 0, 0]

def orderIn? (size : UnitSize) (bs : List UInt8) : Option ByteOrder :=
  [.big, .little].find? fun o => (orderMark size o).isPrefixOf bs

inductive Front where
  | point (n : Nat) (bytes : Nat)
  | half (n : Nat)
  | fault (f : DecodingFault) (bytes : Nat)

def front (size : UnitSize) (o : ByteOrder) (bs : List UInt8) : Front :=
  let unit := bs.take size.bytes
  let n := o.number unit
  if unit.length < size.bytes then .fault .cut unit.length
  else if isHalf n then
    let next := (bs.drop size.bytes).take size.bytes
    let m := o.number next
    if size == .two && next.length == 2 && isHighHalf n && isLowHalf m then
      .point (joinHalves n m) 4
    else .half n
  else if 0x110000 ≤ n then .fault .beyond size.bytes
  else .point n size.bytes

def read (size : UnitSize) (o : ByteOrder) : Nat → List Nat → Nat → List UInt8 → Except Undecodable (List Nat)
  | 0, acc, _, _ => .ok acc.reverse
  | _ + 1, acc, _, [] => .ok acc.reverse
  | fuel + 1, acc, pos, b :: rest =>
    match front size o (b :: rest) with
    | .point p n => read size o fuel (p :: acc) (pos + n) (rest.drop (n - 1))
    | .half h => read size o fuel (h :: acc) (pos + size.bytes) (rest.drop (size.bytes - 1))
    | .fault fault n =>
      .error { encoding := size.name ++ o.suffix, fault, pos, size := n, first := b }

def decodeHalves (size : UnitSize) (o : ByteOrder) (start : Nat) (bs : List UInt8) : Except Undecodable String :=
  (read size o bs.length [] start (bs.drop start)).map ofCodes

/-- The code points of the bytes with marks for the faults. -/
def lossy (size : UnitSize) (o : ByteOrder) : Nat → List UInt8 → List Nat
  | 0, _ => []
  | _ + 1, [] => []
  | fuel + 1, b :: rest =>
    match front size o (b :: rest) with
    | .point p n => p :: lossy size o fuel (rest.drop (n - 1))
    | .half h =>
      let rest := rest.drop (size.bytes - 1)
      if size == .two && isHighHalf h && rest.length < 2 then [mark.toNat]
      else mark.toNat :: lossy size o fuel rest
    | .fault _ n => mark.toNat :: lossy size o fuel (rest.drop (n - 1))

end Wide

end TriStore.Text
