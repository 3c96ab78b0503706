import TriStore.Failure

/-!
The two digests that identify content: SHA-1 for the name of a stored revision and SHA-256 for
comparing copies.
-/
namespace TriStore.Digest

def rotl (x : UInt32) (n : UInt32) : UInt32 := (x <<< n) ||| (x >>> (32 - n))

def rotr (x : UInt32) (n : UInt32) : UInt32 := (x >>> n) ||| (x <<< (32 - n))

def bigEndian (count n : Nat) : List UInt8 :=
  (List.range count).map fun i => (n / Nat.pow 256 (count - 1 - i)).toUInt8

def pad (bs : List UInt8) : List UInt8 :=
  let size := bs.length
  let zeros := (119 - size % 64) % 64
  bs ++ [0x80] ++ List.replicate zeros 0 ++ bigEndian 8 (size * 8)

def words : List UInt8 → List UInt32
  | a :: b :: c :: d :: rest =>
    ((a.toUInt32 <<< 24) ||| (b.toUInt32 <<< 16) ||| (c.toUInt32 <<< 8) ||| d.toUInt32) :: words rest
  | _ => []

def blocks : Nat → List UInt32 → List (List UInt32)
  | 0, _ => []
  | n + 1, ws => if ws.isEmpty then [] else ws.take 16 :: blocks n (ws.drop 16)

def hexOf (ws : List UInt32) : String :=
  ws.foldl (fun s w => s ++ Text.hex 8 w.toNat) ""

namespace Sha1

/-- `n` further words of the schedule; the list holds the words so far, newest first. -/
def extend : Nat → List UInt32 → List UInt32
  | 0, ws => ws.reverse
  | n + 1, ws =>
    extend n (rotl (ws.getD 2 0 ^^^ ws.getD 7 0 ^^^ ws.getD 13 0 ^^^ ws.getD 15 0) 1 :: ws)

structure State where
  a : UInt32
  b : UInt32
  c : UInt32
  d : UInt32
  e : UInt32

def start : State := ⟨0x67452301, 0xefcdab89, 0x98badcfe, 0x10325476, 0xc3d2e1f0⟩

def mix (t : Nat) (s : State) : UInt32 × UInt32 :=
  if t < 20 then ((s.b &&& s.c) ||| (~~~s.b &&& s.d), 0x5a827999)
  else if t < 40 then (s.b ^^^ s.c ^^^ s.d, 0x6ed9eba1)
  else if t < 60 then ((s.b &&& s.c) ||| (s.b &&& s.d) ||| (s.c &&& s.d), 0x8f1bbcdc)
  else (s.b ^^^ s.c ^^^ s.d, 0xca62c1d6)

def round (s : State) (tw : Nat × UInt32) : State :=
  let (f, k) := mix tw.1 s
  ⟨rotl s.a 5 + f + s.e + k + tw.2, s.a, rotl s.b 30, s.c, s.d⟩

def block (s : State) (ws : List UInt32) : State :=
  let r := ((List.range 80).zip (extend 64 ws.reverse)).foldl round s
  ⟨s.a + r.a, s.b + r.b, s.c + r.c, s.d + r.d, s.e + r.e⟩

end Sha1

def sha1 (bs : List UInt8) : String :=
  let ws := words (pad bs)
  let s := (blocks (ws.length + 1) ws).foldl Sha1.block Sha1.start
  hexOf [s.a, s.b, s.c, s.d, s.e]

namespace Sha256

def constants : List UInt32 := [
  0x428a2f98, 0x71374491, 0xb5c0fbcf, 0xe9b5dba5, 0x3956c25b, 0x59f111f1, 0x923f82a4, 0xab1c5ed5,
  0xd807aa98, 0x12835b01, 0x243185be, 0x550c7dc3, 0x72be5d74, 0x80deb1fe, 0x9bdc06a7, 0xc19bf174,
  0xe49b69c1, 0xefbe4786, 0x0fc19dc6, 0x240ca1cc, 0x2de92c6f, 0x4a7484aa, 0x5cb0a9dc, 0x76f988da,
  0x983e5152, 0xa831c66d, 0xb00327c8, 0xbf597fc7, 0xc6e00bf3, 0xd5a79147, 0x06ca6351, 0x14292967,
  0x27b70a85, 0x2e1b2138, 0x4d2c6dfc, 0x53380d13, 0x650a7354, 0x766a0abb, 0x81c2c92e, 0x92722c85,
  0xa2bfe8a1, 0xa81a664b, 0xc24b8b70, 0xc76c51a3, 0xd192e819, 0xd6990624, 0xf40e3585, 0x106aa070,
  0x19a4c116, 0x1e376c08, 0x2748774c, 0x34b0bcb5, 0x391c0cb3, 0x4ed8aa4a, 0x5b9cca4f, 0x682e6ff3,
  0x748f82ee, 0x78a5636f, 0x84c87814, 0x8cc70208, 0x90befffa, 0xa4506ceb, 0xbef9a3f7, 0xc67178f2]

def small0 (x : UInt32) : UInt32 := rotr x 7 ^^^ rotr x 18 ^^^ (x >>> 3)

def small1 (x : UInt32) : UInt32 := rotr x 17 ^^^ rotr x 19 ^^^ (x >>> 10)

def extend : Nat → List UInt32 → List UInt32
  | 0, ws => ws.reverse
  | n + 1, ws =>
    extend n ((small1 (ws.getD 1 0) + ws.getD 6 0 + small0 (ws.getD 14 0) + ws.getD 15 0) :: ws)

structure State where
  a : UInt32
  b : UInt32
  c : UInt32
  d : UInt32
  e : UInt32
  f : UInt32
  g : UInt32
  h : UInt32

def start : State :=
  ⟨0x6a09e667, 0xbb67ae85, 0x3c6ef372, 0xa54ff53a, 0x510e527f, 0x9b05688c, 0x1f83d9ab, 0x5be0cd19⟩

def round (s : State) (kw : UInt32 × UInt32) : State :=
  let big1 := rotr s.e 6 ^^^ rotr s.e 11 ^^^ rotr s.e 25
  let choice := (s.e &&& s.f) ^^^ (~~~s.e &&& s.g)
  let t1 := s.h + big1 + choice + kw.1 + kw.2
  let big0 := rotr s.a 2 ^^^ rotr s.a 13 ^^^ rotr s.a 22
  let majority := (s.a &&& s.b) ^^^ (s.a &&& s.c) ^^^ (s.b &&& s.c)
  ⟨t1 + big0 + majority, s.a, s.b, s.c, s.d + t1, s.e, s.f, s.g⟩

def block (s : State) (ws : List UInt32) : State :=
  let r := (constants.zip (extend 48 ws.reverse)).foldl round s
  ⟨s.a + r.a, s.b + r.b, s.c + r.c, s.d + r.d, s.e + r.e, s.f + r.f, s.g + r.g, s.h + r.h⟩

end Sha256

def sha256 (bs : List UInt8) : String :=
  let ws := words (pad bs)
  let s := (blocks (ws.length + 1) ws).foldl Sha256.block Sha256.start
  hexOf [s.a, s.b, s.c, s.d, s.e, s.f, s.g, s.h]

def bytesOf (content : String) : Except Failure ByteArray :=
  (Text.utf8? content).elim (.error .unencodable) .ok

def ofContent (content : String) : Except Failure String :=
  (bytesOf content).map fun bs => sha256 bs.toList

/-- The name of content as a stored object: the digest of its kind, its size and its bytes. -/
def blobOfBytes (bs : ByteArray) : String :=
  sha1 (("blob " ++ Text.ofNat bs.size).toUTF8.toList ++ [0] ++ bs.toList)

def blob (content : String) : Except Failure String := (bytesOf content).map blobOfBytes

end TriStore.Digest
