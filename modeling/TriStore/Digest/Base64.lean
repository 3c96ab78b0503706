import TriStore.Text.Points

/-!
Bytes written with sixty-four characters, four for every three bytes.
-/
namespace TriStore.Base64

def alphabet : List Char :=
  "ABCDEFGHIJKLMNOPQRSTUVWXYZabcdefghijklmnopqrstuvwxyz0123456789+/".toList

def digit (n : Nat) : Char := alphabet.getD n '='

def encodeBytes : List UInt8 → List Char
  | [] => []
  | [a] =>
    let n := a.toNat * 16
    [digit (n / 64), digit (n % 64), '=', '=']
  | [a, b] =>
    let n := (a.toNat * 256 + b.toNat) * 4
    [digit (n / 4096), digit (n / 64 % 64), digit (n % 64), '=']
  | a :: b :: c :: rest =>
    let n := (a.toNat * 256 + b.toNat) * 256 + c.toNat
    digit (n / 262144) :: digit (n / 4096 % 64) :: digit (n / 64 % 64) :: digit (n % 64) ::
      encodeBytes rest

def encode (s : String) : String := String.ofList (encodeBytes (Text.utf8 s).toList)

def decodeFrom (held count pads : Nat) : List Char → Option (List UInt8)
  | [] => if count == 0 then some [] else none
  | c :: cs =>
    if c == '=' then
      if count ≥ 2 then
        if count + pads + 1 ≥ 4 then some [] else decodeFrom held count (pads + 1) cs
      else decodeFrom held count pads cs
    else match alphabet.idxOf? c with
      | none => decodeFrom held count pads cs
      | some v =>
        if count == 0 then decodeFrom v 1 0 cs
        else if count == 1 then
          (decodeFrom (v % 16) 2 0 cs).map ((held * 4 + v / 16).toUInt8 :: ·)
        else if count == 2 then
          (decodeFrom (v % 4) 3 0 cs).map ((held * 16 + v / 4).toUInt8 :: ·)
        else (decodeFrom 0 0 0 cs).map ((held * 64 + v).toUInt8 :: ·)

def decode? (cs : List Char) : Option (List UInt8) := decodeFrom 0 0 0 cs

end TriStore.Base64
