import TriStore.Text.Points
import TriStore.Text.Table

/-!
Quoted text for messages: between single quotes, or double ones if it holds a single one and no double
one. What cannot be printed is written as an escape.
-/
namespace TriStore.Text

def isPrintable (c : Char) : Bool :=
  if c.toNat < 0x7f then 0x20 ≤ c.toNat else inBands Table.printable.bands c.toNat

def quoteFor (hasSingle hasDouble : Bool) : Char := if hasSingle && !hasDouble then '"' else '\''

def escaped (quote : Char) (n : Nat) : String :=
  let c := Char.ofNat n
  if isHalf n then "\\u" ++ hex 4 n
  else if c == quote || c == '\\' then String.ofList ['\\', c]
  else if c == '\t' then "\\t"
  else if c == '\n' then "\\n"
  else if c == '\r' then "\\r"
  else if isPrintable c then String.ofList [c]
  else if n ≤ 0xff then "\\x" ++ hex 2 n
  else if n ≤ 0xffff then "\\u" ++ hex 4 n
  else "\\U" ++ hex 8 n

def quoted (s : String) : String :=
  let cs := s.toList
  let q := quoteFor (cs.contains '\'') (cs.contains '"')
  String.ofList ([q] ++ (points cs).flatMap (fun n => (escaped q n).toList) ++ [q])

def escapedByte (quote : Char) (b : UInt8) : String :=
  let c := Char.ofNat b.toNat
  if c == quote || c == '\\' then String.ofList ['\\', c]
  else if c == '\t' then "\\t"
  else if c == '\n' then "\\n"
  else if c == '\r' then "\\r"
  else if 32 ≤ b.toNat && b.toNat < 127 then String.ofList [c]
  else "\\x" ++ hex 2 b.toNat

def quotedBytes (bs : List UInt8) : String :=
  let q := quoteFor (bs.contains 39) (bs.contains 34)
  String.ofList (['b', q] ++ bs.flatMap (fun b => (escapedByte q b).toList) ++ [q])

end TriStore.Text
