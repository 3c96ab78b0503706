import TriStore.Json.Reader
import TriStore.Value.Text

/-!
Writing JSON documents: without blanks and with non-ASCII characters as they are, or in lines and
with all of them escaped.
-/
namespace TriStore.Json

def escape (c : Char) : List Char :=
  if c == '"' then ['\\', '"']
  else if c == '\\' then ['\\', '\\']
  else if c == '\n' then ['\\', 'n']
  else if c == '\r' then ['\\', 'r']
  else if c == '\t' then ['\\', 't']
  else if c.toNat == 8 then ['\\', 'b']
  else if c.toNat == 12 then ['\\', 'f']
  else if c.toNat < 0x20 then ['\\', 'u'] ++ (Text.hex 4 c.toNat).toList
  else [c]

def quote (s : String) : String := String.ofList (['"'] ++ s.toList.flatMap escape ++ ['"'])

def units (n : Nat) : List Nat :=
  if n < 0x10000 then [n] else [0xd800 + (n - 0x10000) / 0x400, 0xdc00 + (n - 0x10000) % 0x400]

def escapeAscii (n : Nat) : List Char :=
  if n < 0x7f then escape (Char.ofNat n)
  else (units n).flatMap fun u => ['\\', 'u'] ++ (Text.hex 4 u).toList

def quoteAscii (s : String) : String := String.ofList (['"'] ++ (Text.points s.toList).flatMap escapeAscii ++ ['"'])

def inLines (fields : List (String × String)) : String :=
  "\x7b\n" ++ Text.join ",\n" (fields.map fun (k, v) => "  " ++ quoteAscii k ++ ": " ++ v) ++ "\n\x7d"

/-- A number with a fraction; JSON readers take words for the numbers that have no digits. -/
def floatText : Binary64 → String
  | .nan => "NaN"
  | .infinite negative => if negative then "-Infinity" else "Infinity"
  | x => x.toText

mutual

def compactBy (q : String → String) : Value → String
  | .null => "null"
  | .bool b => if b then "true" else "false"
  | .int n => Text.ofInt n
  | .float x => floatText x
  | .text s => q s
  | .list vs | .tuple vs | .set vs => "[" ++ Text.join "," (compacts q vs) ++ "]"
  | .map kvs => "\x7b" ++ Text.join "," (compactPairs q kvs) ++ "\x7d"
  | .bytes _ | .date _ | .moment _ | .source _ | .again _ | .other _ _ _ => "null"

def compacts (q : String → String) : List Value → List String
  | [] => []
  | v :: vs => compactBy q v :: compacts q vs

def compactPairs (q : String → String) : List (Value × Value) → List String
  | [] => []
  | (k, v) :: kvs => (q k.display ++ ":" ++ compactBy q v) :: compactPairs q kvs

end

def compact (v : Value) : String := compactBy quote v

def compactAscii (v : Value) : String := compactBy quoteAscii v

end TriStore.Json
