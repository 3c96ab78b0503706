import TriStore.Text.Charset
import TriStore.Web.Url

/-!
Parameters in the values of headers.
-/
namespace TriStore.Parameter

def partsFrom (inQuotes escaped : Bool) (acc : List Char) : List Char → List (List Char)
  | [] => [acc.reverse]
  | c :: cs =>
    if c == ';' && !inQuotes then acc.reverse :: partsFrom false false [] cs
    else
      let turns := c == '"' && !escaped
      partsFrom (if turns then !inQuotes else inQuotes) (c == '\\') (c :: acc) cs

def parts (value : String) : List (List Char) := partsFrom false false [] value.toList

def unescape (c : Char) : List Char → List Char
  | x :: y :: rest => if x == '\\' && y == c then c :: unescape c rest else x :: unescape c (y :: rest)
  | cs => cs

def unquoted (cs : List Char) : List Char :=
  let inner := (cs.drop 1).dropLast
  if cs.length < 2 then cs
  else if cs.head? == some '"' && cs.getLast? == some '"' then unescape '"' (unescape '\\' inner)
  else if cs.head? == some '<' && cs.getLast? == some '>' then inner
  else cs

/-- The names and the values of the parts. -/
def fields (value : String) : List (String × String) :=
  (parts value).map fun part =>
    let name := Text.strip (String.ofList (part.takeWhile (· != '=')))
    match part.dropWhile (· != '=') with
    | [] => (name, "")
    | _ :: text => (Text.lower name, String.ofList (unquoted (Text.trim Text.isBlank text)))

/-- A piece of a parameter. -/
structure Piece where
  name : String
  number : Option Nat
  isCoded : Bool
  text : String
  deriving DecidableEq, Repr, Inhabited

namespace Piece

def isNameChar (c : Char) : Bool := (c.toNat < 128 && c.isAlphanum) || c == '_'

/-- The piece of a part whose name has a star, and maybe a number and another star, after it. -/
def ofField (field : String × String) : Except Failure (Option Piece) :=
  let name := field.1.toList.takeWhile isNameChar
  match name, field.1.toList.drop name.length with
  | [], _ => .ok none
  | _, ['*'] => .ok (some ⟨String.ofList name, none, true, field.2⟩)
  | _, '*' :: rest =>
    let digits := rest.takeWhile fun c => '0' ≤ c && c ≤ '9'
    let after := rest.drop digits.length
    if digits.isEmpty || !(after.isEmpty || after == ['*']) then .ok none
    else if maxDigits < digits.length then .error (.tooManyDigits (some digits.length))
    else .ok (some ⟨String.ofList name, some (Text.natOfDigits digits), !after.isEmpty, field.2⟩)
  | _, _ => .ok none

/-- The order of the pieces of one parameter: by their numbers, then by their texts. -/
def le (a b : Piece) : Bool :=
  if a.number != b.number then a.number.getD 0 ≤ b.number.getD 0
  else if a.text != b.text then decide (a.text < b.text)
  else !a.isCoded || b.isCoded

def plainText (p : Piece) : String :=
  if p.isCoded then String.ofList ((Url.unquotedBytes p.text.toList).map fun b => Char.ofNat b.toNat)
  else p.text

end Piece

/-- Bytes that stand alone: without a mark the byte order is the little one. -/
def orderedFor (bytes : List UInt8) : Text.Charset → Text.Charset
  | .wide size none => .wide size (if (Text.Wide.orderIn? size bytes).isSome then none else some .little)
  | c => c

/-- A text of one character for each byte, read in an encoding with a label, or left as it is. -/
def reread (label text : String) : Except Failure String := do
  let bytes : ByteArray := ⟨(text.toList.map fun c => c.toNat.toUInt8).toArray⟩
  match ← Text.Charset.ofLabel (if label.isEmpty then "us-ascii" else label) with
  | none => return text
  | some c => return ((orderedFor bytes.toList c).decodeAll? bytes).getD text

def join (pieces : List Piece) : Except Failure String :=
  let text := Text.join "" ((pieces.mergeSort Piece.le).map Piece.plainText)
  if pieces.any (·.isCoded) then
    match Text.pieces (· == '\'') text.toList with
    | label :: _ :: first :: more =>
      reread (String.ofList label) (Text.join "'" ((first :: more).map String.ofList))
    | _ => reread "" text
  else .ok text

/-- Whether the pieces can be put in order: all of them have numbers, or none has. -/
def isOrderable (pieces : List Piece) : Bool :=
  pieces.all (·.number.isSome) || pieces.all (·.number.isNone)

/-- The value of a parameter, whatever the case of its name: at once, or in pieces of one name. -/
def find? (value name : String) : Except Failure (Option String) := do
  let all := fields value
  let read ← (all.drop 1).mapM fun f => return (f, ← Piece.ofField f)
  let plain := all.take 1 ++ read.filterMap fun r => if r.2.isNone then some r.1 else none
  let pieces := read.filterMap (·.2)
  let of (n : String) : List Piece := pieces.filter (·.name == n)
  if !pieces.all (fun p => isOrderable (of p.name)) then throw .wrongKind
  match plain.find? fun f => Text.lower f.1 == name with
  | some f => return some f.2
  | none =>
    match pieces.find? fun p => Text.lower p.name == name with
    | some p => (join (of p.name)).map some
    | none => return none

end TriStore.Parameter
