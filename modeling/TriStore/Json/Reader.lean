import TriStore.Failure
import TriStore.Text.Unicode
import TriStore.Value.Basic

/-!
Reading a JSON document, from a text or from bytes. The first bytes tell the encoding, which is UTF-8
unless they say otherwise.
-/
namespace TriStore.Json

inductive Reason where
  | value
  | name
  | colon
  | comma
  | extra
  | unterminated
  | escape
  | unicodeEscape
  | control
  | byteOrderMark
  deriving DecidableEq, Repr, Inhabited

def Reason.message : Reason → String
  | .value => "Expecting value"
  | .name => "Expecting property name enclosed in double quotes"
  | .colon => "Expecting ':' delimiter"
  | .comma => "Expecting ',' delimiter"
  | .extra => "Extra data"
  | .unterminated => "Unterminated string starting at"
  | .escape => "Invalid \\escape"
  | .unicodeEscape => "Invalid \\uXXXX escape"
  | .control => "Invalid control character at"
  | .byteOrderMark => "Unexpected UTF-8 BOM (decode using utf-8-sig)"

structure Refusal where
  reason : Reason
  pos : Nat
  deriving DecidableEq, Repr, Inhabited

/-- Why a document cannot be read: it is no JSON, or it holds what no value can. -/
inductive Fault where
  | refused (r : Refusal)
  | failure (e : Defect)
  deriving Repr, Inhabited

structure Cursor where
  rest : List Char
  pos : Nat

def Cursor.skip (c : Cursor) (n : Nat) : Cursor := ⟨c.rest.drop n, c.pos + n⟩

def isGap (c : Char) : Bool := c == ' ' || c == '\t' || c == '\n' || c == '\r'

def skipGaps : List Char → Nat → Cursor
  | c :: cs, pos => if isGap c then skipGaps cs (pos + 1) else ⟨c :: cs, pos⟩
  | [], pos => ⟨[], pos⟩

def Cursor.gaps (c : Cursor) : Cursor := skipGaps c.rest c.pos

def simpleEscape? : Char → Option Char
  | '"' => some '"'
  | '\\' => some '\\'
  | '/' => some '/'
  | 'b' => some (Char.ofNat 8)
  | 'f' => some (Char.ofNat 12)
  | 'n' => some '\n'
  | 'r' => some '\r'
  | 't' => some '\t'
  | _ => none

/-- The code point of an escape with its digits from `cs` on, and how many characters it takes up: ten for a
pair. -/
def unicodeEscape (cs : List Char) (pos : Nat) : Except Refusal (List Char × Nat) :=
  if cs.length ≤ 4 then .error ⟨.unicodeEscape, pos⟩
  else match Text.Hex.number? (cs.take 4) with
    | none => .error ⟨.unicodeEscape, pos⟩
    | some hi =>
      let more := cs.drop 4
      if Text.isHighHalf hi && more.length > 6 && more.take 2 == ['\\', 'u'] then
        match Text.Hex.number? ((more.drop 2).take 4) with
        | none => .error ⟨.unicodeEscape, pos + 6⟩
        | some lo =>
          if Text.isLowHalf lo then .ok (Text.ofPoint (Text.joinHalves hi lo), 10)
          else .ok (Text.ofPoint hi, 4)
      else .ok (Text.ofPoint hi, 4)

def scanText (start : Nat) : Nat → List Char → List Char → Nat → Except Refusal (String × Cursor)
  | 0, _, _, _ => .error ⟨.unterminated, start⟩
  | _ + 1, _, [], _ => .error ⟨.unterminated, start⟩
  | fuel + 1, acc, c :: cs, pos =>
    if c == '"' then .ok (String.ofList acc.reverse, ⟨cs, pos + 1⟩)
    else if c == '\\' then
      match cs with
      | [] => .error ⟨.unterminated, start⟩
      | 'u' :: more => do
        let (chars, n) ← unicodeEscape more (pos + 1)
        scanText start fuel (chars.reverse ++ acc) (more.drop n) (pos + 2 + n)
      | e :: more =>
        match simpleEscape? e with
        | none => .error ⟨.escape, pos⟩
        | some ch => scanText start fuel (ch :: acc) more (pos + 2)
    else if c.toNat ≤ 0x1f then .error ⟨.control, pos⟩
    else scanText start fuel (c :: acc) cs (pos + 1)

def isDigit (c : Char) : Bool := '0' ≤ c && c ≤ '9'

def number (ds : List Char) : Nat := ds.foldl (fun n c => n * 10 + (c.toNat - 48)) 0

def scanFraction : List Char → List Char
  | '.' :: cs => cs.takeWhile isDigit
  | _ => []

def scanExponent : List Char → Option (List Char × Bool × Nat)
  | c :: cs =>
    if c == 'e' || c == 'E' then
      let (negative, signs, cs) := match cs with
        | '-' :: more => (true, 1, more)
        | '+' :: more => (false, 1, more)
        | _ => (false, 0, cs)
      let ds := cs.takeWhile isDigit
      if ds.isEmpty then none else some (ds, negative, 1 + signs + ds.length)
    else none
  | [] => none

def scanNumber (c : Cursor) : Except Fault (Value × Cursor) :=
  let negative := c.rest.head? == some '-'
  let body := if negative then c.rest.tail else c.rest
  let whole := match body with
    | '0' :: _ => ['0']
    | _ => body.takeWhile isDigit
  if whole.isEmpty then .error (.refused ⟨.value, c.pos⟩)
  else
    let signs := if negative then 1 else 0
    let rest := body.drop whole.length
    let frac := scanFraction rest
    let rest' := if frac.isEmpty then rest else rest.drop (frac.length + 1)
    let fracSize := if frac.isEmpty then 0 else frac.length + 1
    match scanExponent rest' with
    | none =>
      let size := signs + whole.length + fracSize
      if frac.isEmpty then
        if maxDigits < whole.length then .error (.failure (.tooManyDigits (some whole.length)))
        else
        let n : Int := number whole
        .ok (.int (if negative then -n else n), c.skip size)
      else .ok (.float (Binary64.ofDecimal negative (number (whole ++ frac)) (-frac.length)), c.skip size)
    | some (ds, down, expSize) =>
      let e : Int := number ds
      let power := (if down then -e else e) - frac.length
      .ok (.float (Binary64.ofDecimal negative (number (whole ++ frac)) power),
        c.skip (signs + whole.length + fracSize + expSize))

def word? (cs : List Char) : Option (Value × Nat) :=
  [("null", Value.null), ("true", .bool true), ("false", .bool false), ("NaN", .float .nan),
    ("Infinity", .float (.infinite false)), ("-Infinity", .float (.infinite true))].findSome?
    fun (w, v) => if w.toList.isPrefixOf cs then some (v, w.length) else none

def refuse {α : Type} (reason : Reason) (c : Cursor) : Except Fault α := .error (.refused ⟨reason, c.pos⟩)

def scanQuoted (fuel : Nat) (c : Cursor) (cs : List Char) : Except Fault (String × Cursor) :=
  (scanText c.pos fuel [] cs (c.pos + 1)).mapError .refused

def maxDepth : Nat := 985

mutual

def scanValue : Nat → Nat → Cursor → Except Fault (Value × Cursor)
  | 0, _, c => refuse .value c
  | fuel + 1, depth, c =>
    match c.rest with
    | '"' :: cs => do
      let (s, c) ← scanQuoted fuel c cs
      .ok (.text s, c)
    | '{' :: _ =>
      if maxDepth ≤ depth then .error (.failure .tooDeep)
      else
        let c := (c.skip 1).gaps
        if c.rest.head? == some '}' then .ok (.map [], c.skip 1) else scanMembers fuel (depth + 1) [] c
    | '[' :: _ =>
      if maxDepth ≤ depth then .error (.failure .tooDeep)
      else
        let c := (c.skip 1).gaps
        if c.rest.head? == some ']' then .ok (.list [], c.skip 1) else scanItems fuel (depth + 1) [] c
    | _ =>
      match word? c.rest with
      | some (v, n) => .ok (v, c.skip n)
      | none => scanNumber c

def scanMembers : Nat → Nat → List (Value × Value) → Cursor → Except Fault (Value × Cursor)
  | 0, _, _, c => refuse .name c
  | fuel + 1, depth, acc, c =>
    match c.rest with
    | '"' :: cs => do
      let (key, c) ← scanQuoted fuel c cs
      let c := c.gaps
      if c.rest.head? != some ':' then refuse .colon c
      else
        let (v, c) ← scanValue fuel depth (c.skip 1).gaps
        let acc := Value.insert (.text key) v acc
        let c := c.gaps
        match c.rest with
        | '}' :: _ => .ok (.map acc, c.skip 1)
        | ',' :: _ => scanMembers fuel depth acc (c.skip 1).gaps
        | _ => refuse .comma c
    | _ => refuse .name c

def scanItems : Nat → Nat → List Value → Cursor → Except Fault (Value × Cursor)
  | 0, _, _, c => refuse .value c
  | fuel + 1, depth, acc, c => do
    let (v, c) ← scanValue fuel depth c
    let c := c.gaps
    match c.rest with
    | ']' :: _ => .ok (.list (v :: acc).reverse, c.skip 1)
    | ',' :: _ => scanItems fuel depth (v :: acc) (c.skip 1).gaps
    | _ => refuse .comma c

end

def parseChars (cs : List Char) : Except Fault Value := do
  let (v, c) ← scanValue (2 * cs.length + 2) 0 (Cursor.gaps ⟨cs, 0⟩)
  let c := c.gaps
  if c.rest.isEmpty then .ok v else refuse .extra c

def parse (s : String) : Except Fault Value :=
  let cs := s.toList
  if cs.head? == some (Char.ofNat 0xfeff) then refuse .byteOrderMark ⟨cs, 0⟩ else parseChars cs

def Refusal.message (e : Refusal) (doc : List Char) : String :=
  let before := doc.take e.pos
  let line := before.count '\n' + 1
  let column := Text.count (before.reverse.takeWhile (· != '\n')) + 1
  e.reason.message ++ ": line " ++ Text.ofNat line ++ " column " ++ Text.ofNat column ++ " (char " ++
    Text.ofNat (Text.count before) ++ ")"

/-- The units and the byte order that the first bytes tell, and the size of a mark before them. -/
def wideOf? (bs : List UInt8) : Option (Text.UnitSize × Text.ByteOrder × Nat) :=
  match Text.Wide.orderIn? .four bs, Text.Wide.orderIn? .two bs with
  | some o, _ => some (.four, o, 4)
  | none, some o => some (.two, o, 2)
  | none, none =>
    match bs with
    | 0 :: b :: _ :: _ :: _ => some (if b == 0 then .four else .two, .big, 0)
    | _ :: 0 :: c :: d :: _ => some (if c == 0 && d == 0 then .four else .two, .little, 0)
    | [0, _] => some (.two, .big, 0)
    | [_, 0] => some (.two, .little, 0)
    | _ => none

def dropMark : List UInt8 → List UInt8
  | 0xef :: 0xbb :: 0xbf :: rest => rest
  | bs => bs

def textOf (bs : ByteArray) : Except Text.Undecodable String :=
  match wideOf? bs.toList with
  | some (size, order, start) => Text.Wide.decodeHalves size order start bs.toList
  | none => Text.Utf8.decodeHalves ⟨(dropMark bs.toList).toArray⟩

inductive Unreadable where
  | reason (text : String)
  | failure (e : Defect)
  deriving DecidableEq, Inhabited

def parseBytes (bs : ByteArray) : Except Unreadable Value :=
  match textOf bs with
  | .error e => .error (.reason e.message)
  | .ok s =>
    match parseChars s.toList with
    | .ok v => .ok v
    | .error (.refused e) => .error (.reason (e.message s.toList))
    | .error (.failure (.tooManyDigits n)) => .error (.reason (digitsMessage n))
    | .error (.failure e) => .error (.failure e)

end TriStore.Json
