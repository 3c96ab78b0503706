import TriStore.Text.Lower
import TriStore.Web.Label

/-!
Hosts of addresses: numbers in four parts, numbers in eight parts between brackets, and names.
-/
namespace TriStore.Host

inductive Fault where
  | four (text : String)
  | eight (text : String)
  | name (text : String)
  deriving DecidableEq, Repr, Inhabited

def Fault.message : Fault → String
  | .four s => "Invalid IPv4 address: " ++ Text.quoted s
  | .eight s => "Invalid IPv6 address: " ++ Text.quoted s
  | .name s => "Invalid IDNA hostname: " ++ Text.quoted s

def isDigit (c : Char) : Bool := '0' ≤ c && c ≤ '9'

def looksLikeFour (cs : List Char) : Bool :=
  let runs := Text.pieces (· == '.') cs
  runs.length == 4 && runs.all fun r => !r.isEmpty && r.all isDigit

def isOctet (cs : List Char) : Bool :=
  !cs.isEmpty && cs.length ≤ 3 && cs.all isDigit && (cs.length == 1 || cs.head? != some '0') &&
    cs.foldl (fun n c => n * 10 + (c.toNat - 48)) 0 < 256

def isFour (cs : List Char) : Bool :=
  let parts := Text.pieces (· == '.') cs
  parts.length == 4 && parts.all isOctet

def isHexDigit (c : Char) : Bool :=
  isDigit c || ('a' ≤ c && c ≤ 'f') || ('A' ≤ c && c ≤ 'F')

def isGroup (cs : List Char) : Bool := !cs.isEmpty && cs.length ≤ 4 && cs.all isHexDigit

/-- The groups of a number in eight parts; one in four parts at the end counts as two. -/
def groups? (cs : List Char) : Option (List (List Char)) :=
  let parts := Text.pieces (· == ':') cs
  let last := parts.getLastD []
  if parts.length < 3 then none
  else if last.contains '.' then
    if isFour last then some (parts.dropLast ++ [['0'], ['0']]) else none
  else some parts

/-- Whether groups make a number in eight parts. -/
def areEight (parts : List (List Char)) : Bool :=
  let inner := (parts.drop 1).dropLast
  if 9 < parts.length || 1 < inner.count [] then false
  else if inner.contains [] then
    let skip := 1 + inner.idxOf []
    let before := parts.take skip
    let after := parts.drop (skip + 1)
    let front := if before == [[]] then [] else before
    let back := if after == [[]] then [] else after
    front.all isGroup && back.all isGroup && front.length + back.length ≤ 7
  else parts.length == 8 && parts.all isGroup

def isEight (cs : List Char) : Bool :=
  let address := cs.takeWhile (· != '%')
  let zone := cs.drop (address.length + 1)
  let zoneIsFine := address.length == cs.length || (!zone.isEmpty && !zone.contains '%')
  zoneIsFine && !cs.contains '/' && match groups? address with
    | some parts => areEight parts
    | none => false

def isDot (c : Char) : Bool := [0x2e, 0x3002, 0xff0e, 0xff61].contains c.toNat

def maxName : Nat := 253

def labelsOf (cs : List Char) : List (List Char) × Bool :=
  let labels := Text.pieces isDot cs
  if labels.getLast? == some [] then (labels.dropLast, true) else (labels, false)

def name? (cs : List Char) : Option String :=
  let (labels, isClosed) := labelsOf cs
  match labels.mapM asciiLabel with
  | .error _ => none
  | .ok out =>
    let name := Text.join "." (out.map String.ofList ++ (if isClosed then [""] else []))
    if labels.isEmpty || (if isClosed then maxName + 1 else maxName) < name.length then none else some name

def shown (host : String) : Except LabelFault String :=
  if labelMark.isPrefixOf host.toList then do
    let (labels, isClosed) := labelsOf host.toList
    let labels ← labels.mapM readLabel
    return Text.join "." (labels.map String.ofList ++ (if isClosed then [""] else []))
  else .ok host

def isSafe (c : Char) : Bool :=
  (c.toNat < 128 && c.isAlphanum) || "-._~!$&'()*+,;=\"`\x7b\x7d%|\\".toList.contains c

/-- The host of a text; `quote` writes the characters of a name that may not stand in it. -/
def ofText (quote : List Char → List Char) (s : String) : Except Fault String :=
  let cs := s.toList
  if cs.isEmpty then .ok ""
  else if looksLikeFour cs then if isFour cs then .ok s else .error (.four s)
  else if cs.head? == some '[' && cs.getLast? == some ']' && 1 < cs.length then
    let inner := (cs.drop 1).dropLast
    if isEight inner then .ok (String.ofList inner) else .error (.eight s)
  else if cs.all (·.toNat < 128) then .ok (String.ofList (quote (Text.lowerChars cs)))
  else (name? (Text.lowerChars cs)).elim (.error (.name s)) .ok

end TriStore.Host
