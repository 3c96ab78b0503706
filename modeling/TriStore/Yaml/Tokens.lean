import TriStore.Yaml.Property

/-!
The tokens of a text. Indentation opens and closes blocks.
-/
namespace TriStore.Yaml

/-- A place where a key may start: the tokens before it and its place in the text. -/
structure PossibleKey where
  position : Nat
  required : Bool
  index : Nat
  line : Nat
  column : Nat
  deriving Repr, Inhabited

/-- `indent` is the column of the innermost block and `flow` the number of open brackets. -/
structure Scanner where
  cursor : Cursor
  tokens : List Token := []
  count : Nat := 0
  flow : Nat := 0
  indent : Int := -1
  indents : List Int := []
  keyAllowed : Bool := true
  keys : List (Nat × PossibleKey) := []
  finished : Bool := false
  deriving Inhabited

namespace Scanner

def inFlow (s : Scanner) : Bool := s.flow != 0

def push (s : Scanner) (t : Token) : Scanner := { s with tokens := t :: s.tokens, count := s.count + 1 }

def insertAt (s : Scanner) (position : Nat) (t : Token) : Scanner :=
  let after := s.count - position
  { s with tokens := s.tokens.take after ++ t :: s.tokens.drop after, count := s.count + 1 }

def toNext : Nat → Scanner → Except Fault Scanner
  | 0, s => .ok s
  | n + 1, s => do
    let c ← s.cursor.dropWhile (· == ' ')
    let c ← if (← c.head) == '#' then c.dropWhile (!endsLine ·) else pure c
    match ← c.lineBreak? with
    | some (_, c) => toNext n { s with cursor := c, keyAllowed := s.keyAllowed || !s.inFlow }
    | none => return { s with cursor := c }

def isStale (s : Scanner) (k : PossibleKey) : Bool :=
  k.line != s.cursor.line || s.cursor.index - k.index > 1024

/-- Forgets the places too far back for a key; where one was needed that is an error. -/
def dropStale (s : Scanner) : Except Fault Scanner :=
  if s.keys.any fun k => s.isStale k.2 && k.2.required then .error .malformed
  else .ok { s with keys := s.keys.filter fun k => !s.isStale k.2 }

/-- Forgets the possible key of the current level; where one was needed that is an error. -/
def dropKey (s : Scanner) : Except Fault Scanner :=
  match s.keys.lookup s.flow with
  | none => .ok s
  | some k =>
    if k.required then .error .malformed
    else .ok { s with keys := s.keys.filter (·.1 != s.flow) }

def saveKey (s : Scanner) : Except Fault Scanner :=
  if !s.keyAllowed then .ok s
  else do
    let s ← s.dropKey
    let c := s.cursor
    let key : PossibleKey :=
      { position := s.count, required := !s.inFlow && s.indent == c.column, index := c.index,
        line := c.line, column := c.column }
    return { s with keys := (s.flow, key) :: s.keys }

def closeBlocks (column : Int) : List Int → Scanner → Scanner
  | [], s => s
  | outer :: rest, s =>
    if s.indent > column then
      closeBlocks column rest { (s.push .blockEnd) with indent := outer, indents := rest }
    else s

def unwind (s : Scanner) (column : Int) : Scanner :=
  if s.inFlow then s else closeBlocks column s.indents s

def indentTo (s : Scanner) (column : Int) : Option Scanner :=
  if s.indent < column then some { s with indents := s.indent :: s.indents, indent := column } else none

def openBlock (s : Scanner) (t : Token) : Scanner :=
  match s.indentTo s.cursor.column with
  | some s => s.push t
  | none => s

def streamEnd (s : Scanner) : Except Fault Scanner := do
  let s ← (s.unwind (-1)).dropKey
  return { (s.push .streamEnd) with keyAllowed := false, keys := [], finished := true }

def directive (s : Scanner) : Except Fault Scanner := do
  let s ← (s.unwind (-1)).dropKey
  let (token, c) ← Property.directive s.cursor
  return { (s.push token) with keyAllowed := false, cursor := c }

def documentMark (s : Scanner) (t : Token) : Except Fault Scanner := do
  let s ← (s.unwind (-1)).dropKey
  return { (s.push t) with keyAllowed := false, cursor := ← s.cursor.skip 3 }

def flowStart (s : Scanner) (t : Token) : Except Fault Scanner := do
  let s ← s.saveKey
  return { (s.push t) with flow := s.flow + 1, keyAllowed := true, cursor := ← s.cursor.next }

def flowEnd (s : Scanner) (t : Token) : Except Fault Scanner := do
  let s ← s.dropKey
  return { (s.push t) with flow := s.flow - 1, keyAllowed := false, cursor := ← s.cursor.next }

def flowEntry (s : Scanner) : Except Fault Scanner := do
  let s ← s.dropKey
  return { (s.push .flowEntry) with keyAllowed := true, cursor := ← s.cursor.next }

def blockEntry (s : Scanner) : Except Fault Scanner := do
  if !s.inFlow && !s.keyAllowed then throw .malformed
  let s := if s.inFlow then s else s.openBlock .blockSequenceStart
  let s ← s.dropKey
  return { (s.push .blockEntry) with keyAllowed := true, cursor := ← s.cursor.next }

def keyMark (s : Scanner) : Except Fault Scanner := do
  if !s.inFlow && !s.keyAllowed then throw .malformed
  let s := if s.inFlow then s else s.openBlock .blockMappingStart
  let s ← s.dropKey
  return { (s.push .key) with keyAllowed := !s.inFlow, cursor := ← s.cursor.next }

def valueMark (s : Scanner) : Except Fault Scanner := do
  match s.keys.lookup s.flow with
  | some k =>
    let s := { s with keys := s.keys.filter (·.1 != s.flow) }.insertAt k.position .key
    let s := if s.inFlow then s
      else match s.indentTo k.column with
        | some s => s.insertAt k.position .blockMappingStart
        | none => s
    return { (s.push .value) with keyAllowed := false, cursor := ← s.cursor.next }
  | none =>
    if !s.inFlow && !s.keyAllowed then throw .malformed
    let s := if s.inFlow then s else s.openBlock .blockMappingStart
    let s ← s.dropKey
    return { (s.push .value) with keyAllowed := !s.inFlow, cursor := ← s.cursor.next }

def keyable (s : Scanner) (read : Cursor → Except Fault (Token × Cursor)) : Except Fault Scanner := do
  let s ← s.saveKey
  let (token, c) ← read s.cursor
  return { (s.push token) with keyAllowed := false, cursor := c }

def blockScalar (s : Scanner) : Except Fault Scanner := do
  let s ← s.dropKey
  let (text, c) ← Scalar.block s.indent s.cursor
  return { (s.push (.scalar text false)) with keyAllowed := true, cursor := c }

def plainScalar (s : Scanner) : Except Fault Scanner := do
  let s ← s.saveKey
  let t ← Scalar.plain s.inFlow s.indent s.cursor
  return { (s.push (.scalar (String.ofList t.text) true)) with
    keyAllowed := t.lineEnded, cursor := t.cursor }

def indicators : List Char := "-?:,[]\x7b\x7d#&*!|>'\"%@`".toList

def startsPlain (s : Scanner) (c : Cursor) : Except Fault Bool := do
  let ch ← c.head
  if !(endsWord ch || indicators.contains ch) then return true
  if endsWord (← c.peek 1) then return false
  return ch == '-' || (!s.inFlow && (ch == '?' || ch == ':'))

/-- Whether such a character stands here as a word of its own, as it may inside brackets where `free` holds.
-/
def atWord (c : Cursor) (ch : Char) (free : Bool) : Except Fault Bool := do
  if (← c.head) != ch then return false
  if free then return true
  return endsWord (← c.peek 1)

def atDocumentMark (c : Cursor) (ch : Char) : Except Fault Bool := do
  if c.column == 0 && (← c.head) == ch then c.atMark ch else return false

def fetch (s : Scanner) : Except Fault Scanner := do
  let start ← if s.cursor.index == 0 && (← s.cursor.head) == byteOrderMark then s.cursor.next else pure s.cursor
  let s ← (← toNext (start.rest.length + 1) { s with cursor := start }).dropStale
  let s := s.unwind s.cursor.column
  let c := s.cursor
  let ch ← c.head
  if ← c.atEnd then s.streamEnd
  else if ch == '%' && c.column == 0 then s.directive
  else if ← atDocumentMark c '-' then s.documentMark .documentStart
  else if ← atDocumentMark c '.' then s.documentMark .documentEnd
  else if ch == '[' then s.flowStart .flowSequenceStart
  else if ch == '\x7b' then s.flowStart .flowMappingStart
  else if ch == ']' then s.flowEnd .flowSequenceEnd
  else if ch == '\x7d' then s.flowEnd .flowMappingEnd
  else if ch == ',' then s.flowEntry
  else if ← atWord c '-' false then s.blockEntry
  else if ← atWord c '?' s.inFlow then s.keyMark
  else if ← atWord c ':' s.inFlow then s.valueMark
  else if ch == '*' then s.keyable fun c => do
    let (name, c) ← Property.name c
    return (.alias name, c)
  else if ch == '&' then s.keyable fun c => do
    let (name, c) ← Property.name c
    return (.anchor name, c)
  else if ch == '!' then s.keyable Property.tag
  else if (ch == '|' || ch == '>') && !s.inFlow then s.blockScalar
  else if ch == '\'' || ch == '"' then s.keyable fun c => do
    let (text, c) ← Scalar.quoted c
    return (.scalar text false, c)
  else if ← s.startsPlain c then s.plainScalar
  else throw .malformed

/-- The tokens up to the first that may still become a key, and then the fault. -/
def breakOff (s : Scanner) (fault : Fault) : Scanner :=
  let pending := (s.keys.filter fun k => !s.isStale k.2).map (·.2.position)
  let kept := pending.foldl min s.count
  { s with tokens := .broken fault :: s.tokens.drop (s.count - kept), count := kept + 1 }

def run : Nat → Scanner → Scanner
  | 0, s => s
  | n + 1, s =>
    if s.finished then s
    else match s.fetch with
      | .ok s => run n s
      | .error fault => s.breakOff fault

end Scanner

/-- The tokens of a text; the last one tells whether the text ended or could not be read. -/
def tokensOf (c : Cursor) : List Token := (Scanner.run (c.rest.length + 2) { cursor := c }).tokens.reverse

end TriStore.Yaml
