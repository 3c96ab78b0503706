import TriStore.Text.Unicode
import TriStore.Yaml.Scalar

/-!
What may stand before a node or a document: anchors, tags and directives.
-/
namespace TriStore.Yaml.Property

def isNameChar (c : Char) : Bool :=
  ('0' ≤ c && c ≤ '9') || ('A' ≤ c && c ≤ 'Z') || ('a' ≤ c && c ≤ 'z') || c == '-' || c == '_'

def endsField (c : Char) : Bool := c == ' ' || endsLine c

def name (c : Cursor) : Except Fault (String × Cursor) := do
  let (cs, c) ← (← c.next).takeWhile isNameChar
  if cs.isEmpty then throw .malformed
  let ch ← c.head
  if endsWord ch || "?:,]\x7d%@`".toList.contains ch then return (String.ofList cs, c) else throw .malformed

def isUriChar (c : Char) : Bool := isNameChar c || ";/?:@&=+$,.!~*'()[]%".toList.contains c

def uriBytes : Nat → List UInt8 → Cursor → Except Fault (List UInt8 × Cursor)
  | 0, acc, c => .ok (acc.reverse, c)
  | n + 1, acc, c => do
    if (← c.head) != '%' then return (acc.reverse, c)
    let c ← c.next
    let b ← Scalar.hexNumber 2 c
    uriBytes n (b.toUInt8 :: acc) (← c.skip 2)

def uriFrom : Nat → List Char → Cursor → Except Fault (List Char × Cursor)
  | 0, acc, c => .ok (acc, c)
  | n + 1, acc, c => do
    let ch ← c.head
    if ch == '%' then
      let (bs, c) ← uriBytes (c.rest.length + 1) [] c
      match Text.Utf8.decode ⟨bs.toArray⟩ with
      | .ok s => uriFrom n (acc ++ s.toList) c
      | .error _ => throw .malformed
    else if isUriChar ch then uriFrom n (acc ++ [ch]) (← c.next)
    else return (acc, c)

def uri (c : Cursor) : Except Fault (String × Cursor) := do
  if !isUriChar (← c.head) then throw .malformed
  let (cs, c) ← uriFrom (c.rest.length + 1) [] c
  return (String.ofList cs, c)

def handle (c : Cursor) : Except Fault (String × Cursor) := do
  if (← c.head) != '!' then throw .malformed
  if (← c.peek 1) == ' ' then return ("!", ← c.next)
  let (cs, c) ← (← c.next).takeWhile isNameChar
  if (← c.head) == '!' then return ("!" ++ String.ofList cs ++ "!", ← c.next) else throw .malformed

/-- Whether the word that starts after a mark has such a mark in it. -/
def hasHandle (c : Cursor) : Except Fault Bool := do
  let word := (c.rest.drop 1).takeWhile (!endsField ·)
  if word.contains '!' then return true
  c.reach (word.length + 1)
  return false

def tag (c : Cursor) : Except Fault (Token × Cursor) := do
  let ch ← c.peek 1
  let (token, c) ←
    if ch == '<' then do
      let (suffix, c) ← uri (← c.skip 2)
      if (← c.head) != '>' then throw .malformed
      pure (Token.tag none suffix, ← c.next)
    else if endsWord ch then pure (Token.tag none "!", ← c.next)
    else do
      let (h, c) ← if ← hasHandle c then handle c else pure ("!", ← c.next)
      let (suffix, c) ← uri c
      pure (Token.tag (some h) suffix, c)
  if endsField (← c.head) then return (token, c) else throw .malformed

def number (c : Cursor) : Except Fault (Nat × Cursor) := do
  let ds := c.rest.takeWhile fun ch => '0' ≤ ch && ch ≤ '9'
  c.reach ds.length
  if ds.isEmpty then throw .malformed
  if maxDigits < ds.length then throw (.failure (.tooManyDigits (some ds.length)))
  return (Text.natOfDigits ds, ← c.skip ds.length)

def versionDirective (c : Cursor) : Except Fault (Token × Cursor) := do
  let (major, c) ← number (← c.dropWhile (· == ' '))
  if (← c.head) != '.' then throw .malformed
  let (_, c) ← number (← c.next)
  if endsField (← c.head) then return (.versionDirective major, c) else throw .malformed

def tagDirective (c : Cursor) : Except Fault (Token × Cursor) := do
  let (h, c) ← handle (← c.dropWhile (· == ' '))
  if (← c.head) != ' ' then throw .malformed
  let (expansion, c) ← uri (← c.dropWhile (· == ' '))
  if endsField (← c.head) then return (.tagDirective h expansion, c) else throw .malformed

def directive (c : Cursor) : Except Fault (Token × Cursor) := do
  let (name, c) ← (← c.next).takeWhile isNameChar
  if name.isEmpty || !endsField (← c.head) then throw .malformed
  let (token, c) ←
    if name == "YAML".toList then versionDirective c
    else if name == "TAG".toList then tagDirective c
    else pure (Token.otherDirective, ← c.dropWhile (!endsLine ·))
  return (token, ← Scalar.ignoredLine c)

end TriStore.Yaml.Property
