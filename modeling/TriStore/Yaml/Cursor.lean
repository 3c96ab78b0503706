import TriStore.Failure

/-!
The tokens of a YAML text, why it cannot be read, and a place in it. What is to be read may break off.
-/
namespace TriStore.Yaml

inductive Fault where
  | malformed
  | failure (e : Defect)
  deriving Repr, Inhabited

inductive Token where
  | streamEnd
  | versionDirective (major : Nat)
  | tagDirective (handle expansion : String)
  | otherDirective
  | documentStart
  | documentEnd
  | blockSequenceStart
  | blockMappingStart
  | blockEnd
  | flowSequenceStart
  | flowSequenceEnd
  | flowMappingStart
  | flowMappingEnd
  | blockEntry
  | flowEntry
  | key
  | value
  | alias (name : String)
  | anchor (name : String)
  | tag (handle : Option String) (suffix : String)
  | scalar (text : String) (plain : Bool)
  | broken (fault : Fault)
  deriving Repr, Inhabited

structure Cursor where
  rest : List Char
  /-- Why nothing can be read after `rest`, unless the text ends there. -/
  pending : Option Fault := none
  index : Nat := 0
  line : Nat := 0
  column : Nat := 0
  deriving Repr, Inhabited

def endMark : Char := Char.ofNat 0

def isBreak (c : Char) : Bool :=
  c == '\n' || c == '\r' || c.toNat == 0x85 || c.toNat == 0x2028 || c.toNat == 0x2029

def byteOrderMark : Char := Char.ofNat 0xfeff

def endsLine (c : Char) : Bool := c == endMark || isBreak c

def endsWord (c : Char) : Bool := c == ' ' || c == '\t' || endsLine c

def isSpaceOrTab (c : Char) : Bool := c == ' ' || c == '\t'

namespace Cursor

/-- Fails if one of the next `n + 1` characters is not at hand. -/
def reach (c : Cursor) (n : Nat) : Except Fault Unit :=
  match c.pending with
  | none => .ok ()
  | some fault => if (c.rest.drop n).isEmpty then .error fault else .ok ()

def peek (c : Cursor) (n : Nat) : Except Fault Char := do
  c.reach n
  return c.rest.getD n endMark

def head (c : Cursor) : Except Fault Char := c.peek 0

def atEnd (c : Cursor) : Except Fault Bool := do
  c.reach 0
  return c.rest.isEmpty

def step (c : Cursor) : Cursor :=
  match c.rest with
  | [] => c
  | ch :: more =>
    let ends := isBreak ch && !(ch == '\r' && more.head? == some '\n')
    let size := Text.count [ch]
    { c with
      rest := more, index := c.index + size, line := if ends then c.line + 1 else c.line,
      column := if ends then 0 else if ch == byteOrderMark then c.column else c.column + size }

def steps : Nat → Cursor → Cursor
  | 0, c => c
  | n + 1, c => steps n c.step

/-- Goes on by `n` characters, once the one after them is at hand. -/
def skip (n : Nat) (c : Cursor) : Except Fault Cursor := do
  c.reach n
  return c.steps n

def next (c : Cursor) : Except Fault Cursor := c.skip 1

def takeWhile (c : Cursor) (p : Char → Bool) : Except Fault (List Char × Cursor) := do
  let cs := c.rest.takeWhile p
  return (cs, ← c.skip cs.length)

def dropWhile (c : Cursor) (p : Char → Bool) : Except Fault Cursor := do return (← c.takeWhile p).2

def lineBreak? (c : Cursor) : Except Fault (Option (Char × Cursor)) := do
  let ch ← c.head
  if !isBreak ch then return none
  let unified := ch == '\r' || ch == '\n' || ch.toNat == 0x85
  let two := ch == '\r' && (← c.peek 1) == '\n'
  return some (if unified then '\n' else ch, ← c.skip (if two then 2 else 1))

def passBreak (c : Cursor) : Except Fault Cursor := do return ((← c.lineBreak?).map (·.2)).getD c

/-- Whether a mark of three such characters stands here. -/
def atMark (c : Cursor) (ch : Char) : Except Fault Bool := do
  c.reach 2
  if c.rest.take 3 == [ch, ch, ch] then return endsWord (← c.peek 3) else return false

def atSeparator (c : Cursor) : Except Fault Bool := c.atMark '-' <||> c.atMark '.'

end Cursor

end TriStore.Yaml
