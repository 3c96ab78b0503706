import TriStore.Yaml.Cursor

/-!
The three ways to write a scalar: plain, between quotes, and as a block of lines.
-/
namespace TriStore.Yaml.Scalar

/-- A line break and the empty lines after it, folded: one break alone is a space. -/
def folded (first : Char) (breaks : List Char) : List Char :=
  (if first != '\n' then [first] else if breaks.isEmpty then [' '] else []) ++ breaks

/-- The line breaks from here on with the spaces around them; a separator of documents is an error inside
quotes. -/
def quotedBreaks : Nat → List Char → Cursor → Except Fault (List Char × Cursor)
  | 0, acc, c => .ok (acc.reverse, c)
  | n + 1, acc, c => do
    if ← c.atSeparator then throw .malformed
    let c ← c.dropWhile isSpaceOrTab
    match ← c.lineBreak? with
    | some (ch, c) => quotedBreaks n (ch :: acc) c
    | none => return (acc.reverse, c)

def hexNumber (n : Nat) (c : Cursor) : Except Fault Nat := do
  let ds := c.rest.take n
  let some number := Text.Hex.number? ds | throw .malformed
  if ds.length < n then
    c.reach ds.length
    throw .malformed
  return number

def namedEscapes : List (Char × Nat) := [
  ('0', 0), ('a', 7), ('b', 8), ('t', 9), ('\t', 9), ('n', 10), ('v', 11), ('f', 12), ('r', 13),
  ('e', 27), (' ', 32), ('"', 34), ('\\', 92), ('/', 47), ('N', 0x85), ('_', 0xa0), ('L', 0x2028),
  ('P', 0x2029)]

def numberedEscapes : List (Char × Nat) := [('x', 2), ('u', 4), ('U', 8)]

def charsOf (n : Nat) : Except Fault (List Char) :=
  if n ≥ Nat.pow 2 31 then .error (.failure .overflow)
  else if n ≥ 0x110000 then .error (.failure .noCharacter)
  else .ok (Text.ofPoint n)

def escape (c : Cursor) : Except Fault (List Char × Cursor) := do
  let ch ← c.head
  match namedEscapes.lookup ch, numberedEscapes.lookup ch with
  | some n, _ => return ([Char.ofNat n], ← c.next)
  | none, some size =>
    let c ← c.next
    return (← charsOf (← hexNumber size c), ← c.skip size)
  | none, none =>
    if !isBreak ch then throw .malformed
    quotedBreaks (c.rest.length + 1) [] (← c.passBreak)

def quotedSpaces (c : Cursor) : Except Fault (List Char × Cursor) := do
  let (spaces, c) ← c.takeWhile isSpaceOrTab
  if ← c.atEnd then throw .malformed
  match ← c.lineBreak? with
  | some (first, c) =>
    let (breaks, c) ← quotedBreaks (c.rest.length + 1) [] c
    return (folded first breaks, c)
  | none => return (spaces, c)

def quotedFrom (double : Bool) : Nat → List Char → Cursor → Except Fault (List Char × Cursor)
  | 0, _, _ => .error .malformed
  | n + 1, acc, c => do
    if ← c.atEnd then throw .malformed
    let ch ← c.head
    if ch == '\'' && !double then
      if (← c.peek 1) == '\'' then quotedFrom double n (acc ++ ['\'']) (← c.skip 2) else return (acc, ← c.next)
    else if ch == '"' && double then return (acc, ← c.next)
    else if ch == '\\' && double then
      let (cs, c) ← escape (← c.next)
      quotedFrom double n (acc ++ cs) c
    else if isSpaceOrTab ch || isBreak ch then
      let (cs, c) ← quotedSpaces c
      quotedFrom double n (acc ++ cs) c
    else quotedFrom double n (acc ++ [ch]) (← c.next)

def quoted (c : Cursor) : Except Fault (String × Cursor) := do
  let (cs, rest) ← quotedFrom ((← c.head) == '"') (c.rest.length + 1) [] (← c.next)
  return (String.ofList cs, rest)

def endsPlain (inFlow : Bool) (ch next : Char) : Bool :=
  endsWord ch || (ch == ':' && (endsWord next || (inFlow && [',', '[', ']', '\x7b', '\x7d'].contains next))) ||
    (inFlow && [',', '?', '[', ']', '\x7b', '\x7d'].contains ch)

def plainRun (inFlow : Bool) : List Char → List Char
  | [] => []
  | c :: cs => if endsPlain inFlow c (cs.headD endMark) then [] else c :: plainRun inFlow cs

def plainBreaks : Nat → List Char → Cursor → Except Fault (Option (List Char) × Cursor)
  | 0, acc, c => .ok (some acc.reverse, c)
  | n + 1, acc, c => do
    if (← c.head) == ' ' then plainBreaks n acc (← c.next)
    else match ← c.lineBreak? with
      | some (ch, c) => if ← c.atSeparator then return (none, c) else plainBreaks n (ch :: acc) c
      | none => return (some acc.reverse, c)

/-- The space between two runs of a plain scalar, whether a line ended in it, and the place after it. -/
def plainSpaces (c : Cursor) : Except Fault (List Char × Bool × Cursor) := do
  let (spaces, c) ← c.takeWhile (· == ' ')
  match ← c.lineBreak? with
  | none => return (spaces, false, c)
  | some (first, c) =>
    if ← c.atSeparator then return ([], true, c)
    match ← plainBreaks (c.rest.length + 1) [] c with
    | (none, c) => return ([], true, c)
    | (some breaks, c) => return (folded first breaks, true, c)

structure PlainText where
  text : List Char
  /-- A line ended after the last run, so that a key may follow. -/
  lineEnded : Bool
  cursor : Cursor

/-- Reads runs until one is empty, a comment starts or the indentation falls below `indent`. -/
def plainFrom (inFlow : Bool) (indent : Int) : Nat → PlainText → List Char → Except Fault PlainText
  | 0, t, _ => .ok t
  | n + 1, t, spaces => do
    if (← t.cursor.head) == '#' then return t
    let run := plainRun inFlow t.cursor.rest
    -- What follows a colon decides whether the run ends there.
    if (← t.cursor.peek run.length) == ':' then t.cursor.reach (run.length + 1)
    if run.isEmpty then return t
    let (more, ended, c) ← plainSpaces (← t.cursor.skip run.length)
    let t : PlainText := ⟨t.text ++ spaces ++ run, ended, c⟩
    if more.isEmpty || (← c.head) == '#' || (!inFlow && (c.column : Int) < indent) then return t
    plainFrom inFlow indent n t more

def plain (inFlow : Bool) (indent : Int) (c : Cursor) : Except Fault PlainText :=
  plainFrom inFlow (indent + 1) (c.rest.length + 1) ⟨[], false, c⟩ []

inductive Chomping where
  | strip
  | clip
  | keep
  deriving DecidableEq, Repr, Inhabited

structure BlockHeader where
  chomping : Chomping := .clip
  increment : Option Nat := none

def chompingOf? (ch : Char) : Option Chomping :=
  if ch == '+' then some .keep else if ch == '-' then some .strip else none

def asciiDigit? (ch : Char) : Option Nat :=
  if '0' ≤ ch && ch ≤ '9' then some (ch.toNat - 48) else none

def blockIncrement (c : Cursor) : Except Fault (Option Nat × Cursor) := do
  match asciiDigit? (← c.head) with
  | none => return (none, c)
  | some n => if n == 0 then throw .malformed else return (some n, ← c.next)

def blockChomping (c : Cursor) : Except Fault (Option Chomping × Cursor) := do
  match chompingOf? (← c.head) with
  | none => return (none, c)
  | some chomping => return (some chomping, ← c.next)

def blockHeader (c : Cursor) : Except Fault (BlockHeader × Cursor) := do
  let (first, c) ← blockChomping c
  let (increment, c) ← blockIncrement c
  let (second, c) ← if first.isNone && increment.isSome then blockChomping c else pure (none, c)
  let ch ← c.head
  if !(ch == ' ' || endsLine ch) then throw .malformed
  return ({ chomping := (first.or second).getD .clip, increment }, c)

def ignoredLine (c : Cursor) : Except Fault Cursor := do
  let c ← c.dropWhile (· == ' ')
  let c ← if (← c.head) == '#' then c.dropWhile (!endsLine ·) else pure c
  if endsLine (← c.head) then c.passBreak else throw .malformed

def blockIndentation : Nat → List Char → Nat → Cursor → Except Fault (List Char × Nat × Cursor)
  | 0, acc, deepest, c => .ok (acc.reverse, deepest, c)
  | n + 1, acc, deepest, c => do
    if (← c.head) == ' ' then
      let c ← c.next
      blockIndentation n acc (max deepest c.column) c
    else match ← c.lineBreak? with
      | some (ch, c) => blockIndentation n (ch :: acc) deepest c
      | none => return (acc.reverse, deepest, c)

def toColumn (indent : Nat) : Nat → Cursor → Except Fault Cursor
  | 0, c => .ok c
  | n + 1, c => do
    if c.column < indent && (← c.head) == ' ' then toColumn indent n (← c.next) else return c

def blockBreaks (indent : Nat) : Nat → List Char → Cursor → Except Fault (List Char × Cursor)
  | 0, acc, c => .ok (acc.reverse, c)
  | n + 1, acc, c => do
    let c ← toColumn indent indent c
    match ← c.lineBreak? with
    | some (ch, c) => blockBreaks indent n (ch :: acc) c
    | none => return (acc.reverse, c)

structure BlockText where
  text : List Char := []
  lastBreak : List Char := []
  breaks : List Char
  cursor : Cursor

def blockLines (fold : Bool) (indent : Nat) : Nat → BlockText → Except Fault BlockText
  | 0, t => .ok t
  | n + 1, t => do
    let c := t.cursor
    if c.column != indent || (← c.atEnd) then return t
    let flush := !isSpaceOrTab (← c.head)
    let (line, c) ← c.takeWhile (!endsLine ·)
    let (lastBreak, c) ← match ← c.lineBreak? with
      | some (ch, c) => pure ([ch], c)
      | none => pure ([], c)
    let (breaks, c) ← blockBreaks indent (c.rest.length + 1) [] c
    let text := t.text ++ t.breaks ++ line
    if c.column == indent && !(← c.atEnd) then
      let joined := if fold && lastBreak == ['\n'] && flush && !isSpaceOrTab (← c.head) then
          (if breaks.isEmpty then [' '] else [])
        else lastBreak
      blockLines fold indent n ⟨text ++ joined, lastBreak, breaks, c⟩
    else return ⟨text, lastBreak, breaks, c⟩

def block (parent : Int) (c : Cursor) : Except Fault (String × Cursor) := do
  let fold := (← c.head) == '>'
  let (header, c) ← blockHeader (← c.next)
  let c ← ignoredLine c
  let least : Nat := (max 1 (parent + 1)).toNat
  let fuel := c.rest.length + 1
  let (indent, breaks, c) ← match header.increment with
    | none => do
      let (breaks, deepest, c) ← blockIndentation fuel [] 0 c
      pure (max least deepest, breaks, c)
    | some n => do
      let indent := least + n - 1
      let (breaks, c) ← blockBreaks indent fuel [] c
      pure (indent, breaks, c)
  let t ← blockLines fold indent fuel { breaks, cursor := c }
  let tail := match header.chomping with
    | .strip => []
    | .clip => t.lastBreak
    | .keep => t.lastBreak ++ t.breaks
  return (String.ofList (t.text ++ tail), t.cursor)

end TriStore.Yaml.Scalar
