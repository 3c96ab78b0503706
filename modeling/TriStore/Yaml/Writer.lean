import TriStore.Value.Text
import TriStore.Yaml.Type

/-!
Writing documents: mappings and lists as blocks, texts without quotes where they read back as the
same text, and lines folded at the first space after column eighty.
-/
namespace TriStore.Yaml.Writer

structure Pen where
  out : List Char := []
  column : Nat := 0

def Pen.write (p : Pen) (cs : List Char) : Pen := ⟨cs.reverse ++ p.out, p.column + cs.length⟩

def Pen.newline (p : Pen) : Pen := ⟨'\n' :: p.out, 0⟩

def Pen.indent (p : Pen) (n : Nat) : Pen := p.newline.write (List.replicate n ' ')

def width : Nat := 80

inductive Run where
  | word (cs : List Char)
  | spaces (count : Nat)
  | breaks (count : Nat)

def runs : List Char → List Run
  | [] => []
  | c :: cs =>
    match runs cs with
    | .spaces n :: rest =>
      if c == ' ' then .spaces (n + 1) :: rest
      else if c == '\n' then .breaks 1 :: .spaces n :: rest
      else .word [c] :: .spaces n :: rest
    | .breaks n :: rest =>
      if c == ' ' then .spaces 1 :: .breaks n :: rest
      else if c == '\n' then .breaks (n + 1) :: rest
      else .word [c] :: .breaks n :: rest
    | .word w :: rest =>
      if c == ' ' then .spaces 1 :: .word w :: rest
      else if c == '\n' then .breaks 1 :: .word w :: rest
      else .word (c :: w) :: rest
    | [] => if c == ' ' then [.spaces 1] else if c == '\n' then [.breaks 1] else [.word [c]]

def doubled (cs : List Char) : List Char := cs.flatMap fun c => if c == '\'' then ['\'', '\''] else [c]

/-- Writes a text run by run. -/
def writeRuns (word : List Char → List Char) (indent : Nat) : Bool → List Run → Pen → Pen
  | _, [], p => p
  | _, .word w :: rest, p => writeRuns word indent false rest (p.write (word w))
  | atStart, .spaces n :: rest, p =>
    let folds := n == 1 && p.column > width && !atStart && !rest.isEmpty
    let p := if folds then p.indent indent else p.write (List.replicate n ' ')
    writeRuns word indent false rest p
  | _, .breaks n :: rest, p =>
    let p := (List.range n).foldl (fun p _ => p.newline) p
    writeRuns word indent false rest (p.indent indent)

def plain (indent : Nat) (cs : List Char) (p : Pen) : Pen := writeRuns id indent true (runs cs) p

def single (indent : Nat) (cs : List Char) (p : Pen) : Pen :=
  (writeRuns doubled indent true (runs cs) (p.write ['\''])).write ['\'']

def upperHex (width n : Nat) : List Char := (Text.hex width n).toList.map Char.toUpper

def namedEscapes : List (Nat × Char) := [
  (0, '0'), (7, 'a'), (8, 'b'), (9, 't'), (10, 'n'), (11, 'v'), (12, 'f'), (13, 'r'), (27, 'e'),
  (34, '"'), (92, '\\'), (0x85, 'N'), (0xa0, '_'), (0x2028, 'L'), (0x2029, 'P')]

def escapeOf (n : Nat) : List Char :=
  match namedEscapes.lookup n with
  | some e => ['\\', e]
  | none =>
    if n ≤ 0xff then ['\\', 'x'] ++ upperHex 2 n
    else if n ≤ 0xffff then ['\\', 'u'] ++ upperHex 4 n
    else ['\\', 'U'] ++ upperHex 8 n

def isEscaped (n : Nat) : Bool := n == '"'.toNat || n == '\\'.toNat || !(0x20 ≤ n && n ≤ 0x7e)

/-- Goes on in a new line after a backslash, with another one when a space comes next. -/
def foldDouble (indent next : Nat) (p : Pen) : Pen :=
  let p := (p.write ['\\']).indent indent
  if next == ' '.toNat then p.write ['\\'] else p

/-- Writes code points between double quotes. -/
def doubleFrom (indent : Nat) : Bool → List Char → List Nat → Pen → Pen
  | _, held, [], p => p.write held.reverse
  | first, held, n :: ns, p =>
    let inside := !first && !ns.isEmpty
    if isEscaped n then
      let p := (p.write held.reverse).write (escapeOf n)
      let p := if inside && p.column > width + 1 then foldDouble indent (ns.headD ' '.toNat) p else p
      doubleFrom indent false [] ns p
    else if inside && (n == ' '.toNat || held.isEmpty) && p.column + held.length > width then
      doubleFrom indent false [Char.ofNat n] ns (foldDouble indent n (p.write held.reverse))
    else doubleFrom indent false (Char.ofNat n :: held) ns p

def double (indent : Nat) (cs : List Char) (p : Pen) : Pen :=
  (doubleFrom indent true [] (Text.points cs) (p.write ['"'])).write ['"']

def anyNeighbours (p : Char → Char → Bool) : List Char → Bool
  | a :: b :: rest => p a b || anyNeighbours p (b :: rest)
  | _ => false

def isLineBreak (c : Char) : Bool :=
  c == '\n' || c.toNat == 0x85 || c.toNat == 0x2028 || c.toNat == 0x2029

def isSpecial (c : Char) : Bool := !(c == '\n' || (0x20 ≤ c.toNat && c.toNat ≤ 0x7e))

def startsMarked (cs : List Char) : Bool :=
  cs.take 3 == ['-', '-', '-'] || cs.take 3 == ['.', '.', '.'] ||
    match cs with
    | c :: rest =>
      "#,[]\x7b\x7d&*!|>'\"%@`".toList.contains c ||
        ((c == '?' || c == ':' || c == '-') && (rest.isEmpty || endsWord (rest.headD ' ')))
    | [] => false

def holdsMark (cs : List Char) : Bool :=
  anyNeighbours (fun a b => (a == ':' && endsWord b) || (b == '#' && endsWord a)) cs || (cs.getLast? == some ':')

def mayBePlain (cs : List Char) : Bool :=
  let edge (c : Option Char) : Bool := c == some ' ' || (c.map isLineBreak).getD false
  !(edge cs.head? || edge cs.getLast? || cs.any isSpecial || cs.any isLineBreak || startsMarked cs || holdsMark cs)

def mayBeSingle (cs : List Char) : Bool :=
  !(cs.any isSpecial || anyNeighbours (fun a b => (isLineBreak a && b == ' ') || (a == ' ' && isLineBreak b)) cs)

def text (indent : Nat) (s : String) (p : Pen) : Pen :=
  let cs := s.toList
  if Plain.tag s == .text && mayBePlain cs then plain indent cs p
  else if mayBeSingle cs then single indent cs p
  else double indent cs p

def float (x : Binary64) : String :=
  match x with
  | .nan => ".nan"
  | .infinite negative => if negative then "-.inf" else ".inf"
  | x =>
    let s := x.toText
    if s.contains '.' then s else Text.join ".0e" (s.splitOn "e")

def scalar (indent : Nat) (v : Value) (p : Pen) : Pen :=
  match v with
  | .null => p.write "null".toList
  | .bool b => p.write (if b then "true" else "false").toList
  | .float x => p.write (float x).toList
  | .text s => text indent s p
  | v => p.write v.display.toList

mutual

/-- Writes a value after its key: a collection on lines of its own, a scalar on the same line. -/
def value (indent : Nat) : Value → Pen → Pen
  | .map kvs, p => if kvs.isEmpty then p.write " \x7b\x7d".toList else pairs (indent + 2) true kvs p
  | .list vs, p => if vs.isEmpty then p.write " []".toList else items indent vs p
  | v, p => scalar (indent + 2) v (p.write [' '])

def items (indent : Nat) : List Value → Pen → Pen
  | [], p => p
  | v :: vs, p => items indent vs (value indent v ((p.indent indent).write ['-']))

def pairs (indent : Nat) (lineFirst : Bool) : List (Value × Value) → Pen → Pen
  | [], p => p
  | (k, v) :: kvs, p =>
    let p := if lineFirst then p.indent indent else p
    pairs indent true kvs (value indent v ((scalar indent k p).write [':']))

end

def render (doc : Value) : String :=
  let p : Pen := match doc with
    | .map kvs => pairs 0 false kvs {}
    | v => scalar 0 v {}
  String.ofList (p.newline.out.reverse)

end TriStore.Yaml.Writer
