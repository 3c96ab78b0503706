import TriStore.Packed.Foretold
import TriStore.Text.Basic
import TriStore.Text.CharName.Table

/-!
Characters by their names. Most names are listed.
-/
namespace TriStore.Text.CharName

def lines : Thunk (List String) := .mk fun _ => (Packed.Foretold.unpack 264256 packed).splitOn "\n"

def entriesOf (line : String) : Nat × List String :=
  match line.splitOn ":" with
  | [code, entries] => ((Hex.number? code.toList).getD 0, entries.splitOn ";")
  | _ => (0, [])

/-- The number that a small letter stands for, and what is left without the letter. -/
def takeCount : List Char → Nat × List Char
  | c :: cs => if c.isLower then (c.toNat - 96, cs) else (0, c :: cs)
  | [] => (0, [])

/-- The words of the name that an entry means after other names, the last of which comes first. -/
def wordsAfter (names : List (List String)) (entry : List Char) : List String :=
  let (back, cs) := match entry with
    | c :: rest => if c.isDigit then (c.toNat - 48, rest) else (1, entry)
    | [] => (1, [])
  let (front, cs) := takeCount cs
  let (tail, cs) := takeCount cs.reverse
  let old := names.getD (back - 1) []
  let new := if cs.isEmpty then [] else (String.ofList cs.reverse).splitOn " "
  old.take front ++ new ++ old.drop (old.length - tail)

def nextNumber (name : List String) : List String :=
  let cs := (name.getLastD "").toList.reverse
  let digits := (cs.takeWhile (·.isDigit)).reverse
  let number := digits.foldl (fun n c => 10 * n + (c.toNat - 48)) 0
  name.dropLast ++ [String.ofList (cs.drop digits.length).reverse ++ padded digits.length (number + 1)]

/-- Names that go on counting from the first of some names, with the last of them first. -/
def countOn : Nat → List (List String) → List (List String)
  | 0, names => names
  | n + 1, names => countOn n (nextNumber (names.headD []) :: names)

def findIn (wanted : List String) (code : Nat) (names : List (List String)) : List String → Option Nat
  | [] => none
  | entry :: rest =>
    match entry.toList with
    | [] => findIn wanted (code + 1) names rest
    | '+' :: digits =>
      let times := ((String.ofList digits).toNat?).getD 1
      let counted := countOn times names
      match (counted.take times).idxOf? wanted with
      | some i => some (code + times - 1 - i)
      | none => findIn wanted (code + times) counted rest
    | cs =>
      let words := wordsAfter names cs
      if words == wanted then some code else findIn wanted (code + 1) (words :: names) rest

def listed? (name : String) : Option Nat :=
  let wanted := name.splitOn " "
  lines.get.findSome? fun line =>
    let (code, entries) := entriesOf line
    findIn wanted code [] entries

def selector? (name : String) : Option Nat :=
  (List.range 256).findSome? fun n =>
    if name == "VS" ++ Text.ofNat (n + 1) then some (if n < 16 then 0xfe00 + n else 0xe0100 + (n - 16))
    else none

/-- Other names: of characters that have none, and corrected or short ones. -/
def alias? (name : String) : Option Nat :=
  (lines.get.findSome? fun line =>
    match line.splitOn "=" with
    | [code, names] => if (names.splitOn ";").contains name then Hex.number? code.toList else none
    | _ => none).or (selector? name)

/-- Characters whose names end with their numbers: how the names begin, and the code points. -/
def numbered : List (String × List (Nat × Nat)) := [
  ("CJK COMPATIBILITY IDEOGRAPH-", [(0xf900, 0xfa6d), (0xfa70, 0xfad9), (0x2f800, 0x2fa1d)]),
  ("KHITAN SMALL SCRIPT CHARACTER-", [(0x18b00, 0x18cd5)]),
  ("NUSHU CHARACTER-", [(0x1b170, 0x1b2fb)])]

def number? (cs : List Char) : Option Nat :=
  if (cs.length == 4 || cs.length == 5) && cs.all fun c => c.isDigit || ('A' ≤ c && c ≤ 'F') then
    Hex.number? cs
  else none

def numberAfter? (front : String) (ranges : List (Nat × Nat)) (name : String) : Option Nat :=
  if front.toList.isPrefixOf name.toList then
    (number? (name.toList.drop front.length)).bind fun n =>
      if ranges.any fun (a, b) => a ≤ n && n ≤ b then some n else none
  else none

def numbered? (name : String) : Option Nat :=
  numbered.findSome? fun (front, ranges) =>
    (numberAfter? front ranges name).bind fun n =>
      if name.length == front.length + (if n < 0x10000 then 4 else 5) then some n else none

def ideographs : List (Nat × Nat) := [
  (0x3400, 0x4dbf), (0x4e00, 0x9fff), (0x20000, 0x2a6df), (0x2a700, 0x2b738), (0x2b740, 0x2b81d),
  (0x2b820, 0x2cea1), (0x2ceb0, 0x2ebe0), (0x30000, 0x3134a)]

def initials : List String := [
  "G", "GG", "N", "D", "DD", "R", "M", "B", "BB", "S", "SS", "", "J", "JJ", "C", "K", "T", "P", "H"]

def vowels : List String := [
  "A", "AE", "YA", "YAE", "EO", "E", "YEO", "YE", "O", "WA", "WAE", "OE", "YO", "U", "WEO", "WE", "WI",
  "YU", "EU", "YI", "I"]

def finals : List String := [
  "", "G", "GG", "GS", "N", "NJ", "NH", "D", "L", "LG", "LM", "LB", "LS", "LT", "LP", "LH", "M", "B",
  "BS", "S", "SS", "NG", "J", "C", "K", "T", "P", "H"]

/-- The longest of some names that stands at the front: its number, and what follows it. -/
def longest? (among : List String) (cs : List Char) : Option (Nat × List Char) :=
  (among.zipIdx.filter fun (s, _) => s.toList.isPrefixOf cs).foldl (fun best (s, i) =>
    match best with
    | some (_, rest) => if rest.length ≤ cs.length - s.length then best else some (i, cs.drop s.length)
    | none => some (i, cs.drop s.length)) none

/-- A syllable by the names of its letters, written one after the other. -/
def syllable? (cs : List Char) : Option Nat :=
  (longest? initials cs).bind fun (initial, cs) =>
    (longest? vowels cs).bind fun (vowel, cs) =>
      (longest? finals cs).bind fun (final, cs) =>
        if cs.isEmpty then some (0xac00 + (initial * 21 + vowel) * 28 + final) else none

def syllableFront : String := "HANGUL SYLLABLE "

def ideographFront : String := "CJK UNIFIED IDEOGRAPH-"

def find? (name : String) : Option Nat :=
  if syllableFront.toList.isPrefixOf name.toList then syllable? (name.toList.drop syllableFront.length)
  else if ideographFront.toList.isPrefixOf name.toList then numberAfter? ideographFront ideographs name
  else
    let name := name.map Char.toUpper
    ((numbered? name).or (alias? name)).or (listed? name)

end TriStore.Text.CharName
