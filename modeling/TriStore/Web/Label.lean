import TriStore.Failure
import TriStore.Text.Normal
import TriStore.Text.Punycode

/-!
The labels of the names of hosts, and what their rules ask of a character.
-/
namespace TriStore.Host

/-- Bands in which every character may stand in a name, and bands in which every second one may, where capital
and small letters alternate. -/
def isNameChar (c : Char) : Bool :=
  Text.inBands Text.Table.solidNames.bands c.toNat || Text.Table.alternatingNames.bands.any fun (lo, hi) =>
      lo ≤ c.toNat && c.toNat ≤ hi && (c.toNat - lo) % 2 == 0

def joinsNextBands : List (Nat × Nat) := [
  (43122, 43122), (68301, 68301), (68311, 68311), (68864, 68864)]

def hebrewBands : List (Nat × Nat) := [
  (1425, 1479), (1488, 1514), (1519, 1524), (64285, 64310), (64312, 64316), (64318, 64318),
  (64320, 64321), (64323, 64324), (64326, 64335)]

def neutralBands : List (Nat × Nat) := [
  (183, 183), (697, 698), (710, 719), (748, 748), (885, 885), (8204, 8205), (11823, 11823),
  (12539, 12539), (42623, 42623), (42775, 42783), (42888, 42888)]

def rightwardMarks : List Nat := [0xcbf, 0xcc6, 0x11a07, 0x11a08, 0x11c3f]

inductive Direction where
  | unknown
  | rightward
  | leftward
  | digit
  | arabicDigit
  | hyphen
  | mark
  | neutral
  deriving DecidableEq, Repr, Inhabited

/-- The direction of a character; unknown for younger editions of the standard. -/
def direction (c : Char) : Direction :=
  let n := c.toNat
  if c == '-' then .hyphen
  else if (0x30 ≤ n && n ≤ 0x39) || (0x6f0 ≤ n && n ≤ 0x6f9) then .digit
  else if (0x660 ≤ n && n ≤ 0x669) || (0x10d30 ≤ n && n ≤ 0x10d39) then .arabicDigit
  else if Text.inBands Text.Table.young.bands n then .unknown
  else if Text.inBands Text.Table.leftward.bands n then .leftward
  else if Text.inBands neutralBands n then .neutral
  else if Text.isFlatMark c && !rightwardMarks.contains n then .mark
  else .rightward

def vowelCancelPlace : Nat := 9

def isTransparent (c : Char) : Bool := Text.isFlatMark c || c.toNat == 0x1e94b

/-- Whether the next letter, past transparent marks, lies in one of the bands. -/
def meets (bands : List (List (Nat × Nat))) (cs : List Char) : Bool :=
  ((cs.dropWhile isTransparent).head?).any fun c => bands.any (Text.inBands · c.toNat)

/-- Whether a joiner may stand between what is before it, the nearest first, and what is after it. -/
def checkJoiner (c : Char) (before after : List Char) : Except LabelFault Unit :=
  if before.head?.any fun b => Text.inBands Text.Table.young.bands b.toNat then .error .malformed
  else if before.head?.any (fun b => Text.Normal.place b.toNat == vowelCancelPlace) then .ok ()
  else if c.toNat == 0x200c && meets [joinsNextBands, Text.Table.joinsBoth.bands] before &&
      meets [Text.Table.joinsBefore.bands, Text.Table.joinsBoth.bands] after then .ok ()
  else .error .context

def isArabicDigit (c : Char) : Bool := 0x660 ≤ c.toNat && c.toNat ≤ 0x669

def isEasternDigit (c : Char) : Bool := 0x6f0 ≤ c.toNat && c.toNat ≤ 0x6f9

/-- Whether a character that depends on its neighbours may stand between them. -/
def fitsBetween? (c : Char) (before after : List Char) : Option Bool :=
  let n := c.toNat
  let all := before ++ after
  if n == 0xb7 then some (before.head? == some 'l' && after.head? == some 'l')
  else if n == 0x375 then some (after.head?.any fun a => Text.inBands Text.Table.greek.bands a.toNat)
  else if n == 0x5f3 || n == 0x5f4 then
    some (before.head?.any fun b => Text.inBands hebrewBands b.toNat)
  else if n == 0x30fb then some (all.any fun a => a != c && Text.inBands Text.Table.japanese.bands a.toNat)
  else if isArabicDigit c then some (!all.any isEasternDigit)
  else if isEasternDigit c then some (!all.any isArabicDigit)
  else none

def checkChars (before : List Char) : List Char → Except LabelFault Unit
  | [] => .ok ()
  | c :: after => do
    if !isNameChar c && !Text.inBands Text.Table.young.bands c.toNat then
      if c.toNat == 0x200c || c.toNat == 0x200d then checkJoiner c before after
      else match fitsBetween? c before after with
        | some true => pure ()
        | some false => throw .context
        | none => throw .character
    checkChars (c :: before) after

/-- Whether a label with these directions ends well: with a letter or a digit, and maybe marks. -/
def endsWell (directions : List Direction) : Bool :=
  match directions.reverse.dropWhile (· == .mark) with
  | d :: _ => [.rightward, .leftward, .digit, .arabicDigit].contains d
  | [] => false

/-- Checks the directions of the characters of a label. -/
def checkDirections (cs : List Char) : Except LabelFault Unit :=
  let directions := cs.map direction
  if directions.contains .unknown then .error .direction
  else if !directions.any (fun d => d == .leftward || d == .arabicDigit) then .ok ()
  else match directions.head? with
    | some .leftward =>
      let isFine := !directions.contains .rightward && endsWell directions &&
        !(directions.contains .digit && directions.contains .arabicDigit)
      if isFine then .ok () else .error .direction
    | _ => .error .direction

def checkLabel (cs : List Char) : Except LabelFault Unit := do
  if cs.isEmpty || !Text.Normal.isComposed cs then throw .malformed
  if (cs.drop 2).take 2 == ['-', '-'] || cs.head? == some '-' || cs.getLast? == some '-' then
    throw .malformed
  if cs.head?.any Text.isMark then throw .malformed
  checkChars [] cs
  checkDirections cs

def labelMark : List Char := "xn--".toList

def readLabel (cs : List Char) : Except LabelFault (List Char) := do
  let label ←
    if labelMark.isPrefixOf cs then
      let coded := cs.drop labelMark.length
      if coded.isEmpty || coded.getLast? == some '-' then throw .malformed
      match Text.Punycode.read? coded with
      | some label => pure label
      | none => throw .malformed
    else pure cs
  checkLabel label
  return label

def maxLabel : Nat := 63

def asciiLabel (cs : List Char) : Except LabelFault (List Char) := do
  let isPlain := cs.all (·.toNat < 128)
  if isPlain then discard (readLabel cs) else checkLabel cs
  let out := if isPlain then cs else labelMark ++ Text.Punycode.encode cs
  if maxLabel < out.length then throw .malformed
  return out

end TriStore.Host
