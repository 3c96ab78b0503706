import TriStore.Text.Lower
import TriStore.Yaml.Cursor

/-!
The types of plain scalars: numbers in base two, eight, ten, sixteen and sixty, with underscores
anywhere among the digits, dates and times among them.
-/
namespace TriStore.Yaml

namespace Number

def unsigned (cs : List Char) : Option (Bool × List Char) :=
  match cs.filter (· != '_') with
  | '-' :: rest => some (true, rest)
  | '+' :: rest => some (false, rest)
  | [] => none
  | cs => some (false, cs)

def digit? (base : Nat) (c : Char) : Option Nat :=
  let value := match Text.digitValue? c with
    | some n => some n
    | none =>
      if 'a' ≤ c && c ≤ 'f' then some (c.toNat - 87)
      else if 'A' ≤ c && c ≤ 'F' then some (c.toNat - 55)
      else none
  value.filter (· < base)

def dropMark (base : Nat) (cs : List Char) : List Char :=
  match cs with
  | '0' :: m :: rest =>
    if (base == 2 && (m == 'b' || m == 'B')) || (base == 8 && (m == 'o' || m == 'O')) ||
        (base == 16 && (m == 'x' || m == 'X')) then rest
    else cs
  | cs => cs

def isGap (c : Char) : Bool := Text.isBlank c && !(28 ≤ c.toNat && c.toNat < 32)

def signed (cs : List Char) : Bool × List Char :=
  match Text.trim isGap cs with
  | '-' :: rest => (true, rest)
  | '+' :: rest => (false, rest)
  | rest => (false, rest)

def shownSize : Nat := 200

def noWhole (base : Nat) (cs : List Char) : Defect :=
  .badNumber ("invalid literal for int() with base " ++ Text.ofNat base ++ ": " ++
    String.ofList ((Text.quoted (String.ofList cs)).toList.take shownSize))

/-- The whole number a text spells in a base, with a sign and blanks around it. -/
def whole (base : Nat) (cs : List Char) : Except Fault Int :=
  let (negative, ds) := signed cs
  let ds := dropMark base ds
  let count := (ds.takeWhile fun d => (digit? base d).isSome).length
  if base == 10 && maxDigits < count then .error (.failure (.tooManyDigits (some count)))
  else if ds.isEmpty || count < ds.length then .error (.failure (noWhole base cs))
  else
    let n : Int := ds.foldl (fun n d => n * base + (digit? base d).getD 0) (0 : Nat)
    .ok (if negative then -n else n)

def sixties (parts : List Int) : Int := parts.foldl (fun n p => n * 60 + p) 0

def int (s : String) : Except Fault Int := do
  let some (negative, cs) := unsigned s.toList | throw (.failure .nothingThere)
  let n ← match cs with
    | [] => throw (.failure .nothingThere)
    | ['0'] => pure 0
    | '0' :: 'b' :: rest => whole 2 rest
    | '0' :: 'x' :: rest => whole 16 rest
    | '0' :: _ => whole 8 cs
    | cs =>
      if cs.contains ':' then do
        let parts ← (Text.pieces (· == ':') cs).mapM (whole 10)
        pure (sixties parts)
      else whole 10 cs
  return if negative then -n else n

def exponent (cs : List Char) : Option Int :=
  match cs with
  | [] => some 0
  | e :: rest =>
    if e != 'e' && e != 'E' then none
    else
      let (negative, ds) := match rest with
        | '-' :: ds => (true, ds)
        | '+' :: ds => (false, ds)
        | ds => (false, ds)
      if !ds.isEmpty && ds.all Text.isDigit then
        let n : Int := Text.natOfDigits ds
        some (if negative then -n else n)
      else none

def decimal? (negative : Bool) (cs : List Char) : Option Binary64 :=
  let front := cs.takeWhile Text.isDigit
  let rest := cs.dropWhile Text.isDigit
  let (frac, rest) := match rest with
    | '.' :: more => (more.takeWhile Text.isDigit, more.dropWhile Text.isDigit)
    | rest => ([], rest)
  if front.isEmpty && frac.isEmpty then none
  else (exponent rest).map fun e =>
    Binary64.ofDecimal negative (Text.natOfDigits (front ++ frac)) (e - frac.length)

def fraction (cs : List Char) : Except Fault Binary64 :=
  let (negative, rest) := signed cs
  let word := String.ofList (rest.map Char.toLower)
  if word == "inf" || word == "infinity" then .ok (.infinite negative)
  else if word == "nan" then .ok .nan
  else match decimal? negative rest with
    | some x => .ok x
    | none =>
      .error (.failure (.badNumber ("could not convert string to float: " ++ Text.quoted (String.ofList cs))))

/-- The sum of the parts, each times its power of sixty, the last part first. -/
def sexagesimal (parts : List Binary64) : Except Fault Binary64 := do
  let (sum, _) ← parts.reverse.foldlM
    (fun (acc : Binary64 × Int) p =>
      match Binary64.ofInt acc.2 with
      | .infinite _ => .error (.failure .overflow)
      | power => .ok (acc.1.add (p.mul power), acc.2 * 60))
    (Binary64.zero false, 1)
  return sum

def isUndefined (s : String) : Bool :=
  match unsigned (Text.lowerChars (s.toList.filter (· != '_'))) with
  | some (_, cs) => cs == ".nan".toList
  | none => false

def float (s : String) : Except Fault Binary64 := do
  let some (negative, cs) := unsigned (Text.lowerChars (s.toList.filter (· != '_')))
    | throw (.failure .nothingThere)
  let x ← if cs == ".inf".toList then pure (.infinite false)
    else if cs == ".nan".toList then pure .nan
    else if cs.contains ':' then do
      let parts ← (Text.pieces (· == ':') cs).mapM fraction
      sexagesimal parts
    else fraction cs
  return if negative then x.neg else x

end Number

structure WrittenTime where
  hour : Nat
  minute : Nat
  second : Nat
  fraction : List Char
  zone : Option (Nat × Bool)

structure WrittenStamp where
  year : Nat
  month : Nat
  day : Nat
  wide : Bool
  time : Option WrittenTime

namespace WrittenStamp

def digit? (c : Char) : Option Nat := if '0' ≤ c && c ≤ '9' then some (c.toNat - 48) else none

def isDigit (c : Char) : Bool := (digit? c).isSome

def digits (least most : Nat) (cs : List Char) : Option (Nat × List Char) :=
  let ds := (cs.take most).takeWhile isDigit
  if ds.length < least then none
  else some (ds.foldl (fun n d => n * 10 + (digit? d).getD 0) 0, cs.drop ds.length)

def after (ch : Char) : List Char → Option (List Char)
  | c :: cs => if c == ch then some cs else none
  | [] => none

def isGap (c : Char) : Bool := c == ' ' || c == '\t'

def readZone (cs : List Char) : Option (Option (Nat × Bool)) :=
  if cs.isEmpty then some none
  else match cs.dropWhile isGap with
    | ['Z'] => some (some (0, false))
    | sign :: rest =>
      if sign == '+' || sign == '-' then do
        let (hours, rest) ← digits 1 2 rest
        let minutes ← match rest with
          | [] => some 0
          | ':' :: rest => do
            let (minutes, rest) ← digits 2 2 rest
            if rest.isEmpty then some minutes else none
          | _ => none
        return some (hours * 60 + minutes, sign == '-')
      else none
    | [] => none

def readTime (cs : List Char) : Option WrittenTime := do
  let (hour, cs) ← digits 1 2 cs
  let (minute, cs) ← digits 2 2 (← after ':' cs)
  let (second, cs) ← digits 2 2 (← after ':' cs)
  let (fraction, cs) := match cs with
    | '.' :: rest => (rest.takeWhile isDigit, rest.dropWhile isDigit)
    | cs => ([], cs)
  return { hour, minute, second, fraction, zone := ← readZone cs }

def beforeTime : List Char → Option (List Char)
  | c :: cs =>
    if c == 'T' || c == 't' then some cs
    else if isGap c then some (cs.dropWhile isGap)
    else none
  | [] => none

def dropBreak (cs : List Char) : List Char := if cs.getLast? == some '\n' then cs.dropLast else cs

def ofChars? (cs : List Char) : Option WrittenStamp := do
  let (year, cs) ← digits 4 4 (dropBreak cs)
  let cs ← after '-' cs
  let (month, rest) ← digits 1 2 cs
  let monthSize := cs.length - rest.length
  let cs ← after '-' rest
  let (day, rest) ← digits 1 2 cs
  let wide := monthSize == 2 && cs.length - rest.length == 2
  if rest.isEmpty then return { year, month, day, wide, time := none }
  else return { year, month, day, wide, time := some (← readTime (← beforeTime rest)) }

def isPlain (s : String) : Bool :=
  match ofChars? s.toList with
  | none => false
  | some w => w.wide || w.time.isSome

def micros (fraction : List Char) : Nat :=
  let ds := fraction.take 6
  ds.foldl (fun n d => n * 10 + (digit? d).getD 0) 0 * Nat.pow 10 (6 - ds.length)

def orFault {α : Type} : Except DateError α → Except Fault α
  | .ok a => .ok a
  | .error e => .error (.failure (.badDate e))

/-- The date or the moment that is written; one that the calendar lacks is refused. -/
def value (w : WrittenStamp) : Except Fault (Date ⊕ Moment) :=
  match w.time with
  | none => do
    let d ← orFault (Date.make w.year w.month w.day)
    return .inl d
  | some t => do
    let offset ← match t.zone with
      | none => pure none
      | some (minutes, back) =>
        let n : Int := minutes * 60000000
        (orFault (Moment.checkOffset (if back then -n else n))).map some
    let d ← orFault (Date.make w.year w.month w.day)
    let m ← orFault (Moment.make d t.hour t.minute t.second (micros t.fraction) offset)
    return .inr m

end WrittenStamp

inductive Tag where
  | null
  | bool
  | int
  | float
  | text
  | binary
  | timestamp
  | merge
  | valueKey
  | seq
  | map
  | set
  | omap
  | pairs
  | unknown
  deriving DecidableEq, Repr, Inhabited

def Tag.names : List (String × Tag) := [
  ("null", .null), ("bool", .bool), ("int", .int), ("float", .float), ("str", .text),
  ("binary", .binary), ("timestamp", .timestamp), ("merge", .merge), ("value", .valueKey),
  ("seq", .seq), ("map", .map), ("set", .set), ("omap", .omap), ("pairs", .pairs)]

def Tag.ofFull (s : String) : Tag :=
  ((names.find? fun n => "tag:yaml.org,2002:" ++ n.1 == s).map (·.2)).getD .unknown

namespace Plain

def isDecimal (c : Char) : Bool := '0' ≤ c && c ≤ '9'

def isOctal (c : Char) : Bool := '0' ≤ c && c ≤ '7'

def isHex (c : Char) : Bool := isDecimal c || ('a' ≤ c && c ≤ 'f') || ('A' ≤ c && c ≤ 'F')

def grouped (p : Char → Bool) (cs : List Char) : Bool :=
  !cs.isEmpty && cs.all fun c => p c || c == '_'

def dropSign : List Char → List Char
  | '-' :: cs | '+' :: cs => cs
  | cs => cs

def isNull (s : String) : Bool := ["~", "null", "Null", "NULL", ""].contains s

def isBool (s : String) : Bool :=
  ["yes", "Yes", "YES", "no", "No", "NO", "true", "True", "TRUE", "false", "False", "FALSE", "on",
    "On", "ON", "off", "Off", "OFF"].contains s

def isSixtieth : List Char → Bool
  | [d] => isDecimal d
  | [t, d] => '0' ≤ t && t ≤ '5' && isDecimal d
  | _ => false

def sixtieths (cs : List Char) : List (List Char) := (Text.pieces (· == ':') cs).drop 1

def firstPart (cs : List Char) : List Char := cs.takeWhile (· != ':')

def isInt (s : String) : Bool :=
  match dropSign s.toList with
  | '0' :: 'b' :: cs => grouped (fun c => c == '0' || c == '1') cs
  | '0' :: 'x' :: cs => grouped isHex cs
  | ['0'] => true
  | '0' :: cs => grouped isOctal cs
  | d :: cs =>
    if isDecimal d then
      let head := firstPart cs
      head.all (fun c => isDecimal c || c == '_') &&
        (head.length == cs.length || ((sixtieths cs).all isSixtieth && !(sixtieths cs).isEmpty))
    else false
  | [] => false

def isExponent : List Char → Bool
  | [] => true
  | e :: sign :: ds =>
    (e == 'e' || e == 'E') && (sign == '-' || sign == '+') && !ds.isEmpty && ds.all isDecimal
  | _ => false

def isInfinity (cs : List Char) : Bool :=
  [".inf".toList, ".Inf".toList, ".INF".toList].contains (dropSign cs)

def isNan (cs : List Char) : Bool := [".nan".toList, ".NaN".toList, ".NAN".toList].contains cs

def isDigitOrGap (c : Char) : Bool := isDecimal c || c == '_'

def isPointed (cs : List Char) : Bool :=
  match dropSign cs with
  | d :: rest =>
    isDecimal d &&
      match rest.dropWhile isDigitOrGap with
      | '.' :: frac => isExponent (frac.dropWhile isDigitOrGap)
      | _ => false
  | [] => false

def isBarePointed : List Char → Bool
  | '.' :: d :: frac => isDecimal d && isExponent (frac.dropWhile isDigitOrGap)
  | _ => false

def isSexagesimal (cs : List Char) : Bool :=
  let body := dropSign cs
  let front := body.takeWhile (· != '.')
  match body.dropWhile (· != '.') with
  | '.' :: frac =>
    let head := firstPart front
    (head.headD 'x' |> isDecimal) && head.all isDigitOrGap && !(sixtieths front).isEmpty &&
      (sixtieths front).all isSixtieth && frac.all isDigitOrGap
  | _ => false

def isFloat (s : String) : Bool :=
  let cs := s.toList
  isPointed cs || isBarePointed cs || isSexagesimal cs || isInfinity cs || isNan cs

def isMark (s : String) : Bool := ["!", "&", "*"].contains s

def tag (text : String) : Tag :=
  let s := match WrittenStamp.dropBreak text.toList with
    | [] => text
    | cs => String.ofList cs
  if isBool s then .bool
  else if isFloat s then .float
  else if isInt s then .int
  else if s == "<<" then .merge
  else if isNull s then .null
  else if WrittenStamp.isPlain s then .timestamp
  else if s == "=" then .valueKey
  else if isMark s then .unknown
  else .text

end Plain

end TriStore.Yaml
