import TriStore.Calendar.Basic
import TriStore.Text.Quoted

/-!
Reading a moment from its standard text: a day written with or without hyphens, or by its week; any
one character; then a time with or without colons, a fraction, and an offset.
-/
namespace TriStore.Moment
open Date (daysBeforeYear daysBeforeMonth)

def asciiDigit? (c : Char) : Option Nat :=
  if '0' ≤ c && c ≤ '9' then some (c.toNat - 48) else none

def takeDigits : Nat → Nat → List Char → Option (Nat × List Char)
  | 0, acc, cs => some (acc, cs)
  | _ + 1, _, [] => none
  | n + 1, acc, c :: cs => (asciiDigit? c).bind fun d => takeDigits n (acc * 10 + d) cs

def dayLength (cs : List Char) : Nat :=
  let char (i : Nat) : Char := cs.getD i (Char.ofNat 0)
  let n := cs.length
  let isDigitAt (i : Nat) : Bool := (asciiDigit? (char i)).isSome
  if n == 7 then 7
  else if char 4 == '-' then
    if char 5 == 'W' then
      if n > 8 && char 8 == '-' then
        if n == 9 then 0 else if n > 10 && isDigitAt 10 then 8 else 10
      else 8
    else 10
  else if char 4 == 'W' then
    let pos := 7 + ((cs.drop 7).takeWhile fun c => (asciiDigit? c).isSome).length
    if pos < 9 then pos else if pos % 2 == 0 then 7 else 8
  else 8

/-- The day with a given number, the first of January of year one having number one. -/
def ofOrdinal (n : Nat) : Nat × Nat × Nat :=
  let guess := n / 365 + 1
  let year := ((List.range (guess + 1)).reverse.find? fun y => 0 < y && daysBeforeYear y < n).getD 1
  let inYear := n - daysBeforeYear year
  let month := ((List.range 13).reverse.find? fun m => 0 < m && daysBeforeMonth year m < inYear).getD 1
  (year, month, inYear - daysBeforeMonth year month)

/-- The Monday of the first week of a year: the week that holds its first Thursday. -/
def firstMonday (year : Nat) : Int :=
  let first : Int := daysBeforeYear year + 1
  let weekday := (first + 6) % 7
  let monday := first - weekday
  if weekday > 3 then monday + 7 else monday

def ofWeek? (year week weekday : Nat) : Option (Nat × Nat × Nat) :=
  let first := (daysBeforeYear year + 1) % 7
  let long := 0 < year && (first == 4 || (first == 3 && Date.isLeap year))
  if !((0 < week && week < 53) || (week == 53 && long)) then none
  else if !(0 < weekday && weekday < 8) then none
  else if year == 0 then some (1, 0, 0)
  else some (ofOrdinal (firstMonday year + ((week - 1) * 7 + (weekday - 1) : Nat)).toNat)

def readDay? (size : Nat) (cs : List Char) : Option (Nat × Nat × Nat) :=
  (takeDigits 4 0 cs).bind fun (year, rest) =>
    let dashed := rest.head? == some '-'
    match if dashed then rest.tail else rest with
    | 'W' :: rest =>
      (takeDigits 2 0 rest).bind fun (week, rest) =>
        if cs.length - rest.length < size then
          let next := if dashed then (if rest.head? == some '-' then some rest.tail else none) else some rest
          next.bind fun rest => (takeDigits 1 0 rest).bind fun (weekday, _) => ofWeek? year week weekday
        else ofWeek? year week 1
    | rest =>
      (takeDigits 2 0 rest).bind fun (month, rest) =>
        let next := if dashed then (if rest.head? == some '-' then some rest.tail else none) else some rest
        next.bind fun rest => (takeDigits 2 0 rest).map fun (day, _) => (year, month, day)

structure Clock where
  hour : Nat := 0
  minute : Nat := 0
  second : Nat := 0
  micro : Nat := 0
  leftover : Bool := false

def Clock.set (t : Clock) (i n : Nat) : Clock :=
  if i == 0 then { t with hour := n } else if i == 1 then { t with minute := n } else { t with second := n }

/-- A fraction of at least one digit; digits after the sixth are dropped. -/
def readFraction? (followed : Bool) (t : Clock) (cs : List Char) : Option Clock :=
  let count := min 6 cs.length
  (takeDigits count 0 cs).map fun (n, rest) =>
    let rest := rest.dropWhile fun c => (asciiDigit? c).isSome
    { t with micro := n * Nat.pow 10 (6 - count), leftover := followed || !rest.isEmpty }

/-- Reads the fields from number `i` on; `colons`: colons stand between them; `followed`: an offset comes
after. -/
def readFields? (followed : Bool) : Nat → Nat → Bool → Clock → List Char → Option Clock
  | 0, _, _, t, cs => readFraction? followed t cs
  | n + 1, i, colons, t, cs =>
    (takeDigits 2 0 cs).bind fun (v, rest) =>
      let t := t.set i v
      match rest with
      | [] => some { t with leftover := followed }
      | [c] => if c.toNat < 128 then some { t with leftover := true } else none
      | c :: more =>
        let colons := if i == 0 then c == ':' else colons
        if colons && c == ':' then readFields? followed n (i + 1) colons t more
        else if c == '.' || c == ',' then readFraction? followed t more
        else if !colons then readFields? followed n (i + 1) colons t rest
        else none

def isOffsetMark (c : Char) : Bool := c == '+' || c == '-' || c == 'Z'

def offsetOf (negative : Bool) (o : Clock) : Int :=
  let seconds := o.hour * 3600 + o.minute * 60 + o.second
  let n : Int := if seconds == 0 then 0 else (seconds * 1000000 + o.micro : Nat)
  if negative then -n else n

def readTime? (cs : List Char) : Option (Clock × Option Int) :=
  let front := cs.takeWhile (!isOffsetMark ·)
  let back := cs.dropWhile (!isOffsetMark ·)
  (readFields? (!back.isEmpty) 3 0 true {} front).bind fun t =>
    match back with
    | [] => if t.leftover then none else some (t, none)
    | 'Z' :: rest => if rest.isEmpty then some (t, some 0) else none
    | mark :: rest =>
      (readFields? false 3 0 true {} rest).bind fun o =>
        if o.leftover then none else some (t, some (offsetOf (mark == '-') o))

def ofIso (s : String) : Except DateError Moment :=
  let cs := s.toList.filter (!Text.isSecond ·)
  let size := dayLength cs
  let bad : DateError := .malformed (Text.quoted s)
  match (if size == 0 then none else readDay? size (cs.take size)) with
  | none => .error bad
  | some (year, month, day) =>
    let time := if cs.length ≤ size then some (({} : Clock), none) else readTime? (cs.drop (size + 1))
    match time with
    | none => .error bad
    | some (t, offset) => do
      let offset ← match offset with
        | none => pure none
        | some n => (checkOffset n).map some
      let date ← Date.make year month day
      make date t.hour t.minute t.second t.micro offset

def dayOfIso (s : String) : Except DateError Date :=
  let cs := s.toList.filter (!Text.isSecond ·)
  match if [7, 8, 10].contains (Text.utf8 s).size then readDay? cs.length cs else none with
  | none => .error (.malformed (Text.quoted s))
  | some (year, month, day) => Date.make year month day

end TriStore.Moment
