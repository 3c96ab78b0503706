import TriStore.Text.Basic

/-!
Days of the calendar and moments of a day, with the texts they are written as.
-/
namespace TriStore

structure Date where
  year : Nat
  month : Nat
  day : Nat
  deriving DecidableEq, Repr, Inhabited

/-- A time on a day. `offset` is the distance from universal time in microseconds. -/
structure Moment where
  date : Date
  hour : Nat
  minute : Nat
  second : Nat
  micro : Nat
  offset : Option Int
  deriving DecidableEq, Repr, Inhabited

inductive DateError where
  | malformed (text : String)
  | year (n : Nat)
  | month
  | day
  | hour
  | minute
  | second
  | offset (micros : Int)
  deriving DecidableEq, Repr, Inhabited

namespace Date

def isLeap (year : Nat) : Bool := year % 4 == 0 && (year % 100 != 0 || year % 400 == 0)

def daysIn (year month : Nat) : Nat :=
  if month == 2 then (if isLeap year then 29 else 28)
  else if [4, 6, 9, 11].contains month then 30
  else 31

def make (year month day : Nat) : Except DateError Date :=
  if year < 1 || 9999 < year then .error (.year year)
  else if month < 1 || 12 < month then .error .month
  else if day < 1 || daysIn year month < day then .error .day
  else .ok ⟨year, month, day⟩

def daysBeforeYear (year : Nat) : Nat :=
  let y := year - 1
  y * 365 + y / 4 - y / 100 + y / 400

def daysBeforeMonth (year month : Nat) : Nat :=
  ((List.range (month - 1)).map fun m => daysIn year (m + 1)).foldr (· + ·) 0

def ordinal (d : Date) : Nat := daysBeforeYear d.year + daysBeforeMonth d.year d.month + d.day

def toText (d : Date) : String :=
  Text.padded 4 d.year ++ "-" ++ Text.padded 2 d.month ++ "-" ++ Text.padded 2 d.day

end Date

namespace Moment

def dayMicros : Int := 86400000000

def make (date : Date) (hour minute second micro : Nat) (offset : Option Int) : Except DateError Moment :=
  if 24 ≤ hour then .error .hour
  else if 60 ≤ minute then .error .minute
  else if 60 ≤ second then .error .second
  else .ok ⟨date, hour, minute, second, micro, offset⟩

def micros (t : Moment) : Int :=
  (t.date.ordinal : Int) * dayMicros + (((t.hour * 60 + t.minute) * 60 + t.second) * 1000000 + t.micro : Nat)

/-- Moments with offsets are compared in universal time, and those without by their clocks. -/
def isSameAs (a b : Moment) : Bool :=
  match a.offset, b.offset with
  | some x, some y => a.micros - x == b.micros - y
  | none, none => a.micros == b.micros
  | _, _ => false

def checkOffset (micros : Int) : Except DateError Int :=
  if micros ≤ -dayMicros || dayMicros ≤ micros then .error (.offset micros) else .ok micros

def offsetText (micros : Int) : String :=
  let n := micros.natAbs
  let seconds := n / 1000000
  (if micros < 0 then "-" else "+") ++ Text.padded 2 (seconds / 3600) ++ ":" ++
    Text.padded 2 (seconds / 60 % 60) ++
    (if n % 60000000 == 0 then ""
      else ":" ++ Text.padded 2 (seconds % 60) ++
        (if n % 1000000 == 0 then "" else "." ++ Text.padded 6 (n % 1000000)))

def toText (sep : String) (t : Moment) : String :=
  t.date.toText ++ sep ++ Text.padded 2 t.hour ++ ":" ++ Text.padded 2 t.minute ++ ":" ++
    Text.padded 2 t.second ++ (if t.micro == 0 then "" else "." ++ Text.padded 6 t.micro) ++
    (t.offset.map offsetText).getD ""

def spanText (micros : Int) : String :=
  let days := micros / dayMicros
  let rest := (micros % dayMicros).natAbs
  let parts :=
    (if days == 0 then [] else ["days=" ++ Text.ofInt days]) ++
    (if rest / 1000000 == 0 then [] else ["seconds=" ++ Text.ofNat (rest / 1000000)]) ++
    (if rest % 1000000 == 0 then [] else ["microseconds=" ++ Text.ofNat (rest % 1000000)])
  "datetime.timedelta(" ++ (if parts.isEmpty then "0" else Text.join ", " parts) ++ ")"

end Moment

def DateError.message : DateError → String
  | .malformed text => "Invalid isoformat string: " ++ text
  | .year n => "year " ++ Text.ofNat n ++ " is out of range"
  | .month => "month must be in 1..12"
  | .day => "day is out of range for month"
  | .hour => "hour must be in 0..23"
  | .minute => "minute must be in 0..59"
  | .second => "second must be in 0..59"
  | .offset micros =>
    "offset must be a timedelta strictly between -timedelta(hours=24) and timedelta(hours=24), not " ++
      Moment.spanText micros ++ "."

end TriStore
