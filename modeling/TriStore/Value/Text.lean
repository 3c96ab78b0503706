import TriStore.Failure
import TriStore.Value.Basic

/-!
Values as text. `literal` is the form used in messages, with texts between quotes.
-/
namespace TriStore.Value

def dateLiteral (d : Date) : String :=
  "datetime.date(" ++ Text.join ", " ([d.year, d.month, d.day].map Text.ofNat) ++ ")"

/-- Seconds and microseconds are left out when they are zero. -/
def momentLiteral (t : Moment) : String :=
  let tail := if t.micro != 0 then [t.second, t.micro] else if t.second != 0 then [t.second] else []
  let numbers := [t.date.year, t.date.month, t.date.day, t.hour, t.minute] ++ tail
  let zone := match t.offset with
    | none => []
    | some 0 => ["tzinfo=datetime.timezone.utc"]
    | some n => ["tzinfo=datetime.timezone(" ++ Moment.spanText n ++ ")"]
  "datetime.datetime(" ++ Text.join ", " (numbers.map Text.ofNat ++ zone) ++ ")"

mutual

/-- The form for messages; `around` has what stands for a reference to each collection around. -/
def literalIn (around : List String) : Value → String
  | .null => "None"
  | .bool b => if b then "True" else "False"
  | .int n => Text.ofInt n
  | .float x => x.toText
  | .text s => Text.quoted s
  | .bytes bs => Text.quotedBytes bs
  | .date d => dateLiteral d
  | .moment t => momentLiteral t
  | .source s => "<BackendSource." ++ s.constantName ++ ": " ++ Text.quoted s.label ++ ">"
  | .list vs => "[" ++ Text.join ", " (literals ("[...]" :: around) vs) ++ "]"
  | .tuple [v] => "(" ++ literalIn ("(...)" :: around) v ++ ",)"
  | .tuple vs => "(" ++ Text.join ", " (literals ("(...)" :: around) vs) ++ ")"
  | .set [] => "set()"
  | .set vs => "\x7b" ++ Text.join ", " (literals ("set(...)" :: around) vs) ++ "\x7d"
  | .map kvs => "\x7b" ++ Text.join ", " (pairLiterals ("\x7b...\x7d" :: around) kvs) ++ "\x7d"
  | .again up => around.getD up "..."
  | .other _ shown _ => shown

def literals (around : List String) : List Value → List String
  | [] => []
  | v :: vs => literalIn around v :: literals around vs

def pairLiterals (around : List String) : List (Value × Value) → List String
  | [] => []
  | (k, v) :: kvs => (literalIn around k ++ ": " ++ literalIn around v) :: pairLiterals around kvs

end

def literal (v : Value) : String := literalIn [] v

mutual

def isWritable : Value → Bool
  | .int n => n.natAbs < Nat.pow 10 maxDigits
  | .list vs | .tuple vs | .set vs => areWritable vs
  | .map kvs => pairsAreWritable kvs
  | _ => true

def areWritable : List Value → Bool
  | [] => true
  | v :: vs => isWritable v && areWritable vs

def pairsAreWritable : List (Value × Value) → Bool
  | [] => true
  | (k, v) :: kvs => isWritable k && isWritable v && pairsAreWritable kvs

end

def checkWritable (v : Value) : Except Failure Unit :=
  if v.isWritable then .ok () else .error (.tooManyDigits none)

def display : Value → String
  | .text s => s
  | .date d => d.toText
  | .moment t => t.toText " "
  | .source s => "BackendSource." ++ s.constantName
  | v => v.literal

def written (v : Value) : Except Failure String := do
  v.checkWritable
  return v.display

end TriStore.Value
