import TriStore.Failure

/-!
Names with fields in braces, and forms for the time in them.
-/
namespace TriStore.Console.Stamp

def run (c : Char) (most : Nat) (cs : List Char) : Nat := min most (cs.takeWhile (· == c)).length

def tokenSize (cs : List Char) : Nat :=
  match cs with
  | [] => 0
  | c :: _ =>
    if ['H', 'h', 'm', 's', 'Z'].contains c then run c 2 cs
    else if ['M', 'D'].contains c then run c 4 cs
    else if c == 'S' then run c 6 cs
    else if c == 'Y' then (match run c 4 cs with | 4 => 4 | n => if 2 ≤ n then 2 else 0)
    else if c == 'd' then (match run c 4 cs with | 2 => 1 | n => n)
    else if c == 'z' then (if run c 2 cs == 2 then 2 else 0)
    else if ['A', 'X', 'x', 'E', 'Q'].contains c then 1
    else 0

def zonePart? (token : List Char) : Option (List Char) :=
  match token with
  | ['Z'] => some "+00:00".toList
  | ['Z', 'Z'] => some "+0000".toList
  | ['z', 'z'] => some "UTC".toList
  | _ => none

def isQuoted (inner : List Char) : Bool :=
  inner.isEmpty || inner == "!UTC".toList || tokenSize inner == inner.length

def fillTokens : Nat → List Char → Option (List Char)
  | 0, _ | _, [] => some []
  | fuel + 1, c :: rest =>
    let inner := rest.takeWhile (· != ']')
    if c == '[' && inner.length < rest.length && isQuoted inner then
      (fillTokens fuel (rest.drop (inner.length + 1))).map (inner ++ ·)
    else match tokenSize (c :: rest) with
      | 0 => (fillTokens fuel rest).map (c :: ·)
      | n => do return (← zonePart? ((c :: rest).take n)) ++ (← fillTokens fuel ((c :: rest).drop n))

/-- The letters after a percent sign that ask for the hour or the day. -/
def hourLetters : List Char := "aAbBcCdDeFgGhHIjklmMpPrRsSTuUVwWxXyYfEO_-0^#123456789+".toList

def fillPercents : List Char → Option (List Char)
  | [] => some []
  | '%' :: c :: rest =>
    if c == '%' then (fillPercents rest).map ('%' :: ·)
    else if c == 'n' then (fillPercents rest).map ('\n' :: ·)
    else if c == 't' then (fillPercents rest).map ('\t' :: ·)
    else if c == 'z' then (fillPercents rest).map ("+0000".toList ++ ·)
    else if c == 'Z' then (fillPercents rest).map ("UTC".toList ++ ·)
    else if hourLetters.contains c then none
    else (fillPercents rest).map fun cs => '%' :: c :: cs
  | c :: rest => (fillPercents rest).map (c :: ·)

def isTooFine : List Char → Bool
  | [] => false
  | cs@(_ :: rest) => (List.replicate 7 'S').isPrefixOf cs || isTooFine rest

def unmarked (form : List Char) : List Char :=
  if "!UTC".toList.isSuffixOf form then form.take (form.length - 4) else form

inductive Outcome where
  | text (cs : List Char)
  | untold
  | tooFine
  deriving Repr, Inhabited

def fill (form : List Char) : Outcome :=
  let body := unmarked form
  let outcome (r : Option (List Char)) : Outcome := r.elim .untold .text
  if body.isEmpty then .untold
  else if body.contains '%' then outcome (fillPercents body)
  else if isTooFine body then .tooFine
  else outcome (fillTokens body.length body)

end TriStore.Console.Stamp

namespace TriStore.Console.Template

def afterKey (cs : List Char) : List Char := cs.dropWhile (· != ']')

def fieldName : Nat → List Char → List Char → Except TemplateFault (List Char × Char × List Char)
  | 0, _, _ => .error .open
  | _ + 1, _, [] => .error .open
  | fuel + 1, acc, c :: rest =>
    if c == '{' then .error .nested
    else if c == '[' then
      let after := afterKey rest
      fieldName fuel ((rest.take (rest.length - after.length)).reverse ++ c :: acc) after
    else if c == '}' || c == ':' || c == '!' then .ok (acc.reverse, c, rest)
    else fieldName fuel (c :: acc) rest

def formOf : Nat → List Char → List Char → Except TemplateFault (List Char × List Char)
  | _, _, [] => .error .unmatched
  | depth, acc, c :: rest =>
    if c == '{' then formOf (depth + 1) (c :: acc) rest
    else if c == '}' then
      match depth with
      | 0 => .ok (acc.reverse, rest)
      | depth + 1 => formOf depth (c :: acc) rest
    else formOf depth (c :: acc) rest

structure Field where
  name : List Char
  conversion : Option Nat := none
  form : List Char := []
  deriving Repr, Inhabited

def fieldAfter (name : List Char) (sign : Char) (rest : List Char) : Except TemplateFault (Field × List Char) :=
  if sign == '}' then .ok ({ name }, rest)
  else if sign == ':' then (formOf 0 [] rest).map fun (form, rest) => ({ name, form }, rest)
  else match Text.points rest with
    | [] => .error .conversion
    | x :: _ =>
      match rest.drop (Text.ofPoint x).length with
      | [] => .error .unmatched
      | '}' :: more => .ok ({ name, conversion := some x }, more)
      | ':' :: more =>
        (formOf 0 [] more).map fun (form, rest) => ({ name, conversion := some x, form }, rest)
      | _ => .error .afterConversion

inductive Part where
  | char (c : Char)
  | field (f : Field)
  deriving Repr, Inhabited

def parts : Nat → List Char → Except TemplateFault (List Part)
  | 0, _ | _, [] => .ok []
  | fuel + 1, '{' :: '{' :: rest => (parts fuel rest).map (.char '{' :: ·)
  | fuel + 1, '}' :: '}' :: rest => (parts fuel rest).map (.char '}' :: ·)
  | _, '}' :: _ => .error .stray
  | _, ['{'] => .error .single
  | fuel + 1, '{' :: rest => do
    let (name, sign, rest) ← fieldName (rest.length + 1) [] rest
    let (f, rest) ← fieldAfter name sign rest
    return .field f :: (← parts fuel rest)
  | fuel + 1, c :: rest => (parts fuel rest).map (.char c :: ·)

def maxPlace : Nat := Nat.pow 2 63 - 1

def place? (cs : List Char) : Except TemplateFault (Option Nat) :=
  let digits := cs.takeWhile Text.isDigit
  let fits (n : Nat) : Bool := Text.natOfDigits (digits.take n) ≤ maxPlace
  if !(List.range (digits.length + 1)).all fits then .error .tooManyDigits
  else if cs.isEmpty || digits.length < cs.length then .ok none
  else .ok (some (Text.natOfDigits cs))

inductive Step where
  | attribute (name : List Char)
  | key (name : List Char)
  deriving Repr, Inhabited

def step (cs : List Char) : Except TemplateFault (Step × List Char) :=
  match cs with
  | '.' :: rest =>
    let name := rest.takeWhile fun c => c != '.' && c != '['
    if name.isEmpty then .error .emptyStep else .ok (.attribute name, rest.drop name.length)
  | '[' :: rest =>
    let name := rest.takeWhile (· != ']')
    if name.length == rest.length then .error .openKey
    else do
      let _ ← place? name
      if name.isEmpty then throw .emptyStep
      return (.key name, rest.drop (name.length + 1))
  | _ => .error .afterKey

/-- Goes the way that the name of a field goes from the time on. -/
def walk : Nat → Bool → List Char → Except Failure Unit
  | 0, _, _ | _, _, [] => .ok ()
  | fuel + 1, isPart, cs => do
    match step cs with
    | .error cause => throw (.badTemplate cause)
    | .ok (.key _, _) => throw .wrongKind
    | .ok (.attribute name, rest) =>
      if isPart || name != "datetime".toList then throw .unsuited
      walk fuel true rest

def find (name : List Char) : Except Failure Unit := do
  let first := name.takeWhile fun c => c != '.' && c != '['
  match place? first with
  | .error cause => throw (.badTemplate cause)
  | .ok place =>
    if first.isEmpty || place.isSome then throw (.badTemplate .positional)
    if first != "time".toList then throw .missingKey
    walk name.length false (name.drop first.length)

def fillParts : Nat → List Part → Except Failure (List Char)
  | _, [] => .ok []
  | depth, .char c :: rest => do return c :: (← fillParts depth rest)
  | depth, .field f :: rest => do
    find f.name
    match f.conversion with
    | some x => if !("rsa".toList.map (·.toNat)).contains x then throw (.badTemplate (.unknownConversion x))
    | none => pure ()
    let form ←
      if f.form.contains '{' then
        match depth with
        | 0 => throw (.badTemplate .tooDeep)
        | depth + 1 =>
          match parts f.form.length f.form with
          | .error cause => throw (.badTemplate cause)
          | .ok inner => fillParts depth inner
      else pure f.form
    match if f.conversion.isSome then .untold else Stamp.fill form with
    | .text cs => return cs ++ (← fillParts depth rest)
    | .tooFine => throw (.badTemplate .tooFine)
    | .untold =>
      let _ ← fillParts depth rest
      throw .missingKey
termination_by depth ps => (depth, ps.length)

def fill (cs : List Char) : Except Failure (List Char) :=
  match parts cs.length cs with
  | .error cause => .error (.badTemplate cause)
  | .ok ps => fillParts 1 ps

end TriStore.Console.Template
