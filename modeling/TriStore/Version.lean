import TriStore.Failure

/-!
Versions of elements: up to three numbers at the front of a text.
-/
namespace TriStore

structure Version where
  major : Nat
  minor : Nat
  patch : Nat
  deriving DecidableEq, Repr, Inhabited

namespace Version

def dotted (cs : List Char) : Option (Nat × List Char) :=
  match cs with
  | '.' :: rest =>
    let ds := rest.takeWhile Text.isDigit
    if ds.isEmpty then none else some (Text.natOfDigits ds, rest.dropWhile Text.isDigit)
  | _ => none

def ofChars? (cs : List Char) : Option Version :=
  let body := match cs with
    | 'v' :: rest => rest
    | _ => cs
  let ds := body.takeWhile Text.isDigit
  if ds.isEmpty then none
  else
    let major := Text.natOfDigits ds
    let rest := body.dropWhile Text.isDigit
    match dotted rest with
    | none => some ⟨major, 0, 0⟩
    | some (minor, rest) => some ⟨major, minor, ((dotted rest).map (·.1)).getD 0⟩

def parse? (s : String) : Option Version := ofChars? (Text.trim Text.isBlank s.toList)

def digitsOf (cs : List Char) : List (List Char) :=
  let body := match cs with
    | 'v' :: rest => rest
    | _ => cs
  let more (cs : List Char) : List Char := match cs with
    | '.' :: rest => rest.takeWhile Text.isDigit
    | _ => []
  let major := body.takeWhile Text.isDigit
  let minor := more (body.drop major.length)
  if minor.isEmpty then [major]
  else [major, minor, more (body.drop (major.length + 1 + minor.length))]

def check (s : String) : Except Failure Unit :=
  (digitsOf (Text.trim Text.isBlank s.toList)).forM fun ds =>
    if maxDigits < ds.length then .error (.tooManyDigits (some ds.length)) else .ok ()

def compare (a b : Version) : Ordering :=
  (Ord.compare a.major b.major).then ((Ord.compare a.minor b.minor).then (Ord.compare a.patch b.patch))

end Version

def compareVersions (a b : String) : Ordering :=
  match Version.parse? a, Version.parse? b with
  | none, none => .eq
  | none, some _ => .lt
  | some _, none => .gt
  | some x, some y => x.compare y

def isNewer (a b : String) : Bool :=
  match Version.parse? a, Version.parse? b with
  | some x, some y => x.compare y == .gt
  | _, _ => false

end TriStore
