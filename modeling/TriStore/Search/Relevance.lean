import TriStore.Element.Entry

/-!
How well an entry answers a query, and finding the one element that a name means.
-/
namespace TriStore

inductive MatchKind where
  | all
  | exact
  | namePrefix
  | namePart
  | description
  | path
  | tag
  | none
  deriving DecidableEq, Repr, Inhabited

def MatchKind.label : MatchKind → String
  | .all => "all"
  | .exact => "exact"
  | .namePrefix => "prefix"
  | .namePart => "partial"
  | .description => "description"
  | .path => "path"
  | .tag => "tag"
  | .none => ""

namespace Relevance

def isSeparator (c : Char) : Bool := Text.isBlank c || c == '-' || c == '_'

def tokenize (s : String) : List String :=
  (Text.words isSeparator (Text.lowerChars s.toList)).map String.ofList

structure Texts where
  name : String
  description : String
  path : String
  tags : List String
  deriving DecidableEq, Repr, Inhabited

def textOf : Value → Except Failure String
  | .text s => .ok (Text.lower s)
  | _ => .error .unsuited

def Texts.ofEntry (e : Entry) : Except Failure Texts := do
  e.checkName
  let description ← textOf e.description
  let path ← textOf e.path
  let tags ← e.tags.mapM textOf
  return ⟨e.key.name, description, path, tags⟩

/-- The points a word earns, place by place, with the kind of match where it counts as one. -/
def places (t : Texts) (token : String) : List (Nat × MatchKind) :=
  (if Text.includes t.name token then
      if t.name == token then [(10, .none)]
      else if token.toList.isPrefixOf t.name.toList then [(5, .namePrefix)]
      else [(2, .namePart)]
    else []) ++
  (if Text.includes t.description token then [(3, .description)] else []) ++
  (if Text.includes t.path token then [(1, .path)] else []) ++
  (if t.tags.any (Text.includes · token) then [(4, .tag)] else [])

def wholeBonus (t : Texts) (wanted : String) : Nat :=
  if !wanted.isEmpty && Text.includes t.name wanted then (if Text.size wanted > 3 then 15 else 10) else 0

def scoreTexts (t : Texts) (tokens : List String) (wanted : String) : Nat × MatchKind :=
  let found := tokens.flatMap (places t)
  let points := (found.map (·.1)).foldr (· + ·) 0 + wholeBonus t wanted
  if wanted == t.name then (points * 2, .exact)
  else (points, ((found.map (·.2)).find? (· != .none)).getD .none)

/-- The points of an entry for a query and the kind of match. A query without words matches every entry with
one point. -/
def score (e : Entry) (query : String) : Except Failure (Nat × MatchKind) :=
  match tokenize query with
  | [] => .ok (1, .all)
  | tokens => do
    let t ← Texts.ofEntry e
    return scoreTexts t tokens (Name.normalize query)

end Relevance

namespace Lookup

def loosely (wanted : String) (e : Entry) : Bool :=
  let name := e.key.name
  Text.includes name wanted || (Relevance.tokenize wanted).all fun t => (Relevance.tokenize name).contains t

def candidates (query : String) (entries : List Entry) : List Entry :=
  let wanted := Name.normalize query
  if wanted.isEmpty then []
  else
    let exact := entries.filter (·.key.name == wanted)
    if !exact.isEmpty then exact
    else (entries.filter (loosely wanted)).mergeSort fun a b => a.key.le b.key

def describe (entries : List Entry) : List String :=
  let names := entries.map (·.key.name)
  if names.eraseDups.length != names.length then entries.map (·.key.label) else names

def resolve (query : String) (entries : List Entry) (place : String) : Except Failure Entry :=
  match candidates query entries with
  | [] => .error (.notFound query place)
  | [e] => .ok e
  | several => .error (.ambiguous query (describe several))

/-- Entries taken from documents can be looked up only when all of them have names. -/
def checkNames (query : String) (entries : List Entry) : Except Failure Unit :=
  if (Name.normalize query).isEmpty then .ok () else entries.forM (·.checkName)

end Lookup

end TriStore
