import TriStore.Element.Header

/-!
A store in memory. It counts its calls, may take its time over each, and can be made to fail. New
elements are drafted as text.
-/
namespace TriStore

structure Draft where
  name : Value
  version : Value := .null
  description : Value := .null
  tags : Value := .null
  body : Value := .null
  localOnly : Value := .null
  deriving Repr, Inhabited

namespace Draft

def line (v : Value) (text : String → String) : List String :=
  if v.isGiven then [text v.display] else []

def textOnly : Value → Except Failure String
  | .text s => .ok s
  | _ => .error .wrongKind

def tagLine (v : Value) : Except Failure (List String) :=
  if !v.isGiven then .ok []
  else match v.members? with
    | none => .error .wrongKind
    | some vs => do
      let tags ← vs.mapM textOnly
      return ["tags: [" ++ Text.join ", " tags ++ "]"]

def render (d : Draft) : Except Failure String := do
  let tags ← tagLine d.tags
  let header := ["name: " ++ d.name.display] ++ line d.version (fun s => "version: '" ++ s ++ "'") ++
    line d.description ("description: " ++ ·) ++ tags ++ line d.localOnly (fun _ => "local_only: true")
  let body ← if d.body.isGiven then textOnly d.body else pure ("# " ++ d.name.display)
  return Text.join "\n" (["---"] ++ header ++ ["---", "", body, ""])

def fieldNames : List String := ["name", "version", "description", "tags", "body", "local_only"]

def ofFields (fields : List (String × Value)) : Except Failure Draft := do
  if fields.any fun f => !fieldNames.contains f.1 then throw .wrongKind
  let field (name : String) : Value := ((fields.find? (·.1 == name)).map (·.2)).getD .null
  if !fields.any (·.1 == "name") then throw .wrongKind
  return {
    name := field "name", version := field "version", description := field "description",
    tags := field "tags", body := field "body", localOnly := field "local_only" }

end Draft

structure Calls where
  list : Nat := 0
  fetch : Nat := 0
  write : Nat := 0
  delete : Nat := 0
  deriving DecidableEq, Repr, Inhabited

def Calls.toValue (c : Calls) : Value :=
  .record [
    ("list", .int c.list), ("fetch", .int c.fetch), ("write", .int c.write), ("delete", .int c.delete)]

structure Shelf where
  source : Source
  writable : Bool
  /-- Seconds that every call takes; a delay that is not possible shows when a call is made. -/
  delay : Except Failure Rat := .ok 0
  failure : Option Failure := none
  contents : List (Key × String) := []
  calls : Calls := {}
  deriving Inhabited

namespace Shelf

def longestDelay : Rat := mkRat (Int.pow 2 63) 1000000000

def delayOf (v : Value) : Except Failure Rat :=
  if !v.isGiven then .ok 0
  else match v.magnitude? with
    | none => .error .wrongKind
    | some .undefined => .error .undefinedWait
    | some .below | some .above => .error .overflow
    | some (.value q) =>
      if longestDelay ≤ q || q < -longestDelay then .error .overflow
      else if q < 0 then .error .negativePause
      else .ok q

def get? (s : Shelf) (key : Key) : Option String := s.contents.lookup key

def putIn (key : Key) (content : String) : List (Key × String) → List (Key × String)
  | [] => [(key, content)]
  | (k, c) :: rest => if k = key then (k, content) :: rest else (k, c) :: putIn key content rest

def put (s : Shelf) (key : Key) (content : String) : Shelf :=
  { s with contents := putIn key content s.contents }

def erase (s : Shelf) (key : Key) : Shelf :=
  { s with contents := s.contents.filter fun x => x.1 ≠ key }

def sorted (s : Shelf) : List (Key × String) := s.contents.mergeSort fun a b => a.1.le b.1

/-- Takes its time, and fails as long as the shelf is made to. -/
def check (s : Shelf) : Except Failure Unit := do
  let _ ← s.delay
  match s.failure with
  | some e => .error e
  | none => .ok ()

def entryOf (x : Key × String) : Except Failure Entry :=
  Entry.ofContent x.1 x.2 (.text "") (.text "")

def entries (s : Shelf) (kind : Option Kind) : Except Failure (List Entry) := do
  s.check
  (s.sorted.filter fun x => kind.all (· == x.1.kind)).mapM entryOf

def content (s : Shelf) (key : Key) : Except Failure String := do
  s.check
  match s.get? key with
  | some c => return c
  | none => throw (.notFound key.label s.source.title)

/-- Whether content may be written: a new element needs none there, and an old one has to be as the writer
last saw it. -/
def checkWrite (s : Shelf) (key : Key) (expected : Option Value) : Except Failure Unit :=
  match s.get? key, expected with
  | none, _ => .ok ()
  | some _, none => .error (.conflict key.label "element already exists")
  | some c, some r => do
    if !Value.same (.text (← Digest.blob c)) r then
      throw (.conflict key.label "content changed since it was indexed")

def load (s : Shelf) (kind : Option Kind) : Except Failure (List Entry) × Shelf :=
  (s.entries kind, { s with calls.list := s.calls.list + 1 })

def fetch (s : Shelf) (key : Key) : Except Failure String × Shelf :=
  (s.content key, { s with calls.fetch := s.calls.fetch + 1 })

def write (s : Shelf) (key : Key) (content : String) (expected : Option Value) : Except Failure Value × Shelf :=
  if !s.writable then (.error (.readOnly s.source), s)
  else
    let s : Shelf := { s with calls.write := s.calls.write + 1 }
    match s.check, s.checkWrite key expected with
    | .error e, _ => (.error e, s)
    | .ok _, .error e => (.error e, s)
    | .ok _, .ok _ => ((Digest.blob content).map .text, s.put key content)

def delete (s : Shelf) (key : Key) : Except Failure Unit × Shelf :=
  if !s.writable then (.error (.readOnly s.source), s)
  else
    let s : Shelf := { s with calls.delete := s.calls.delete + 1 }
    match s.check with
    | .error e => (.error e, s)
    | .ok _ => (.ok (), s.erase key)

def add (s : Shelf) (kind : Value) (draft : Draft) (content : Option String) : Except Failure (Key × Shelf) := do
  let key ← Key.ofValues kind draft.name
  let text ← match content with
    | some c => pure c
    | none => draft.render
  return (key, s.put key text)

def addValue (s : Shelf) (v : Value) : Except Failure (Key × Shelf) :=
  let field (name : String) : Value := (v.field? name).getD .null
  let draft : Draft := {
    name := field "name", version := field "version", description := field "description",
    tags := field "tags", localOnly := field "local_only" }
  let content := match field "content" with
    | .text c => some c
    | _ => none
  s.add ((v.field? "type").getD (.text "personas")) draft content

end Shelf

end TriStore
