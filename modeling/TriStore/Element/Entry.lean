import TriStore.Calendar.Iso
import TriStore.Element.Key
import TriStore.Value.Text

/-!
What an index knows about one element of one store, without the element's content.
-/
namespace TriStore

/-- When an element was last changed: at a time that was given, or when its file was. -/
inductive Stamp where
  | given (t : Moment)
  | file
  deriving DecidableEq, Repr, Inhabited

structure Entry where
  name : Value
  kind : Kind
  path : Value := .text ""
  version : String := ""
  description : Value := .text ""
  tags : List Value := []
  author : Value := .text ""
  digest : Value := .text ""
  /-- What the store calls this state of the element. -/
  revision : Value := .text ""
  modified : Option Stamp := none
  localOnly : Bool := false
  deriving Repr, Inhabited

namespace Entry

def key (e : Entry) : Key :=
  ⟨e.kind, match e.name with
    | .text s => Name.normalize s
    | _ => ""⟩

def checkName (e : Entry) : Except Failure Unit := do
  let _ ← nameOfValue e.name

def textOf (v : Option Value) : String :=
  match v with
  | some v => if v.isGiven then v.display else ""
  | none => ""

def writtenText (v : Option Value) : Except Failure String := do
  if let some v := v then v.checkWritable
  return textOf v

def membersOf (v : Value) : Except Failure (List Value) :=
  match v.members? with
  | some vs => .ok vs
  | none => .error .wrongKind

def readStamp : Option Value → Except Failure (Option Stamp)
  | some v =>
    if !v.isGiven then .ok none
    else match v with
      | .text s =>
        match Moment.ofIso s with
        | .ok t => .ok (some (.given t))
        | .error e => .error (.badDate e)
      | _ => .error .wrongKind
  | none => .ok none

def ofValue (v : Value) : Except Failure Entry := do
  let .map _ := v | throw .unsuited
  let some name := v.field? "name" | throw .missingKey
  let some kind := v.field? "type" | throw .missingKey
  let kind ← Kind.ofValue kind
  let text (field : String) : Value := (v.field? field).getD (.text "")
  let tags ← match v.field? "tags" with
    | some t => if t.isGiven then membersOf t else pure []
    | none => pure []
  let modified ← readStamp (v.field? "last_modified")
  return {
    name, kind, path := text "path", version := textOf (v.field? "version"),
    description := text "description", tags, author := text "author", digest := text "digest",
    revision := text "revision", modified, localOnly := ((v.field? "local_only").getD .null).isGiven }

def stampValue : Option Stamp → Value
  | some (.given t) => .text (t.toText "T")
  | _ => .null

def toValue (e : Entry) : Value :=
  .record [
    ("name", e.name), ("type", .text e.kind.label), ("path", e.path), ("version", .text e.version),
    ("description", e.description), ("tags", .list e.tags), ("author", e.author),
    ("digest", e.digest), ("revision", e.revision), ("last_modified", stampValue e.modified),
    ("local_only", .bool e.localOnly)]

def report (e : Entry) : Value :=
  .record [
    ("name", e.name), ("type", .text e.kind.label), ("path", e.path), ("version", .text e.version),
    ("description", e.description), ("tags", .list e.tags), ("author", e.author),
    ("digest", e.digest), ("revision", e.revision), ("local_only", .bool e.localOnly),
    ("has_last_modified", .bool e.modified.isSome), ("key", .text e.key.label)]

def stampLiteral : Option Stamp → String
  | some (.given t) => Value.literal (.moment t)
  | _ => "None"

def literal (e : Entry) : String :=
  "IndexEntry(name=" ++ e.name.literal ++ ", type=<ElementType." ++ e.kind.constantName ++ ": " ++
    Text.quoted e.kind.label ++ ">, path=" ++ e.path.literal ++ ", version=" ++ Text.quoted e.version ++
    ", description=" ++ e.description.literal ++ ", tags=" ++ Value.literal (.list e.tags) ++
    ", author=" ++ e.author.literal ++ ", digest=" ++ e.digest.literal ++ ", revision=" ++
    e.revision.literal ++ ", last_modified=" ++ stampLiteral e.modified ++ ", local_only=" ++
    Value.literal (.bool e.localOnly) ++ ")"

/-- Whether two copies hold the same content: by digest if both have one, else by revision. -/
def sameContent (a b : Entry) : Bool :=
  if a.digest.isGiven && b.digest.isGiven then a.digest.same b.digest
  else if a.revision.isGiven && b.revision.isGiven then a.revision.same b.revision
  else false

theorem sameContent_comm (a b : Entry) : a.sameContent b = b.sameContent a := by
  simp only [sameContent, Bool.and_comm, Value.same_comm a.digest, Value.same_comm a.revision]

end Entry

end TriStore
