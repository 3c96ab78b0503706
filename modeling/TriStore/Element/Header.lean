import TriStore.Digest.Sha
import TriStore.Element.Entry
import TriStore.Yaml.Document

/-!
The header of an element: the YAML mapping between two lines of three hyphens at the front of its
content.
-/
namespace TriStore.Header

/-- Whether three hyphens start here that end the header: only blanks follow on their line. -/
def closes (cs : List Char) : Bool :=
  cs.take 3 == ['-', '-', '-'] &&
    let gap := (cs.drop 3).takeWhile Text.isBlank
    gap.contains '\n' || gap.length == (cs.drop 3).length

def body : List Char → Option (List Char)
  | [] => none
  | c :: cs => if c == '\n' && closes cs then some [] else (body cs).map (c :: ·)

/-- The text of the header. It starts on the line after the opening one, past blank lines. -/
def block? (cs : List Char) : Option (List Char) :=
  if cs.take 3 != ['-', '-', '-'] then none
  else
    let rest := cs.drop 3
    let gap := rest.takeWhile Text.isBlank
    if gap.contains '\n' then
      let start := gap.reverse.dropWhile (· != '\n')
      body (rest.drop start.length)
    else none

/-- The fields of the header. One that is no YAML counts as empty; one with a value that does not exist is
refused. -/
def fields (content : String) : Except Failure Value :=
  match block? content.toList with
  | none => .ok (.map [])
  | some block =>
    match Yaml.parse (String.ofList block) with
    | .ok (.map kvs) => .ok (.map kvs)
    | .ok _ | .error .malformed => .ok (.map [])
    | .error (.failure e) => .error e.failure

def tags (v : Option Value) : Except Failure (List Value) :=
  match v with
  | none => .ok []
  | some v =>
    if !v.isGiven then .ok []
    else match v with
      | .text s =>
        let parts := (Text.pieces (· == ',') s.toList).map (Text.trim Text.isBlank)
        .ok ((parts.filter (!·.isEmpty)).map fun p => .text (String.ofList p))
      | v => do
        let vs ← Entry.membersOf v.opened
        vs.mapM fun t => do return .text (← t.written)

def isTrue : Option Value → Bool
  | some (.bool true) => true
  | _ => false

/-- Whether the header marks the element as private, directly or in the section on privacy. -/
def isPrivate (fields : Value) : Bool :=
  isTrue (fields.field? "local_only") ||
    isTrue ((fields.field? "privacy").bind fun p => if p.isMap then p.field? "local_only" else none)

end TriStore.Header

namespace TriStore.Entry

/-- The entry of a content; a path or revision not given is that of the key and of the content. -/
def ofContent (key : Key) (content : String) (path revision : Value) : Except Failure Entry := do
  let fields ← Header.fields content
  let version ← writtenText (fields.field? "version")
  let description ← writtenText (fields.field? "description")
  let tags ← Header.tags (fields.field? "tags")
  let author ← writtenText (fields.field? "author")
  let digest ← Digest.ofContent content
  let blob ← Digest.blob content
  return {
    name := .text key.name, kind := key.kind,
    path := if path.isGiven then path else .text key.path,
    version, description := .text description, tags, author := .text author,
    digest := .text digest,
    revision := if revision.isGiven then revision else .text blob,
    localOnly := Header.isPrivate fields }

end TriStore.Entry
