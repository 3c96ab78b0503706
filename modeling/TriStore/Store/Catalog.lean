import TriStore.Element.Entry
import TriStore.Settings
import TriStore.Web.Exchange

/-!
A shared catalog on the web, which can only be read. One document lists all its elements, by kind or
in one flat list.
-/
namespace TriStore

structure Catalog where
  index : String
  base : String
  deriving DecidableEq, Repr, Inhabited

namespace Catalog

def ofSettings (s : RegistrySettings) : Catalog :=
  { index := s.indexUrl, base := Text.dropEnd (· == '/') s.rawBaseUrl }

def unavailable (reason : String) : Failure := .unavailable .registry reason

def get (url : String) : Exchange Response := do
  match ← Exchange.get url with
  | .impossible e => throw e
  | .failed reason => throw (unavailable ("GET " ++ url ++ " failed: " ++ reason))
  | .response answer =>
    if 500 ≤ answer.status || [401, 403, 429].contains answer.status then
      throw (unavailable (url ++ " returned " ++ Text.ofNat answer.status))
    return answer

def firstGiven (a b : Value) : Value :=
  if a.isGiven then a else if b.isGiven then b else .text ""

def tagsOf : Value → List Value
  | .list vs => vs.map fun v => .text v.display
  | _ => []

/-- The entry of an item with a name. The last step of its path names it, if it has a path. -/
def entryOf (kind : Kind) (name item : Value) : Except Failure Entry := do
  let .text path := (item.field? "path").getD (.text "") | throw .unsuited
  let last := Text.afterLast '/' path
  let key := Key.of kind (← nameOfValue (if last.isEmpty then name else .text last))
  let text (field : String) : String := Entry.textOf (item.field? field)
  return {
    name := .text key.name, kind,
    path := .text (if path.isEmpty then "library/" ++ key.path else path),
    version := text "version", description := .text (text "description"),
    tags := tagsOf ((item.field? "tags").getD .null), author := .text (text "author"),
    revision := .text (text "sha") }

/-- The entry of an item under a group name; one without a name or of an unknown kind has none. -/
def entryOf? (group item : Value) : Except Failure (Option Entry) := do
  let .map _ := item | return none
  let name := (item.field? "name").getD .null
  if !name.isGiven then return none
  match Kind.ofValue (firstGiven ((item.field? "type").getD .null) group) with
  | .ok kind => return some (← entryOf kind name item)
  | .error (.unknownKind _) => return none
  | .error e => throw e

def itemsOf (document : Value) : List (Value × Value) :=
  let groups : List (Value × Value) := match document.field? "index" with
    | some (.map kvs) => kvs
    | _ => [(.null, (document.field? "elements").getD .null)]
  groups.flatMap fun (group, items) =>
    match items with
    | .list vs => vs.map (group, ·)
    | _ => []

def entries (document : Value) : Except Failure (List Entry) :=
  match document with
  | .map _ => do
    let found ← (itemsOf document).mapM fun (group, item) => entryOf? group item
    return found.filterMap id
  | _ => .ok []

def load (c : Catalog) (kind : Option Kind) : Exchange (List Entry) := do
  let answer ← get c.index
  if answer.status != 200 then
    throw (unavailable ("index returned " ++ Text.ofNat answer.status))
  match answer.document with
  | .error (.reason reason) => throw (unavailable ("index is not valid JSON: " ++ reason))
  | .error (.failure e) => throw e.failure
  | .ok document => return (← entries document).filter fun e => kind.all (· == e.kind)

def absent (key : Key) : Failure := .notFound key.label "community registry"

def fetch (c : Catalog) (key : Key) (entry : Option Entry) : Exchange String := do
  let some e := entry | throw (absent key)
  let path := e.path.display
  let answer ← get (c.base ++ "/" ++ Text.dropStart (· == '/') path)
  if answer.status == 404 then throw (absent key)
  if answer.status != 200 then
    throw (unavailable ("fetch of " ++ path ++ " returned " ++ Text.ofNat answer.status))
  answer.text

end Catalog

end TriStore
