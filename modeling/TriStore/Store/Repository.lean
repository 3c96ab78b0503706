import TriStore.Element.Header
import TriStore.Settings
import TriStore.Web.Exchange

/-!
A store in a repository on the web.
-/
namespace TriStore

structure Repository where
  owner : String
  name : String
  branch : String
  service : String
  token : Option String := none
  /-- Whether a listing also reads the contents of the files. -/
  readsContents : Bool := true
  deriving DecidableEq, Repr, Inhabited

namespace Repository

def ofSettings (s : RepositorySettings) (token : Option String) (readsContents : Bool) : Repository :=
  { owner := s.owner, name := s.repository, branch := s.branch,
    service := Text.dropEnd (· == '/') s.apiUrl, token, readsContents }

def listingForm : String := "application/vnd.github+json"

def contentForm : String := "application/vnd.github.raw"

def tokenNames : List String := ["FOLIO_GITHUB_TOKEN", "GITHUB_TOKEN"]

def tokenIn (environment : List (String × String)) : Option String :=
  tokenNames.findSome? fun name =>
    let value := Text.strip ((environment.lookup name).getD "")
    if value.isEmpty then none else some value

def pathOf (r : Repository) (inside : String) : String :=
  "/repos/" ++ r.owner ++ "/" ++ r.name ++ "/contents/" ++ inside

def unavailable (reason : String) : Failure := .unavailable .remote reason

def refusal? (r : Repository) (answer : Response) : Option String :=
  if answer.status == 401 then some "authentication failed (check your token)"
  else if answer.status == 429 || (answer.status == 403 && answer.header? "X-RateLimit-Remaining" == some "0") then
    some ("rate limit exceeded (resets at " ++ (answer.header? "X-RateLimit-Reset").getD "unknown" ++ ")")
  else if answer.status == 403 then some ("access to " ++ r.owner ++ "/" ++ r.name ++ " denied")
  else if 500 ≤ answer.status then some ("GitHub returned " ++ Text.ofNat answer.status)
  else none

def request (r : Repository) (method inside accept : String) (query : List (String × String))
    (body : Option Value) : Exchange Response := do
  if r.owner.isEmpty then throw (unavailable "no remote repository owner configured")
  let path := r.pathOf inside
  let url ← Exchange.address (r.service ++ path)
  let bearer := r.token.bind fun t => if t.isEmpty then none else some ("Bearer " ++ t)
  if (bearer.getD "").toList.any (128 ≤ ·.toNat) then throw .unencodable
  if query.any fun q => !Text.isEncodable q.2 then throw .unencodable
  let url ← if query.isEmpty then pure url else Exchange.readable (url.withQuery query)
  Exchange.checkHost url
  let authorization := url.credentials?.or bearer
  match ← Exchange.ask url { method, url := "", accept, authorization, body } with
  | .impossible e => throw e
  | .failed reason => throw (unavailable (method ++ " " ++ path ++ " failed: " ++ reason))
  | .response answer =>
    match r.refusal? answer with
    | some reason => throw (unavailable reason)
    | none => return answer

/-- What an answer says of itself: its message, or else the meaning of its number. -/
def explanation (answer : Response) : Except Failure String :=
  match answer.document with
  | .error (.reason _) => .ok answer.phrase
  | .error (.failure e) => .error e.failure
  | .ok (.map kvs) => .ok (((Value.map kvs).field? "message").elim answer.phrase Value.display)
  | .ok _ => .error .unsuited

def download (r : Repository) (path : Value) : Exchange (Option String) := do
  let answer ← r.request "GET" path.display contentForm [("ref", r.branch)] none
  if answer.status == 404 then return none
  if answer.status != 200 then
    throw (unavailable ("download of " ++ path.display ++ " failed: " ++ (← explanation answer)))
  return some (← answer.text)

def elementName? (item : Value) : Option String :=
  match item with
  | .map _ =>
    match item.field? "type", item.field? "name" with
    | some (.text "file"), some (.text name) => if name.endsWith ".md" then some name else none
    | _, _ => none
  | _ => none

/-- Where a listed item stands; in the place of its key when the listing does not say. -/
def placeIn (key : Key) (item : Value) : Value :=
  match item.field? "path" with
  | some p => if p.isGiven then p else .text key.path
  | none => .text key.path

def entryOf (r : Repository) (kind : Kind) (name : String) (item : Value) : Exchange Entry := do
  let key := Key.of kind name
  let path := placeIn key item
  let revision := (item.field? "sha").getD (.text "")
  let bare : Entry := { name := .text key.name, kind, path, revision }
  if r.readsContents then
    match ← r.download path with
    | some content => Entry.ofContent key content path revision
    | none => return bare
  else return bare

def loadKind (r : Repository) (kind : Kind) : Exchange (List Entry) := do
  let answer ← r.request "GET" kind.label listingForm [("ref", r.branch)] none
  if answer.status == 404 then return []
  if answer.status != 200 then
    throw (unavailable ("listing " ++ kind.label ++ " failed: " ++ (← explanation answer)))
  match answer.document with
  | .error (.reason reason) =>
    throw (unavailable ("listing " ++ kind.label ++ " is not valid JSON: " ++ reason))
  | .error (.failure e) => throw e.failure
  | .ok (.list items) =>
    items.foldlM (fun entries item =>
      match elementName? item with
      | some name => return entries ++ [← r.entryOf kind name item]
      | none => return entries) []
  | .ok _ => return []

def load (r : Repository) (kind : Option Kind) : Exchange (List Entry) :=
  (kind.elim Kind.all fun k => [k]).foldlM (fun entries k => return entries ++ (← r.loadKind k)) []

def place (key : Key) (entry : Option Entry) : Value := entry.elim (.text key.path) (·.path)

def fetch (r : Repository) (key : Key) (entry : Option Entry) : Exchange String := do
  match ← r.download (place key entry) with
  | some content => return content
  | none => throw (.notFound key.label "remote portfolio")

def refused (key : Key) (answer : Response) : Exchange Failure := do
  return .conflict key.label ("remote changed concurrently: " ++ (← explanation answer))

def isConflict (answer : Response) : Bool := answer.status == 409 || answer.status == 422

def revisionIn (answer : Response) (content : String) : Except Failure Value :=
  match answer.document with
  | .ok (.map kvs) =>
    match ((Value.map kvs).field? "content").getD (.map []) with
    | .map inner => .ok (((Value.map inner).field? "sha").getD (.text ""))
    | _ => (Digest.blob content).map .text
  | .error (.failure e) => .error e.failure
  | _ => (Digest.blob content).map .text

def write (r : Repository) (key : Key) (entry : Option Entry) (content : String)
    (expected : Option Value) : Exchange Value := do
  let path := place key entry
  if !Text.isEncodable content then throw .unencodable
  let revision := expected.bind fun v => if v.isGiven then some v else none
  let verb := if revision.isSome then "Update " else "Add "
  let body : List (String × Value) := [
    ("message", .text (verb ++ key.kind.stem ++ " " ++ key.name)),
    ("content", .text (Base64.encode content)), ("branch", .text r.branch)]
  let body := body ++ (revision.elim [] fun v => [("sha", v)])
  let answer ← r.request "PUT" path.display listingForm [] (some (.record body))
  if isConflict answer then throw (← refused key answer)
  if answer.status != 200 && answer.status != 201 then
    throw (unavailable ("write of " ++ path.display ++ " failed: " ++ (← explanation answer)))
  revisionIn answer content

def delete (r : Repository) (key : Key) (entry : Entry) (expected : Option Value) : Exchange Unit := do
  let revision := match expected with
    | some v => if v.isGiven then v else entry.revision
    | none => entry.revision
  let body := Value.record [
    ("message", .text ("Remove " ++ key.kind.stem ++ " " ++ key.name)), ("sha", revision),
    ("branch", .text r.branch)]
  let answer ← r.request "DELETE" entry.path.display listingForm [] (some body)
  if isConflict answer then throw (← refused key answer)
  if answer.status != 200 && answer.status != 404 then
    throw (unavailable ("delete of " ++ entry.path.display ++ " failed: " ++ (← explanation answer)))

end Repository

end TriStore
