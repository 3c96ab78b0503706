import TriStore.Json.Writer
import TriStore.Packed.Stream
import TriStore.Web.Parameter

/-!
Requests to the web and the answers to them, which a document may describe: routes, and for each the
answers it gives in turn.
-/
namespace TriStore

structure Request where
  method : String
  url : String
  accept : String := "*/*"
  authorization : Option String := none
  body : Option Value := none
  deriving Repr, Inhabited

def Request.toValue (r : Request) : Value :=
  .record [
    ("method", .text r.method), ("url", .text r.url), ("accept", .text r.accept),
    ("auth", .ofOption .text r.authorization), ("body", r.body.getD .null)]

structure Response where
  status : Nat
  headers : List (String × String) := []
  body : ByteArray := ByteArray.empty
  deriving Inhabited

namespace Response

def headerValues (r : Response) (name : String) : List String :=
  (r.headers.filter fun h => Text.lower h.1 == Text.lower name).map (·.2)

def header? (r : Response) (name : String) : Option String :=
  match r.headerValues name with
  | [] => none
  | values => some (Text.join ", " values)

def document (r : Response) : Except Json.Unreadable Value := Json.parseBytes r.body

/-- The encoding of the body, UTF-8 unless the answer names another one that is known. -/
def charset (r : Response) : Except Failure Text.Charset := do
  let some value := r.header? "content-type" | return .utf8
  match ← Parameter.find? value "charset" with
  | none => return .utf8
  | some label =>
    if label.toList.any (128 ≤ ·.toNat) then return .utf8
    return (← Text.Charset.ofLabel label).getD .utf8

def text (r : Response) : Except Failure String := do
  if r.body.isEmpty then return "" else (← r.charset).decode r.body

def packing (r : Response) : List Packed.Method :=
  ((r.headerValues "content-encoding").flatMap fun value =>
    (Text.pieces (· == ',') value.toList).filterMap fun part =>
      Packed.Method.ofLabel? (Text.lower (Text.strip (String.ofList part))))

def unpacked (r : Response) : Except Packed.Fault Response :=
  match r.packing with
  | [] => .ok r
  | methods => (Packed.unpackAll methods r.body.toList).map fun bs => { r with body := ⟨bs.toArray⟩ }

def phrases : List (Nat × String) := [
  (100, "Continue"), (101, "Switching Protocols"), (102, "Processing"), (103, "Early Hints"),
  (200, "OK"), (201, "Created"), (202, "Accepted"), (203, "Non-Authoritative Information"),
  (204, "No Content"), (205, "Reset Content"), (206, "Partial Content"), (207, "Multi-Status"),
  (208, "Already Reported"), (226, "IM Used"), (300, "Multiple Choices"),
  (301, "Moved Permanently"), (302, "Found"), (303, "See Other"), (304, "Not Modified"),
  (305, "Use Proxy"), (307, "Temporary Redirect"), (308, "Permanent Redirect"),
  (400, "Bad Request"), (401, "Unauthorized"), (402, "Payment Required"), (403, "Forbidden"),
  (404, "Not Found"), (405, "Method Not Allowed"), (406, "Not Acceptable"),
  (407, "Proxy Authentication Required"), (408, "Request Timeout"), (409, "Conflict"),
  (410, "Gone"), (411, "Length Required"), (412, "Precondition Failed"),
  (413, "Request Entity Too Large"), (414, "Request-URI Too Long"), (415, "Unsupported Media Type"),
  (416, "Requested Range Not Satisfiable"), (417, "Expectation Failed"), (418, "I'm a teapot"),
  (421, "Misdirected Request"), (422, "Unprocessable Entity"), (423, "Locked"),
  (424, "Failed Dependency"), (425, "Too Early"), (426, "Upgrade Required"),
  (428, "Precondition Required"), (429, "Too Many Requests"),
  (431, "Request Header Fields Too Large"), (451, "Unavailable For Legal Reasons"),
  (500, "Internal Server Error"), (501, "Not Implemented"), (502, "Bad Gateway"),
  (503, "Service Unavailable"), (504, "Gateway Timeout"), (505, "HTTP Version Not Supported"),
  (506, "Variant Also Negotiates"), (507, "Insufficient Storage"), (508, "Loop Detected"),
  (510, "Not Extended"), (511, "Network Authentication Required")]

def phrase (r : Response) : String := (phrases.lookup r.status).getD ""

def redirect? (r : Response) : Option String :=
  if [301, 302, 303, 307, 308].contains r.status then r.header? "location" else none

end Response

inductive Reply where
  | response (r : Response)
  | failed (reason : String)
  | impossible (e : Failure)
  deriving Inhabited

structure Route where
  method : String
  url : String
  replies : List Reply
  deriving Inhabited

/-- The routes with the replies still to come, and the requests made so far. -/
structure Web where
  routes : List Route := []
  sent : List Request := []
  deriving Inhabited

def Web.nowhere : Reply :=
  .response { status := 404, body := Text.utf8 (Json.compact (.record [("message", .text "Not Found")])) }

/-- Takes the next reply of the first route that `p` holds for; the last reply stays. -/
def Web.nextReply (p : Route → Bool) : List Route → Reply × List Route
  | [] => (nowhere, [])
  | r :: rest =>
    if p r then
      match r.replies with
      | [] => (nowhere, r :: rest)
      | [only] => (only, r :: rest)
      | first :: more => (first, { r with replies := more } :: rest)
    else
      let (reply, rest) := nextReply p rest
      (reply, r :: rest)

/-- A route leads to an address by the method and by what stands before the query. -/
def Web.send (w : Web) (r : Request) : Reply × Web :=
  let target := Url.withoutQuery r.url
  let (reply, routes) := nextReply (fun x => x.method == r.method && x.url == target) w.routes
  (reply, { routes, sent := w.sent ++ [r] })

/-- An exchange with the web. What was sent stays sent when it fails. -/
abbrev Exchange := ExceptT Failure (StateM Web)

namespace Exchange

/-- Makes a request to an address. -/
def send (u : Url) (r : Request) : Exchange Reply := do
  let (reply, w) := (← get).send { r with url := u.toText }
  set w
  match reply with
  | .impossible e => throw e
  | .failed reason => return .failed reason
  | .response answer =>
    match answer.unpacked with
    | .error fault => return .failed fault.message
    | .ok answer =>
      if u.scheme.isEmpty then throw (.noScheme u.toText)
      return .response answer

def readable (r : Except Url.Fault Url) : Exchange Url :=
  match r with
  | .ok u => return u
  | .error .half => throw .unencodable
  | .error _ => throw .badAddress

def address (s : String) : Exchange Url := do return (← readable (Url.ofText s)).complete

def checkHost (u : Url) : Exchange Unit :=
  match Host.shown u.host with
  | .error cause => throw (.badHost cause)
  | .ok _ => if u.host.toList.any (128 ≤ ·.toNat) then throw .unencodable else pure ()

/-- Where an answer from an address leads, if it leads on; a reason when that is no address. -/
def next (u : Url) (answer : Response) : Exchange (Except String (Option Url)) := do
  match answer.redirect? with
  | none => return .ok none
  | some location =>
    match u.follow location with
    | .ok v =>
      checkHost v
      return .ok (some v)
    | .error (.reference cause) => return .error ("Invalid URL in location header: " ++ cause.message ++ ".")
    | .error .address => throw .badAddress
    | .error (.host cause) => throw (.badHost cause)
    | .error (.brackets .unmatched) => throw .badBrackets
    | .error (.brackets (.noNumber text)) => throw (.noNumber text)

/-- Makes a request and does not follow where the answer leads, but looks whether that is an address. -/
def ask (u : Url) (r : Request) : Exchange Reply := do
  match ← send u r with
  | .response answer =>
    match ← next u answer with
    | .error reason => return .failed reason
    | .ok _ => return .response answer
  | reply => return reply

def maxRedirects : Nat := 20

/-- Gets an address and follows where the answers lead. -/
def follow : Nat → Option String → Url → Exchange Reply
  | 0, _, _ => return .failed "Exceeded maximum allowed redirects."
  | n + 1, authorization, u => do
    match ← send u { method := "GET", url := "", authorization } with
    | .response answer =>
      match ← next u answer with
      | .error reason => return .failed reason
      | .ok none => return .response answer
      | .ok (some v) => follow n (if u.sharesCredentials v then authorization else none) v
    | reply => return reply

def get (s : String) : Exchange Reply := do
  let u ← address s
  checkHost u
  follow (maxRedirects + 1) u.credentials? u

end Exchange

def Value.content : Value → ByteArray
  | .text s => Text.utf8 s
  | v =>
    match v.field? "hex" with
    | some (.text s) => ⟨(Text.Hex.decode s).toArray⟩
    | _ => ByteArray.empty

def Value.contentOrFail (v : Value) : Except Failure ByteArray :=
  match v with
  | .text s => (Text.utf8? s).elim (.error .unencodable) .ok
  | v => .ok v.content

def Value.textAt (v : Value) (name : String) : String :=
  match v.field? name with
  | some (.text s) => s
  | _ => ""

def Value.listAt (v : Value) (name : String) : List Value :=
  match v.field? name with
  | some (.list vs) => vs
  | _ => []

namespace Web

def headersOf : Option Value → Except Failure (List (String × String))
  | some (.map kvs) => kvs.mapM fun (k, v) =>
    match v with
    | .text s =>
      if (k.display ++ s).toList.all (·.toNat < 128) then .ok (k.display, s) else .error .unencodable
    | _ => .error .wrongKind
  | _ => .ok []

/-- The body that a document describes: another document, or else bytes; null is no body. -/
def bodyOf (v : Value) : Except Failure ByteArray :=
  match (v.field? "json").getD .null with
  | .null => ((v.field? "body").getD .null).contentOrFail
  | document =>
    (Text.utf8? (Json.compact document)).elim (.error .unencodable) .ok

def responseOf (v : Value) : Except Failure Response := do
  let status := match v.field? "status" with
    | some (.int n) => n.toNat
    | _ => 0
  return { status, headers := ← headersOf (v.field? "headers"), body := ← bodyOf v }

def replyOf (v : Value) : Reply :=
  if (v.field? "raise").isSome then .failed (v.textAt "message")
  else match responseOf v with
    | .ok r => .response r
    | .error e => .impossible e

def ofValues (routes : List Value) : Web :=
  { routes := routes.map fun v =>
      ⟨v.textAt "method", v.textAt "url", (v.listAt "responses").map replyOf⟩ }

end Web

end TriStore
