import TriStore.Digest.Base64
import TriStore.Text.Unicode
import TriStore.Web.Reference

/-!
Addresses of the web.
-/
namespace TriStore

structure Url where
  scheme : String := ""
  user : String := ""
  host : String := ""
  port : Option Int := none
  path : String := ""
  query : Option String := none
  fragment : Option String := none
  deriving DecidableEq, Repr, Inhabited

namespace Url

inductive Fault where
  | tooLong
  | control (c : Char) (pos : Nat)
  | host (cause : Host.Fault)
  | port (text : String)
  | looseStart
  | doubleSlash
  | colon
  | half
  deriving DecidableEq, Repr, Inhabited

def Fault.message : Fault → String
  | .tooLong => "URL too long"
  | .control c pos =>
    "Invalid non-printable ASCII character in URL, " ++ Text.quoted (String.ofList [c]) ++ " at position " ++
      Text.ofNat pos ++ "."
  | .host cause => cause.message
  | .port text => "Invalid port: " ++ Text.quoted text
  | .looseStart => "For absolute URLs, path must be empty or begin with '/'"
  | .doubleSlash => "Relative URLs cannot have a path starting with '//'"
  | .colon => "Relative URLs cannot have a path starting with ':'"
  | .half => "text that cannot be encoded"

def maxLength : Nat := 65536

def isSchemeChar (c : Char) : Bool :=
  (c.toNat < 128 && c.isAlphanum) || c == '+' || c == '.' || c == '-'

def splitScheme (cs : List Char) : List Char × List Char :=
  let front := cs.takeWhile isSchemeChar
  match front, cs.drop front.length with
  | c :: _, ':' :: rest => if c.isAlpha then (front, rest) else ([], cs)
  | [], ':' :: rest => ([], rest)
  | _, _ => ([], cs)

def percent (b : UInt8) : List Char := ('%' :: (Text.hex 2 b.toNat).toList).map Char.toUpper

def quote (safe : Char → Bool) (cs : List Char) : List Char :=
  (Text.singles cs).flatMap fun one =>
    if one.all safe then one else (Text.utf8 (String.ofList one)).toList.flatMap percent

def bytesOf : List (List Char) → List UInt8
  | ['%'] :: [a] :: [b] :: rest =>
    match Text.Hex.digit? a, Text.Hex.digit? b with
    | some x, some y => (x * 16 + y).toUInt8 :: bytesOf rest
    | _, _ => '%'.toNat.toUInt8 :: bytesOf ([a] :: [b] :: rest)
  | one :: rest => (Text.utf8 (String.ofList one)).toList ++ bytesOf rest
  | [] => []

def unquotedBytes (cs : List Char) : List UInt8 := bytesOf (Text.singles cs)

def unquote (s : String) : String := Text.Utf8.decodeLossy ⟨(unquotedBytes s.toList).toArray⟩

def isPrintableAscii (c : Char) : Bool := 0x20 ≤ c.toNat && c.toNat < 0x7f

def pathSafe (c : Char) : Bool := isPrintableAscii c && !" \"#<>?`\x7b\x7d".toList.contains c

def querySafe (c : Char) : Bool := isPrintableAscii c && !" \"#<>".toList.contains c

def fragmentSafe (c : Char) : Bool := isPrintableAscii c && !" \"<>`".toList.contains c

def userSafe (c : Char) : Bool := pathSafe c && !"/;=@[\\]^|".toList.contains c

/-- Carries out the steps of a path: a single point stays, two points go back. -/
def straighten (path : List Char) : List Char :=
  let parts := Text.pieces (· == '/') path
  if parts.any fun p => p == ['.'] || p == ['.', '.'] then
    let out := parts.foldl (fun (acc : List (List Char)) p =>
      if p == ['.'] then acc
      else if p == ['.', '.'] then (if acc.isEmpty || acc == [[]] then acc else acc.drop 1)
      else p :: acc) []
    (Text.join "/" (out.reverse.map String.ofList)).toList
  else path

def defaultPorts : List (String × Int) :=
  [("ftp", 21), ("http", 80), ("https", 443), ("ws", 80), ("wss", 443)]

def portOf (scheme text : String) : Except Fault (Option Int) :=
  if text.isEmpty then .ok none
  else match whole? text with
    | none => .error (.port text)
    | some n => .ok (if defaultPorts.lookup scheme == some n then none else some n)

def splitAuthority (cs : List Char) : List Char × List Char × List Char :=
  let afterUser := (cs.reverse.takeWhile (· != '@')).reverse
  let user := if afterUser.length == cs.length then []
    else cs.take (cs.length - afterUser.length - 1)
  let bracketed := (afterUser.reverse.dropWhile (· != ']')).reverse
  let host := if afterUser.head? == some '[' && 1 < bracketed.length then bracketed
    else afterUser.takeWhile (· != ':')
  let rest := afterUser.drop host.length
  (user, host, if rest.head? == some ':' then rest.drop 1 else rest)

/-- An address with a host has an empty path or one from the root. -/
def checkPath (hasScheme hasHost : Bool) (path : List Char) : Except Fault Unit :=
  if hasHost then
    if path.isEmpty || path.head? == some '/' then .ok () else .error .looseStart
  else if hasScheme then .ok ()
  else if path.take 2 == ['/', '/'] then .error .doubleSlash
  else if path.head? == some ':' then .error .colon
  else .ok ()

def hasAuthority (u : Url) : Bool := !u.user.isEmpty || !u.host.isEmpty || u.port.isSome

def endsAuthority (c : Char) : Bool := c == '/' || c == '?' || c == '#'

def controlIn? (cs : List Char) : Option (Char × Nat) :=
  let isControl (c : Char) : Bool := c.toNat < 0x20 || c.toNat == 0x7f
  (cs.find? isControl).map fun c => (c, Text.count (cs.takeWhile (!isControl ·)))

structure Written where
  scheme : List Char := []
  user : List Char := []
  host : List Char := []
  port : List Char := []
  path : List Char := []
  query : Option (List Char) := none
  fragment : Option (List Char) := none
  deriving DecidableEq, Repr, Inhabited

def ofWritten (w : Written) : Except Fault Url := do
  let isWhole (cs : List Char) : Bool := Text.isEncodable (String.ofList cs)
  if !isWhole w.user then throw .half
  let scheme := String.ofList w.scheme
  let host ← (Host.ofText (quote Host.isSafe) (String.ofList w.host)).mapError .host
  let port ← portOf scheme (String.ofList w.port)
  let front : Url := {
    scheme := Text.lower scheme, user := String.ofList (quote userSafe w.user), host, port }
  checkPath (!scheme.isEmpty) front.hasAuthority w.path
  if !(isWhole w.path && (w.query.all isWhole) && (w.fragment.all isWhole)) then throw .half
  let path := if !scheme.isEmpty || front.hasAuthority then straighten w.path else w.path
  return { front with
    path := String.ofList (quote pathSafe path)
    query := w.query.map fun q => String.ofList (quote querySafe q)
    fragment := w.fragment.map fun f => String.ofList (quote fragmentSafe f) }

def ofText (s : String) : Except Fault Url := do
  let cs := s.toList
  if maxLength < Text.count cs then throw .tooLong
  if let some (c, pos) := controlIn? cs then throw (.control c pos)
  let (scheme, rest) := splitScheme cs
  let (authority, rest) := match rest with
    | '/' :: '/' :: more => (more.takeWhile (!endsAuthority ·), more.dropWhile (!endsAuthority ·))
    | rest => ([], rest)
  let (user, host, port) := splitAuthority authority
  let path := rest.takeWhile fun c => c != '?' && c != '#'
  let rest := rest.drop path.length
  let (query, rest) := match rest with
    | '?' :: more => (some (more.takeWhile (· != '#')), more.dropWhile (· != '#'))
    | rest => (none, rest)
  let fragment := match rest with
    | '#' :: more => some more
    | _ => none
  ofWritten { scheme, user, host, port, path, query, fragment }

def hostText (u : Url) : String :=
  if u.host.toList.contains ':' then "[" ++ u.host ++ "]" else u.host

def authority (u : Url) : String :=
  (if u.user.isEmpty then "" else u.user ++ "@") ++ u.hostText ++
    (u.port.elim "" fun n => ":" ++ Text.ofInt n)

def toText (u : Url) : String :=
  (if u.scheme.isEmpty then "" else u.scheme ++ ":") ++
  (if u.authority.isEmpty then "" else "//" ++ u.authority) ++ u.path ++
  (match u.query with
    | some q => "?" ++ q
    | none => "") ++
  (match u.fragment with
    | some f => "#" ++ f
    | none => "")

def revised (u : Url) (change : Written → Written) : Except Fault Url := do
  let (user, host, port) := splitAuthority u.authority.toList
  let w := change {
    scheme := u.scheme.toList, user, host, port, path := u.path.toList
    query := u.query.map (·.toList), fragment := u.fragment.map (·.toList) }
  let parts := [u.authority.toList, w.host, w.path, w.query.getD [], w.fragment.getD []]
  if parts.any (maxLength < Text.count ·) then throw .tooLong
  if let some (c, pos) := parts.findSome? controlIn? then throw (.control c pos)
  ofWritten w

def isAbsolute (u : Url) : Bool := !u.scheme.isEmpty && !u.host.isEmpty

/-- The address as it is sent: one without a host consists of a path and a query. -/
def complete (u : Url) : Url :=
  if u.isAbsolute then u
  else { path := "/" ++ Text.dropStart (· == '/') u.path, query := u.query }

def isUnreserved (c : Char) : Bool :=
  (c.toNat < 128 && c.isAlphanum) || c == '-' || c == '.' || c == '_' || c == '~'

def formEncode (s : String) : String :=
  String.ofList ((Text.singles s.toList).flatMap fun one =>
    if one == [' '] then ['+'] else quote isUnreserved one)

def withQuery (u : Url) (pairs : List (String × String)) : Except Fault Url :=
  let query := Text.join "&" (pairs.map fun (k, v) => formEncode k ++ "=" ++ formEncode v)
  u.revised fun w => { w with query := some query.toList }

def withoutQuery (s : String) : String := String.ofList (s.toList.takeWhile (· != '?'))

def credentials? (u : Url) : Option String :=
  let name := unquote (String.ofList (u.user.toList.takeWhile (· != ':')))
  let password := unquote (String.ofList ((u.user.toList.dropWhile (· != ':')).drop 1))
  if name.isEmpty && password.isEmpty then none
  else some ("Basic " ++ Base64.encode (name ++ ":" ++ password))

def effectivePort (u : Url) : Option Int :=
  u.port.or (if u.scheme == "http" then some 80 else if u.scheme == "https" then some 443 else none)

/-- Whether credentials for one address may go to another: the same place, or its secure form. -/
def sharesCredentials (a b : Url) : Bool :=
  a.host == b.host && ((a.scheme == b.scheme && a.effectivePort == b.effectivePort) ||
      (a.scheme == "http" && a.effectivePort == some 80 && b.scheme == "https" &&
        b.effectivePort == some 443))

inductive FollowFault where
  | reference (cause : Fault)
  | address
  | host (cause : LabelFault)
  | brackets (cause : Reference.BracketFault)
  deriving DecidableEq, Repr, Inhabited

def onHost (u base : Url) : Except FollowFault Url := do
  let host ← (Host.shown base.host).mapError .host
  let cs := host.toList
  let isOpen := cs.contains ':' && !(cs.head? == some '[' && cs.getLast? == some ']')
  let host := if isOpen then '[' :: cs ++ [']'] else cs
  (u.revised fun w => { w with host }).mapError fun _ => .address

def isBlankPart (part : Option String) : Bool := part.all String.isEmpty

def follow (base : Url) (reference : String) : Except FollowFault Url := do
  let u ← (ofText reference).mapError .reference
  if !u.scheme.isEmpty then discard ((Host.shown u.host).mapError .host)
  let u ← if !u.scheme.isEmpty && u.host.isEmpty then u.onHost base else pure u
  let u ← if u.isAbsolute then pure u
    else do
      let joined ← (Reference.join base.toText u.toText).mapError .brackets
      (ofText joined).mapError fun _ => .address
  if isBlankPart u.fragment && !isBlankPart base.fragment then
    let fragment := base.fragment.map fun f => (unquote f).toList
    (u.revised fun w => { w with fragment }).mapError fun _ => .address
  else return u

end Url

end TriStore
