import TriStore.Element.Entry

/-!
Content that must not be uploaded: that of private elements, and content in which a credential seems
to be set to a quoted value.
-/
namespace TriStore

inductive Credential where
  | apiKey
  | secret
  | password
  | token
  | privateKey
  deriving DecidableEq, Repr, Inhabited

namespace Credential

def all : List Credential := [.apiKey, .secret, .password, .token, .privateKey]

def label : Credential → String
  | .apiKey => "api_key"
  | .secret => "secret"
  | .password => "password"
  | .token => "token"
  | .privateKey => "private_key"

/-- The two parts of the word; an underscore or a hyphen may join them. -/
def parts : Credential → List Char × List Char
  | .apiKey => ("api".toList, "key".toList)
  | .secret => ("secret".toList, [])
  | .password => ("password".toList, [])
  | .token => ("token".toList, [])
  | .privateKey => ("private".toList, "key".toList)

def fold (c : Char) : Char :=
  if c.toNat == 0x17f then 's'
  else if c.toNat == 0x212a then 'k'
  else if c.toNat == 0x130 || c.toNat == 0x131 then 'i'
  else c.toLower

def afterWord : List Char → List Char → Option (List Char)
  | [], cs => some cs
  | _ :: _, [] => none
  | w :: ws, c :: cs => if fold c == w then afterWord ws cs else none

def dropJoint : List Char → List Char
  | c :: cs => if c == '_' || c == '-' then cs else c :: cs
  | [] => []

def afterKeyword (k : Credential) (cs : List Char) : Option (List Char) :=
  let (first, second) := k.parts
  if second.isEmpty then afterWord first cs
  else (afterWord first cs).bind fun rest => afterWord second (dropJoint rest)

def isQuote (c : Char) : Bool := c == '\'' || c == '"'

def startsQuoted : List Char → Bool
  | q :: c :: cs => isQuote q && !isQuote c && cs.any isQuote
  | _ => false

def startsAt (k : Credential) (cs : List Char) : Bool :=
  match afterKeyword k cs with
  | none => false
  | some rest =>
    match rest.dropWhile Text.isBlank with
    | c :: more => (c == ':' || c == '=') && startsQuoted (more.dropWhile Text.isBlank)
    | [] => false

def occursIn (k : Credential) : List Char → Bool
  | [] => false
  | c :: cs => startsAt k (c :: cs) || occursIn k cs

end Credential

def findSecrets (content : String) : List Credential :=
  Credential.all.filter (·.occursIn content.toList)

def uploadObjections (e : Entry) (content : String) (scan : Bool) : List String :=
  let found := if scan then findSecrets content else []
  (if e.localOnly then ["'" ++ e.name.display ++ "' is marked local-only and cannot be uploaded"]
    else []) ++
  (if found.isEmpty then []
    else ["potential secret detected (" ++ Text.join ", " (found.map (·.label)) ++
      "); remove it before uploading"])

end TriStore
