import TriStore.Web.Host

/-!
References from one document to another. A reference is completed by the address of the document it
stands in.
-/
namespace TriStore.Reference

/-- The parts of an address as a reference sees them: the last step of a path may have parameters. -/
structure Parts where
  scheme : List Char := []
  place : List Char := []
  path : List Char := []
  params : List Char := []
  query : List Char := []
  fragment : List Char := []
  deriving DecidableEq, Repr, Inhabited

/-- Schemes whose references may leave out what they share with their document. -/
def relativeSchemes : List String := [
  "", "ftp", "http", "gopher", "nntp", "imap", "wais", "file", "https", "shttp", "mms", "prospero",
  "rtsp", "rtspu", "sftp", "svn", "svn+ssh", "ws", "wss"]

def hostSchemes : List String := [
  "", "ftp", "http", "gopher", "nntp", "telnet", "imap", "wais", "file", "mms", "https", "shttp",
  "snews", "prospero", "rtsp", "rtspu", "rsync", "svn", "svn+ssh", "sftp", "nfs", "git", "git+ssh",
  "ws", "wss"]

def paramSchemes : List String := [
  "", "ftp", "hdl", "prospero", "http", "imap", "https", "shttp", "rtsp", "rtspu", "sip", "sips",
  "mms", "sftp", "tel"]

def isIn (all : List String) (scheme : List Char) : Bool := all.contains (String.ofList scheme)

def isSchemeChar (c : Char) : Bool :=
  (c.toNat < 128 && c.isAlphanum) || c == '+' || c == '-' || c == '.'

def splitScheme (otherwise : List Char) (cs : List Char) : List Char × List Char :=
  let front := cs.takeWhile (· != ':')
  match cs.head?, cs.drop front.length with
  | some c, ':' :: rest =>
    if c.isAlpha && front.all isSchemeChar then (Text.lowerChars front, rest) else (otherwise, cs)
  | _, _ => (otherwise, cs)

def splitAt (sep : Char) (cs : List Char) : List Char × List Char :=
  let front := cs.takeWhile (· != sep)
  (front, cs.drop (front.length + 1))

def splitParams (path : List Char) : List Char × List Char :=
  let last := (path.reverse.takeWhile (· != '/')).reverse
  let (step, params) := splitAt ';' last
  (path.take (path.length - last.length) ++ step, params)

def parse (scheme : List Char) (cs : List Char) : Parts :=
  let (scheme, rest) := splitScheme scheme cs
  let ends (c : Char) : Bool := c == '/' || c == '?' || c == '#'
  let (place, rest) := match rest with
    | '/' :: '/' :: more => (more.takeWhile (!ends ·), more.dropWhile (!ends ·))
    | rest => ([], rest)
  let (rest, fragment) := splitAt '#' rest
  let (path, query) := splitAt '?' rest
  let (path, params) := if isIn paramSchemes scheme then splitParams path else (path, [])
  { scheme, place, path, params, query, fragment }

def toChars (p : Parts) : List Char :=
  let path := if p.params.isEmpty then p.path else p.path ++ ';' :: p.params
  let path :=
    if !p.place.isEmpty then
      ['/', '/'] ++ p.place ++ (if !path.isEmpty && path.head? != some '/' then '/' :: path else path)
    else if path.take 2 == ['/', '/'] ||
        (!p.scheme.isEmpty && isIn hostSchemes p.scheme && (path.isEmpty || path.head? == some '/')) then
      ['/', '/'] ++ path
    else path
  (if p.scheme.isEmpty then [] else p.scheme ++ [':']) ++ path ++
    (if p.query.isEmpty then [] else '?' :: p.query) ++
    (if p.fragment.isEmpty then [] else '#' :: p.fragment)

/-- The steps from the root to what a path leads to. -/
def stepsOf (base path : List Char) : List (List Char) :=
  let steps := Text.pieces (· == '/') path
  if path.head? == some '/' then steps
  else
    let folder := Text.pieces (· == '/') base
    let folder := if folder.getLast? == some [] then folder else folder.dropLast
    match folder ++ steps with
    | first :: rest@(_ :: _) => first :: rest.dropLast.filter (!·.isEmpty) ++ [rest.getLastD []]
    | few => few

def isTurn (step : List Char) : Bool := step == ['.'] || step == ['.', '.']

def walk (steps : List (List Char)) : List (List Char) :=
  let done := steps.foldl (fun (acc : List (List Char)) step =>
    if step == ['.', '.'] then acc.drop 1 else if step == ['.'] then acc else step :: acc) []
  done.reverse ++ (if isTurn (steps.getLastD []) then [[]] else [])

def pathOf (steps : List (List Char)) : List Char :=
  let path := (Text.join "/" (steps.map String.ofList)).toList
  if path.isEmpty then ['/'] else path

inductive BracketFault where
  | unmatched
  | noNumber (text : String)
  deriving DecidableEq, Repr, Inhabited

/-- Checks the brackets of a place: a number in eight parts in them, and only a port after them. -/
def checkBrackets (place : List Char) : Except BracketFault Unit :=
  if !place.contains '[' && !place.contains ']' then .ok ()
  else
    let (before, bracketed) := splitAt '[' (place.reverse.takeWhile (· != '@')).reverse
    let (number, after) := splitAt ']' bracketed
    if !before.isEmpty || !(after.isEmpty || after.head? == some ':') then .error .unmatched
    else if !Host.isEight number then .error (.noNumber (String.ofList number))
    else .ok ()

def join (base reference : String) : Except BracketFault String := do
  if base.isEmpty then return reference
  else if reference.isEmpty then return base
  else
    let b := parse [] base.toList
    checkBrackets b.place
    let r := parse b.scheme reference.toList
    checkBrackets r.place
    if r.scheme != b.scheme || !isIn relativeSchemes r.scheme then return reference
    else if isIn hostSchemes r.scheme && !r.place.isEmpty then return String.ofList (toChars r)
    else
      let place := if isIn hostSchemes r.scheme then b.place else r.place
      let completed :=
        if r.path.isEmpty && r.params.isEmpty then
          { r with
            place := place
            path := b.path
            params := b.params
            query := if r.query.isEmpty then b.query else r.query }
        else { r with place := place, path := pathOf (walk (stepsOf b.path r.path)) }
      return String.ofList (toChars completed)

end TriStore.Reference
