import TriStore.Failure

/-!
A tree of folders and files, with the operations of a file system and the faults they can have. A path
is a list of steps from the root.
-/
namespace TriStore

structure Path where
  steps : List String
  deriving DecidableEq, Repr, Inhabited

namespace Path

/-- The steps that a text names; empty ones and single points are left out. -/
def stepsOf (s : String) : List String :=
  ((Text.pieces (· == '/') s.toList).map String.ofList).filter fun p => !p.isEmpty && p != "."

def ofText (s : String) : Path := ⟨stepsOf s⟩

def toText (p : Path) : String := "/" ++ Text.join "/" p.steps

def join (p : Path) (s : String) : Path :=
  if s.startsWith "/" then ofText s else ⟨p.steps ++ stepsOf s⟩

def name (p : Path) : String := p.steps.getLastD ""

def parent (p : Path) : Path := ⟨p.steps.dropLast⟩

def straight (p : Path) : Path :=
  ⟨(p.steps.foldl (fun acc s => if s == ".." then acc.drop 1 else s :: acc) []).reverse⟩

def below (p folder : Path) : Except Failure String :=
  if folder.steps.isPrefixOf p.steps then
    let rest := p.steps.drop folder.steps.length
    .ok (if rest.isEmpty then "." else Text.join "/" rest)
  else .error (.outside p.toText folder.toText)

/-- A half names a byte in a block of 128; no other half can be part of a name. -/
def isUnwritable (c : Char) : Bool :=
  Text.isStandIn c && !(0xdc80 ≤ Text.pointOf c && Text.pointOf c < 0xdd00)

def stepFault? (s : String) : Option Failure :=
  if s.toList.any isUnwritable then some .unencodable
  else if s.toList.contains '\x00' then some .nulInPath
  else none

def fault? (p : Path) : Option Failure := p.steps.findSome? stepFault?

end Path

inductive FileItem where
  | folder
  | file (bytes : ByteArray)
  deriving Inhabited

/-- All folders and files by the steps to them, as they are found. The root is always a folder. -/
structure FileTree where
  items : List (List String × FileItem) := []
  /-- By how many bytes the name of a passing file is longer than that of the file it replaces: it has the
  numbers of a process and of a thread. -/
  extra : Nat := 27
  deriving Inhabited

namespace FileTree

def get? (t : FileTree) (spot : List String) : Option FileItem :=
  if spot.isEmpty then some .folder else t.items.lookup spot

def isFolderAt (t : FileTree) (spot : List String) : Bool :=
  match t.get? spot with
  | some .folder => true
  | _ => false

def put (t : FileTree) (spot : List String) (i : FileItem) : FileTree :=
  if (t.items.lookup spot).isSome then
    { t with items := t.items.map fun x => if x.1 == spot then (x.1, i) else x }
  else { t with items := t.items ++ [(spot, i)] }

def erase (t : FileTree) (spot : List String) : FileTree :=
  { t with items := t.items.filter (·.1 != spot) }

def longestName : Nat := 255

def longestPath : Nat := 4095

def storedSize (s : String) : Nat := (Text.utf8 s).size + (s.toList.filter Text.isStandIn).length

/-- The place that the steps lead to from `here`, through folders. -/
def walk (t : FileTree) : List String → List String → Except FileFault (List String)
  | here, [] => .ok here
  | here, s :: rest =>
    match t.get? here with
    | some .folder =>
      if s == ".." then walk t here.dropLast rest
      else if storedSize s > longestName then .error .nameTooLong
      else walk t (here ++ [s]) rest
    | some (.file _) => .error .notFolder
    | none => .error .absent

def place (t : FileTree) (p : Path) : Except Failure (List String) :=
  match p.fault? with
  | some e => .error e
  | none =>
    if storedSize p.toText > longestPath then .error (.file .nameTooLong p.toText none)
    else match t.walk [] p.steps with
      | .ok spot => .ok spot
      | .error fault => .error (.file fault p.toText none)

def look (t : FileTree) (p : Path) : Except Failure (Option FileItem) :=
  match t.place p with
  | .ok spot => .ok (t.get? spot)
  | .error (.file .nameTooLong path second) => .error (.file .nameTooLong path second)
  | .error _ => .ok none

def exists? (t : FileTree) (p : Path) : Except Failure Bool := do
  return (← t.look p).isSome

def isFolder (t : FileTree) (p : Path) : Except Failure Bool := do
  match ← t.look p with
  | some .folder => return true
  | _ => return false

def read (t : FileTree) (p : Path) : Except Failure ByteArray := do
  match t.get? (← t.place p) with
  | some (.file bytes) => return bytes
  | some .folder => throw (.file .isFolder p.toText none)
  | none => throw (.file .absent p.toText none)

def makeFolder (t : FileTree) (p : Path) : Except Failure FileTree := do
  let spot ← t.place p
  match t.get? spot with
  | some .folder => return t
  | some (.file _) => throw (.file .occupied p.toText none)
  | none => return t.put spot .folder

/-- Makes a folder and those around it, as long as not more than so many are missing. What was made before a
failure stays. -/
def makeFolders : Nat → FileTree → Path → Except Failure Unit × FileTree
  | 0, t, _ => (.error .tooDeep, t)
  | n + 1, t, p =>
    match t.makeFolder p with
    | .ok t => (.ok (), t)
    | .error (.file .absent _ _) =>
      match makeFolders n t p.parent with
      | (.error e, t) => (.error e, t)
      | (.ok (), t) =>
        match t.makeFolder p with
        | .ok t => (.ok (), t)
        | .error e => (.error e, t)
    | .error e => (.error e, t)

def mostMissing : Nat := 980

def ensureFolder (t : FileTree) (p : Path) : Except Failure Unit × FileTree :=
  t.makeFolders mostMissing p

def write (t : FileTree) (p : Path) (bytes : ByteArray) : Except Failure FileTree := do
  let spot ← t.place p
  match t.get? spot with
  | some .folder => throw (.file .isFolder p.toText none)
  | _ => return t.put spot (.file bytes)

/-- Why a file that is to replace another cannot be written beside it or not take its place. -/
def replaceFault? (t : FileTree) (p : Path) : Option Failure :=
  match t.look p, p.fault? with
  | .error e, _ | _, some e => some e
  | .ok item, none =>
    if storedSize p.name + t.extra > longestName || storedSize p.toText + t.extra > longestPath then
      some (.file .nameTooLong p.toText none)
    else if p.name == ".." then some (.file .busy p.toText (some p.toText))
    else match item with
      | some .folder => some (.file .isFolder p.toText (some p.toText))
      | _ => none

/-- Replaces the content of a file in one step and makes the folders it lies in. -/
def replace (t : FileTree) (p : Path) (content : Except Failure ByteArray) : Except Failure Unit × FileTree :=
  match t.ensureFolder p.parent with
  | (.error e, t) => (.error e, t)
  | (.ok (), t) =>
    let written : Except Failure FileTree := do
      if p.steps.isEmpty then throw (.noName p.toText)
      let bytes ← content
      match t.replaceFault? p with
      | some e => throw e
      | none => t.write p bytes
    match written with
    | .error e => (.error e, t)
    | .ok t => (.ok (), t)

def encoded (s : String) : Except Failure ByteArray :=
  (Text.utf8? s).elim (.error .unencodable) .ok

def remove (t : FileTree) (p : Path) : Except Failure FileTree := do
  let spot ← t.place p
  match t.get? spot with
  | some (.file _) => return t.erase spot
  | some .folder => throw (.file .isFolder p.toText none)
  | none => throw (.file .absent p.toText none)

def childName? (folder : List String) : List String → Option String
  | [] => none
  | s :: rest =>
    match folder with
    | [] => if rest.isEmpty then some s else none
    | f :: more => if f == s then childName? more rest else none

def names (t : FileTree) (folder : List String) : List String :=
  t.items.filterMap fun x => childName? folder x.1

def namesIn (t : FileTree) (p : Path) : List String :=
  match t.place p with
  | .ok spot => if t.isFolderAt spot then t.names spot else []
  | .error _ => []

def filesBelow (t : FileTree) (p : Path) : List (String × ByteArray) :=
  t.items.filterMap fun (spot, i) =>
    match i with
    | .file bytes =>
      if p.steps.isPrefixOf spot then some (Text.join "/" (spot.drop p.steps.length), bytes) else none
    | .folder => none

end FileTree

end TriStore
