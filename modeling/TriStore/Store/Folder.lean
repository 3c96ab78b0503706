import TriStore.Element.Header
import TriStore.Files.Locks

/-!
A store in a folder: one file for each element, in a folder for each kind.
-/
namespace TriStore

structure Disk where
  files : FileTree := {}
  locks : Locks := {}
  deriving Inhabited

structure Folder where
  root : Path
  wait : Wait := Wait.usual
  deriving Inhabited

namespace Folder

def folderOf (f : Folder) (kind : Kind) : Path := f.root.join kind.label

def foundNames (f : Folder) (t : FileTree) (kind : Kind) : List String :=
  (t.namesIn (f.folderOf kind)).filter (·.endsWith ".md")

def elementNames (f : Folder) (t : FileTree) (kind : Kind) : List String :=
  (f.foundNames t kind).mergeSort Text.le

/-- The path of an element: the one its key names, or of a file whose name means the same. -/
def pathFor (f : Folder) (t : FileTree) (key : Key) : Except Failure Path := do
  let folder := f.folderOf key.kind
  let canonical := folder.join key.filename
  if (← t.exists? canonical) || !(← t.isFolder folder) then return canonical
  match (f.foundNames t key.kind).find? (Name.normalize · == key.name) with
  | some name => return folder.join name
  | none => return canonical

def skipLine (p : Path) (e : Failure) : String :=
  "Skipping unreadable element file " ++ p.toText ++ ": " ++ e.message

def readText (t : FileTree) (p : Path) : Except Failure String := do
  match Text.Utf8.decode (← t.read p) with
  | .ok s => return s
  | .error cause => throw (.undecodable cause)

def entryOf (kind : Kind) (name content : String) : Except Failure Entry := do
  let e ← Entry.ofContent (Key.of kind name) content (.text (kind.label ++ "/" ++ name))
    (.text (← Digest.blob content))
  return { e with modified := some .file }

/-- The entries of the named files; one that cannot be read is left out with a warning. -/
def entriesOf (f : Folder) (t : FileTree) (kind : Kind) : List String → List String × Except Failure (List Entry)
  | [] => ([], .ok [])
  | name :: rest =>
    let p := (f.folderOf kind).join name
    match readText t p with
    | .error e =>
      let (lines, r) := entriesOf f t kind rest
      (skipLine p e :: lines, r)
    | .ok content =>
      match entryOf kind name content with
      | .error e => ([], .error e)
      | .ok entry =>
        let (lines, r) := entriesOf f t kind rest
        (lines, r.map (entry :: ·))

def loadKinds (f : Folder) (t : FileTree) : List Kind → List String × Except Failure (List Entry)
  | [] => ([], .ok [])
  | kind :: kinds =>
    match t.isFolder (f.folderOf kind) with
    | .error e => ([], .error e)
    | .ok false => loadKinds f t kinds
    | .ok true =>
      match f.entriesOf t kind (f.elementNames t kind) with
      | (lines, .error e) => (lines, .error e)
      | (lines, .ok entries) =>
        let (more, r) := loadKinds f t kinds
        (lines ++ more, r.map (entries ++ ·))

/-- The entries of one kind, or of all, and the warnings. A store whose folder is not there is empty. -/
def load (f : Folder) (t : FileTree) (kind : Option Kind) : List String × Except Failure (List Entry) :=
  match t.exists? f.root with
  | .error e => ([], .error e)
  | .ok false => ([], .ok [])
  | .ok true => f.loadKinds t (kind.elim Kind.all fun k => [k])

def unreadable (p : Path) (e : Failure) : Failure :=
  .unavailable .home ("cannot read " ++ p.toText ++ ": " ++ e.message)

def fetch (f : Folder) (t : FileTree) (key : Key) : Except Failure String := do
  let p ← f.pathFor t key
  match readText t p with
  | .ok s => return s
  | .error (.file .absent _ _) => throw (.notFound key.label "local portfolio")
  | .error (.file fault path second) => throw (unreadable p (.file fault path second))
  | .error (.undecodable cause) => throw (unreadable p (.undecodable cause))
  | .error e => throw e

def changed (key : Key) : Failure := .conflict key.label "local file changed since it was indexed"

def isExpected (t : FileTree) (p : Path) (revision : Value) : Except Failure Bool := do
  return Value.same (.text (Digest.blobOfBytes (← t.read p))) revision

/-- Whether a file may be written: there is none yet, or it is as the writer last saw it. -/
def checkFree (t : FileTree) (p : Path) (key : Key) (expected : Option Value) : Except Failure Unit := do
  if ← t.exists? p then
    match expected with
    | none => throw (.conflict key.label "local file already exists")
    | some r => if !(← isExpected t p r) then throw (changed key)

def writeAt (t : FileTree) (p : Path) (key : Key) (content : String) (expected : Option Value) :
    Except Failure Unit × FileTree :=
  match checkFree t p key expected with
  | .error e => (.error e, t)
  | .ok () => t.replace p (FileTree.encoded content)

def deleteAt (t : FileTree) (p : Path) (key : Key) (expected : Option Value) : Except Failure FileTree := do
  if !(← t.exists? p) then return t
  match expected with
  | none => pure ()
  | some r => if !(← isExpected t p r) then throw (changed key)
  t.remove p

/-- Does something to the file of an element under the lock of its path, which is given back. -/
def underLock (f : Folder) (d : Disk) (key : Key) (act : Path → Except Failure Unit × FileTree) :
    Except Failure Unit × Disk :=
  match f.pathFor d.files key with
  | .error e => (.error e, d)
  | .ok p =>
    match d.locks.take p f.wait with
    | .error e => (.error e, d)
    | .ok held =>
      let (r, files) := act p
      (r, { files, locks := held.release p })

def lock (f : Folder) (d : Disk) (key : Key) : Except Failure Unit × Disk :=
  match f.pathFor d.files key with
  | .error e => (.error e, d)
  | .ok p =>
    match d.locks.take p f.wait with
    | .error e => (.error e, d)
    | .ok locks => (.ok (), { d with locks })

def write (f : Folder) (d : Disk) (key : Key) (content : String) (expected : Option Value) :
    Except Failure Value × Disk :=
  let (r, d) := f.underLock d key fun p => writeAt d.files p key content expected
  (r.bind fun _ => (Digest.blob content).map .text, d)

def delete (f : Folder) (d : Disk) (key : Key) (expected : Option Value) : Except Failure Unit × Disk :=
  f.underLock d key fun p =>
    match deleteAt d.files p key expected with
    | .ok files => (.ok (), files)
    | .error e => (.error e, d.files)

def layOutKinds (f : Folder) (t : FileTree) : List Kind → Except Failure Unit × FileTree
  | [] => (.ok (), t)
  | kind :: kinds =>
    match t.ensureFolder (f.folderOf kind) with
    | (.error e, t) => (.error e, t)
    | (.ok (), t) => layOutKinds f t kinds

def layOut (f : Folder) (t : FileTree) : Except Failure Unit × FileTree := f.layOutKinds t Kind.all

end Folder

end TriStore
