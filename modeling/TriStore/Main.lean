import TriStore.Console.Run

/-!
The command line. It reads the files of the home folder, runs the command on them and writes back
what has changed.
-/
namespace TriStore.Main

partial def readFolder (base : String) (steps : List String) : IO (List (List String × FileItem)) := do
  let here := (← IO.FS.realPath base) / Text.join "/" steps
  let mut items := []
  for entry in ← here.readDir do
    let spot := steps ++ [entry.fileName]
    if ← entry.path.isDir then
      items := items ++ [(spot, FileItem.folder)] ++ (← readFolder base spot)
    else items := items ++ [(spot, FileItem.file (← IO.FS.readBinFile entry.path))]
  return items

def homeFolder : IO String := do
  match ← IO.getEnv "FOLIO_HOME" with
  | some home => return home
  | none => return ((← IO.getEnv "HOME").getD "") ++ "/.folio"

def environment : IO (List (String × String)) := do
  let names := Policy.environmentName :: Repository.tokenNames
  let found ← names.mapM fun name => do return (← IO.getEnv name).map (name, ·)
  return found.filterMap id

/-- The web that a document in the home folder describes; without one it has no routes. -/
def webOf (files : FileTree) (home : Path) : Web :=
  match files.read (home.join "web.json") with
  | .error _ => {}
  | .ok bytes =>
    match Json.parseBytes bytes with
    | .ok (.list routes) => Web.ofValues routes
    | _ => {}

def sameItem : FileItem → FileItem → Bool
  | .folder, .folder => true
  | .file a, .file b => a == b
  | _, _ => false

def writeBack (before after : FileTree) : IO Unit := do
  for (spot, item) in after.items do
    let path := Path.toText ⟨spot⟩
    match item with
    | .folder => IO.FS.createDirAll path
    | .file bytes =>
      if !((before.get? spot).any (sameItem item)) then
        IO.FS.createDirAll (Path.toText ⟨spot.dropLast⟩)
        IO.FS.writeBinFile path bytes
  for (spot, item) in before.items do
    match item, after.get? spot with
    | .file _, none => IO.FS.removeFile (Path.toText ⟨spot⟩)
    | _, _ => pure ()

def render : Console.Printed → String
  | .text s => s
  | .table title columns rows => Text.join "\n" (title :: (columns :: rows).map (Text.join " | "))
  | .panel title body => title ++ "\n" ++ body

end TriStore.Main

open TriStore TriStore.Main in
def main (words : List String) : IO UInt32 := do
  let folder ← homeFolder
  IO.FS.createDirAll folder
  let home := Path.ofText (← IO.FS.realPath folder).toString
  let items ← readFolder home.toText []
  let outside := (List.range home.steps.length).map fun n => (home.steps.take (n + 1), FileItem.folder)
  let files : FileTree := { items := outside ++ items.map fun (spot, i) => (home.steps ++ spot, i) }
  let machine : Console.Machine := {
    home := ⟨home⟩, environment := ← environment, files, web := webOf files home }
  let (finish, after) := Console.run machine words
  writeBack files after.files
  after.printed.forM fun p => IO.println (render p)
  match finish with
  | .code n => return n.toUInt32
  | .failure e =>
    IO.eprintln e.message
    return 1
