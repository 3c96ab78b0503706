import TriStore.Files.Tree
import TriStore.Policy.Layers
import TriStore.Settings
import TriStore.Yaml.Stream
import TriStore.Yaml.Writer

/-!
The folder of a user's own documents: the settings and the saved policy, both in YAML and both open
to editing by hand.
-/
namespace TriStore

structure Home where
  base : Path
  deriving DecidableEq, Repr, Inhabited

namespace Home

def policyPath (h : Home) : Path := h.base.join "source_priority.yml"

def settingsPath (h : Home) : Path := h.base.join "config.yml"

def portfolioPath (h : Home) : Path := h.base.join "portfolio"

def unreadable (p : Path) (why : String) : Failure :=
  .configuration ("Could not read " ++ p.toText ++ ": " ++ why) []

def loadDocument (t : FileTree) (p : Path) : Except Failure Value := do
  if !(← t.exists? p) then return .null
  let bytes ← match t.read p with
    | .ok bytes => pure bytes
    | .error e => throw (unreadable p e.message)
  match Yaml.load bytes with
  | .ok v => return v
  | .error .malformed => throw (unreadable p "malformed document")
  | .error (.failure e) => throw e.failure

def loadPolicy (h : Home) (t : FileTree) : Except Failure Value := loadDocument t h.policyPath

def saveDocument (t : FileTree) (p : Path) (v : Value) : Except Failure Unit × FileTree :=
  match v.checkWritable with
  | .error e => (.error e, t)
  | .ok () => t.replace p (FileTree.encoded (Yaml.Writer.render v))

def savePolicy (h : Home) (t : FileTree) (p : Policy) : Except Failure Unit × FileTree :=
  saveDocument t h.policyPath p.toValue

def clearPolicy (h : Home) (t : FileTree) : Except Failure (Bool × FileTree) := do
  if ← t.exists? h.policyPath then return (true, ← t.remove h.policyPath) else return (false, t)

def loadSettings (h : Home) (t : FileTree) : Except Failure Settings := do
  let settings ← match ← loadDocument t h.settingsPath with
    | .null => pure {}
    | .map kvs => Settings.ofValue (.map kvs)
    | _ => throw (.configuration (h.settingsPath.toText ++ " must contain a mapping") [])
  return if settings.portfolioDir.isEmpty then
      { settings with portfolioDir := h.portfolioPath.toText }
    else settings

def saveSettings (h : Home) (t : FileTree) (s : Settings) : Except Failure Unit × FileTree :=
  saveDocument t h.settingsPath s.toValue

def policy (h : Home) (t : FileTree) (environment : List (String × String)) : List String × Except Failure Policy :=
  Policy.base (Policy.layersOf (h.loadPolicy t) environment)

end Home

end TriStore
