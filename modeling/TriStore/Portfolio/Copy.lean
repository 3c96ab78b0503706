import TriStore.Diff.Unified
import TriStore.Portfolio.Sync

/-!
Operations on single elements: copying one to or from the store here, and comparing two copies.
-/
namespace TriStore.Portfolio

def shown (version : String) : String := if version.isEmpty then "?" else version

def resolveIn (s : Source) (name place : String) (kind : Option Kind) : Action Entry := do
  liftExcept (Lookup.resolve name (← Action.listEntries s kind) place)

def listRemote (kind : Option Kind) : Action ElementReport := do
  let entries ← Action.listEntries .remote kind
  return {
    operation := .listRemote, success := true, entries,
    message := Text.ofNat entries.length ++ " element(s) in remote portfolio" }

def downloadReport (key : Key) (success : Bool) (message : String) : ElementReport :=
  { operation := .download, success, message, key := some key }

/-- Failures of a write that a download reports instead of failing. -/
def isWriteFault : Failure → Bool
  | .lockTimeout .. | .file .. | .system _ => true
  | _ => false

def takeOver (p : Portfolio) (s : Source) (key : Key) (content : String) (existing : Option Entry) :
    Action ElementReport := do
  let expected := existing.bind (·.revision.revision?)
  match ← Action.attempt (Action.write .home key content expected) with
  | .ok _ =>
    p.written .home
    return downloadReport key true ("Downloaded " ++ key.label ++ " from " ++ s.title)
  | .error (.conflict k reason) =>
    return { downloadReport key false (Failure.conflict k reason).message with isConflict := true }
  | .error e =>
    if isWriteFault e then
      return downloadReport key false ("Could not write " ++ key.label ++ ": " ++ e.message)
    throw e

def overwriteReport (s : Source) (key : Key) (here there : Entry) : ElementReport :=
  { downloadReport key false ("Local copy of " ++ key.label ++ " differs (local " ++
      shown here.version ++ ", " ++ s.label ++ " " ++ shown there.version ++
      "); confirm to overwrite") with
    localVersion := here.version, remoteVersion := there.version, requiresConfirmation := true }

def download (p : Portfolio) (name : String) (kind : Option Kind) (s : Source)
    (force confirm : Bool) : Action ElementReport := do
  if !p.settings.sync.enabled then throw disabled
  if s == .registry && !p.hasRegistry then throw (.unavailable s "not configured")
  let origin : Source := if s == .registry then .registry else .remote
  let entry ← resolveIn origin name s.title kind
  let key := entry.key
  match ← Action.attempt (do liftExcept (p.validate key (← Action.fetch origin key))) with
  | .error (.rejected reason) =>
    return downloadReport key false ("Content of " ++ key.label ++ " rejected: " ++ reason)
  | .error e => throw e
  | .ok content =>
    match ← Action.getEntry .home key with
    | none => p.takeOver s key content none
    | some here =>
      if here.digest.same (.text (← liftExcept (Digest.ofContent content))) then
        return downloadReport key true (key.label ++ " is already up to date")
      if !(force || confirm) then return overwriteReport s key here entry
      p.takeOver s key content (some here)

def uploadReport (key : Key) (success : Bool) (message : String) : ElementReport :=
  { operation := .upload, success, message, key := some key }

def upload (p : Portfolio) (name : String) (kind : Option Kind) (force confirm : Bool) : Action ElementReport := do
  if !p.settings.sync.enabled then throw disabled
  let entry ← resolveIn .home name "local portfolio" kind
  let key := entry.key
  let content ← Action.fetch .home key
  let objections := uploadObjections entry content p.settings.sync.scanForSecrets
  if !objections.isEmpty then return uploadReport key false (Text.join "; " objections)
  let there ← Action.getEntry .remote key
  if there.any entry.sameContent then
    return uploadReport key true (key.label ++ " is already up to date")
  if p.settings.sync.requireConfirmation && !(confirm || force) then
    let verb := if there.isSome then "overwrite " else "create "
    return { uploadReport key false ("Upload would " ++ verb ++ key.label ++
        " in the remote portfolio; confirm to proceed") with requiresConfirmation := true }
  let expected := there.bind (·.revision.revision?)
  match ← Action.attempt (Action.write .remote key content expected) with
  | .ok _ =>
    p.written .remote
    return uploadReport key true ("Uploaded " ++ key.label)
  | .error (.conflict k reason) =>
    return { uploadReport key false (Failure.conflict k reason).message with isConflict := true }
  | .error e => throw e

/-- One entry for each key of both listings, in the order of the first mention; the last entry here goes
first. -/
def union (here there : List Entry) : List Entry :=
  ((there ++ here).map (·.key)).eraseDups.filterMap fun k =>
    (Plan.lastWith k here).or (Plan.lastWith k there)

def linesOf (content : String) : List String := (Text.lines content.toList).map String.ofList

def difference (key : Key) : Action String := do
  let there ← Action.fetch .remote key
  let here ← Action.fetch .home key
  return Diff.unified (linesOf there) (linesOf here) ("remote/" ++ key.path) ("local/" ++ key.path)

def resolveBoth (name : String) (kind : Option Kind) : Action (Entry × List Entry × List Entry) := do
  let here ← Action.listEntries .home kind
  let there ← Action.listEntries .remote kind
  let found ← liftExcept (Lookup.resolve name (union here there) "local or remote portfolio")
  return (found, here, there)

def compare (name : String) (kind : Option Kind) (showDiff : Bool) : Action ElementReport := do
  let (found, hereEntries, thereEntries) ← resolveBoth name kind
  let key := found.key
  let here := hereEntries.find? (·.key == key)
  let there := thereEntries.find? (·.key == key)
  let report (comparison : Comparison) (message : String) : ElementReport :=
    { operation := .compare, success := true, message := key.label ++ message, key := some key,
      comparison := some comparison, localVersion := here.elim "" (·.version),
      remoteVersion := there.elim "" (·.version) }
  match here, there with
  | none, _ => return report .remoteOnly " exists only remotely"
  | some _, none => return report .localOnly " exists only locally"
  | some a, some b =>
    if a.sameContent b then return report .identical " is identical locally and remotely"
    let diff ← if showDiff then difference key else pure ""
    return { report .different " differs between local and remote" with diff }

structure ElementRequest where
  name : String := ""
  kind : Option Kind := none
  source : Source := .remote
  force : Bool := false
  confirm : Bool := false
  showDiff : Bool := false
  deriving Repr, Inhabited

def manage (p : Portfolio) (operation : Operation) (r : ElementRequest) : Action ElementReport :=
  match operation with
  | .listRemote => listRemote r.kind
  | .compare => compare r.name r.kind r.showDiff
  | .download => p.download r.name r.kind r.source r.force r.confirm
  | .upload => p.upload r.name r.kind r.force r.confirm

end TriStore.Portfolio
