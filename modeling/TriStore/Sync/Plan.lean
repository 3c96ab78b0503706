import TriStore.Element.Entry
import TriStore.Version

/-!
A sync plan compares two indexes key by key and says for each element what a sync would do. A report
says what came of it.
-/
namespace TriStore

/-- The way content flows: `push` from here to the remote store, `pull` the other way. -/
inductive Direction where
  | push
  | pull
  | both
  deriving DecidableEq, Repr, Inhabited

namespace Direction

def all : List Direction := [.push, .pull, .both]

def label : Direction → String
  | .push => "push"
  | .pull => "pull"
  | .both => "both"

def ofLabel? (s : String) : Option Direction := all.find? (·.label == s)

def ofValue (v : Value) : Except Failure Direction :=
  match v with
  | .text s => (ofLabel? s).elim (.error (.unknownChoice .direction v.literal)) .ok
  | _ => .error (.unknownChoice .direction v.literal)

end Direction

/-- How much a sync may change: `additive` never deletes, `mirror` copies the source, and `backup` pulls and
lets the remote copy win. -/
inductive Mode where
  | additive
  | mirror
  | backup
  deriving DecidableEq, Repr, Inhabited

namespace Mode

def all : List Mode := [.additive, .mirror, .backup]

def label : Mode → String
  | .additive => "additive"
  | .mirror => "mirror"
  | .backup => "backup"

def ofLabel? (s : String) : Option Mode := all.find? (·.label == s)

def ofValue (v : Value) : Except Failure Mode :=
  match v with
  | .text s => (ofLabel? s).elim (.error (.unknownChoice .mode v.literal)) .ok
  | _ => .error (.unknownChoice .mode v.literal)

end Mode

inductive Step where
  | create
  | update
  | delete
  | unchanged
  | conflict
  deriving DecidableEq, Repr, Inhabited

def Step.all : List Step := [.create, .update, .delete, .unchanged, .conflict]

def Step.label : Step → String
  | .create => "create"
  | .update => "update"
  | .delete => "delete"
  | .unchanged => "unchanged"
  | .conflict => "conflict"

def Step.isChange : Step → Bool
  | .create | .update | .delete => true
  | .unchanged | .conflict => false

/-- What is planned for one element. A `pull` changes the store here, a `push` the remote store. -/
structure PlanItem where
  key : Key
  step : Step
  flow : Direction
  reason : String
  localVersion : String
  remoteVersion : String
  localRevision : Value
  remoteRevision : Value
  executable : Bool
  deriving Repr, Inhabited

def PlanItem.isWrite (i : PlanItem) : Bool := i.executable && i.step.isChange

def PlanItem.toValue (i : PlanItem) : Value :=
  .record [
    ("key", .text i.key.label), ("action", .text i.step.label), ("direction", .text i.flow.label),
    ("reason", .text i.reason), ("local_version", .text i.localVersion),
    ("remote_version", .text i.remoteVersion), ("local_revision", i.localRevision),
    ("remote_revision", i.remoteRevision), ("executable", .bool i.executable),
    ("is_write", .bool i.isWrite)]

structure Plan where
  direction : Direction
  mode : Mode
  items : List PlanItem
  warnings : List String
  deriving Repr, Inhabited

namespace Plan

def withStep (p : Plan) (s : Step) : List PlanItem := p.items.filter (·.step == s)

def writes (p : Plan) : List PlanItem := p.items.filter (·.isWrite)

def deletions (p : Plan) : List PlanItem := p.items.filter fun i => i.step == .delete && i.executable

def count (p : Plan) (s : Step) : Nat := (p.withStep s).length

def counts (p : Plan) : Value := .record (Step.all.map fun s => (s.label, .int (p.count s)))

def toValue (p : Plan) : Value :=
  let keys (items : List PlanItem) : Value := .texts (items.map (·.key.label))
  .record [
    ("direction", .text p.direction.label), ("mode", .text p.mode.label),
    ("warnings", .texts p.warnings), ("entries", .list (p.items.map (·.toValue))),
    ("counts", p.counts), ("conflicts", keys (p.withStep .conflict)), ("writes", keys p.writes),
    ("deletions", keys p.deletions)]

structure Pair where
  here : Option Entry
  there : Option Entry

structure Verdict where
  step : Step
  flow : Direction
  reason : String
  executable : Bool := true

def divergence (here there : Entry) : String :=
  if !here.version.isEmpty && here.version == there.version then
    "content differs at the same version " ++ here.version
  else "content differs and versions cannot be ordered"

/-- Both ways: the newer copy wins, and without an order of versions none does. -/
def twoWay : Pair → Verdict
  | ⟨_, none⟩ => { step := .create, flow := .push, reason := "only in local portfolio" }
  | ⟨none, some _⟩ => { step := .create, flow := .pull, reason := "only in remote portfolio" }
  | ⟨some here, some there⟩ =>
    if here.sameContent there then
      { step := .unchanged, flow := .both, reason := "identical content" }
    else if isNewer here.version there.version then
      { step := .update, flow := .push,
        reason := "local " ++ here.version ++ " is newer than remote " ++ there.version }
    else if isNewer there.version here.version then
      { step := .update, flow := .pull,
        reason := "remote " ++ there.version ++ " is newer than local " ++ here.version }
    else { step := .conflict, flow := .both, reason := divergence here there, executable := false }

def sideNames : Direction → String × String
  | .push => ("local portfolio", "remote portfolio")
  | _ => ("remote portfolio", "local portfolio")

def sides (flow : Direction) (p : Pair) : Option Entry × Option Entry :=
  match flow with
  | .push => (p.here, p.there)
  | _ => (p.there, p.here)

/-- One way: a missing target is created, a missing source deletes in mirror mode only, and else the newer
source wins. -/
def oneWay (flow : Direction) (mode : Mode) (p : Pair) : Verdict :=
  let (sourceName, targetName) := sideNames flow
  match sides flow p with
  | (_, none) => { step := .create, flow, reason := "missing from " ++ targetName }
  | (none, some _) =>
    if mode == .mirror then { step := .delete, flow, reason := "not in " ++ sourceName }
    else
      { step := .delete, flow, executable := false,
        reason := "not in " ++ sourceName ++ "; kept (" ++ mode.label ++ " mode never deletes)" }
  | (some source, some target) =>
    if source.sameContent target then { step := .unchanged, flow, reason := "identical content" }
    else if mode == .backup then
      { step := .update, flow, reason := "backup mode: remote copy wins" }
    else if isNewer source.version target.version then
      { step := .update, flow, reason := source.version ++ " is newer than " ++ target.version }
    else if isNewer target.version source.version then
      { step := .conflict, flow, executable := false,
        reason := targetName ++ " has newer version " ++ target.version ++ " (source has " ++
          source.version ++ ")" }
    else
      let (here, there) := if flow == .push then (source, target) else (target, source)
      { step := .conflict, flow, reason := divergence here there, executable := false }

def verdict (direction : Direction) (mode : Mode) (p : Pair) : Verdict :=
  match direction with
  | .both => twoWay p
  | flow => oneWay flow mode p

def item (direction : Direction) (mode : Mode) (key : Key) (p : Pair) : PlanItem :=
  let v := verdict direction mode p
  { key, step := v.step, flow := v.flow, reason := v.reason, executable := v.executable,
    localVersion := (p.here.map (·.version)).getD "",
    remoteVersion := (p.there.map (·.version)).getD "",
    localRevision := (p.here.map (·.revision)).getD (.text ""),
    remoteRevision := (p.there.map (·.revision)).getD (.text "") }

/-- Refuses a pair whose versions cannot be compared although the plan depends on them. -/
def checkPair (direction : Direction) (mode : Mode) (p : Pair) : Except Failure Unit :=
  match sides (if direction == .both then .push else direction) p with
  | (some source, some target) =>
    if source.sameContent target || mode == .backup then .ok ()
    else do
      Version.check source.version
      Version.check target.version
  | _ => .ok ()

def lastWith (key : Key) (entries : List Entry) : Option Entry :=
  entries.reverse.find? (·.key == key)

def keysOf (here there : List Entry) : List Key :=
  ((here ++ there).map (·.key)).eraseDups.mergeSort Key.le

/-- Whether the copy here is private; that keeps the element out of any sync. -/
def isPrivate (here : List Entry) (key : Key) : Bool :=
  ((lastWith key here).map (·.localOnly)).getD false

def effective (direction : Direction) (mode : Mode) : Direction :=
  if mode == .backup then .pull else direction

def directionWarning (direction : Direction) (mode : Mode) : List String :=
  if effective direction mode == direction then []
  else ["backup mode only pulls; ignoring requested direction '" ++ direction.label ++ "'"]

def build (here there : List Entry) (direction : Direction) (mode : Mode) : Plan :=
  let keys := keysOf here there
  let hidden := keys.filter (isPrivate here)
  let direction' := effective direction mode
  { direction := direction', mode, items := (keys.filter (!isPrivate here ·)).map fun key =>
      item direction' mode key ⟨lastWith key here, lastWith key there⟩,
    warnings := directionWarning direction mode ++ (if hidden.isEmpty then []
        else [Text.ofNat hidden.length ++ " local-only element(s) excluded from sync"]) }

def check (here there : List Entry) (direction : Direction) (mode : Mode) : Except Failure Unit :=
  ((keysOf here there).filter (!isPrivate here ·)).forM fun key =>
    checkPair (effective direction mode) mode ⟨lastWith key here, lastWith key there⟩

/-- The plan for two indexes. There is none if it would depend on a version that cannot be read. -/
def make (here there : List Entry) (direction : Direction) (mode : Mode) : Except Failure Plan := do
  check here there direction mode
  return build here there direction mode

theorem make_eq_ok_iff {here there : List Entry} {d : Direction} {m : Mode} {plan : Plan} :
    make here there d m = .ok plan ↔ check here there d m = .ok () ∧ build here there d m = plan := by
  unfold make
  cases check here there d m with
  | error e => exact ⟨nofun, fun no => nomatch no.1⟩
  | ok _ => exact ⟨fun made => ⟨rfl, Except.ok.inj made⟩, fun made => congrArg Except.ok made.2⟩

end Plan

inductive Status where
  | applied
  | failed
  | conflict
  | skipped
  deriving DecidableEq, Repr, Inhabited

def Status.label : Status → String
  | .applied => "applied"
  | .failed => "failed"
  | .conflict => "conflict"
  | .skipped => "skipped"

structure Outcome where
  item : PlanItem
  status : Status
  message : String
  deriving Repr, Inhabited

def Outcome.toValue (o : Outcome) : Value :=
  .record [
    ("key", .text o.item.key.label), ("action", .text o.item.step.label),
    ("direction", .text o.item.flow.label), ("status", .text o.status.label),
    ("message", .text o.message)]

structure SyncReport where
  plan : Plan
  outcomes : List Outcome := []
  requiresConfirmation : Bool := false
  deriving Repr, Inhabited

namespace SyncReport

def withStatus (r : SyncReport) (s : Status) : List Outcome := r.outcomes.filter (·.status == s)

def success (r : SyncReport) : Bool := !r.requiresConfirmation && (r.withStatus .failed).isEmpty

def toValue (r : SyncReport) : Value :=
  let number (s : Status) : Value := .int (r.withStatus s).length
  .record [
    ("counts", r.plan.counts), ("direction", .text r.plan.direction.label),
    ("warnings", .texts r.plan.warnings), ("outcomes", .list (r.outcomes.map (·.toValue))),
    ("requires_confirmation", .bool r.requiresConfirmation), ("success", .bool r.success),
    ("applied", number .applied), ("failed", number .failed), ("conflicts", number .conflict)]

end SyncReport

inductive SyncResult where
  | planned (p : Plan)
  | finished (r : SyncReport)
  deriving Repr, Inhabited

def SyncResult.toValue : SyncResult → Value
  | .planned p => .record [("plan", p.toValue)]
  | .finished r => r.toValue

inductive Operation where
  | download
  | upload
  | listRemote
  | compare
  deriving DecidableEq, Repr, Inhabited

namespace Operation

def all : List Operation := [.download, .upload, .listRemote, .compare]

def label : Operation → String
  | .download => "download"
  | .upload => "upload"
  | .listRemote => "list-remote"
  | .compare => "compare"

def ofLabel? (s : String) : Option Operation := all.find? (·.label == s)

def ofValue (v : Value) : Except Failure Operation :=
  match v with
  | .text s => (ofLabel? s).elim (.error (.unknownChoice .operation v.literal)) .ok
  | _ => .error (.unknownChoice .operation v.literal)

end Operation

inductive Comparison where
  | identical
  | different
  | localOnly
  | remoteOnly
  deriving DecidableEq, Repr, Inhabited

def Comparison.label : Comparison → String
  | .identical => "identical"
  | .different => "different"
  | .localOnly => "local-only"
  | .remoteOnly => "remote-only"

structure ElementReport where
  operation : Operation
  success : Bool
  message : String
  key : Option Key := none
  entries : List Entry := []
  comparison : Option Comparison := none
  localVersion : String := ""
  remoteVersion : String := ""
  diff : String := ""
  requiresConfirmation : Bool := false
  isConflict : Bool := false
  deriving Repr, Inhabited

def ElementReport.toValue (r : ElementReport) : Value :=
  .record [
    ("operation", .text r.operation.label), ("success", .bool r.success),
    ("message", .text r.message), ("key", .ofOption (fun k => .text k.label) r.key),
    ("entries", .list (r.entries.map (·.report))),
    ("compare_status", .ofOption (fun c => .text c.label) r.comparison),
    ("local_version", .text r.localVersion), ("remote_version", .text r.remoteVersion),
    ("diff", .text r.diff), ("requires_confirmation", .bool r.requiresConfirmation),
    ("conflict", .bool r.isConflict)]

end TriStore
