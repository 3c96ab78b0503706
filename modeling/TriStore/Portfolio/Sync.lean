import TriStore.Portfolio.Search
import TriStore.Sync.Plan
import TriStore.Sync.Secret

/-!
Keeping the store here and the remote store in step.
-/
namespace TriStore

def Failure.isRecoverable : Failure → Bool
  | .unavailable .. | .rejected _ | .notFound .. | .lockTimeout .. | .file .. | .system _ => true
  | _ => false

def Action.attempt {α : Type} (act : Action α) : Action (Except Failure α) := do
  let (r, w) := act.run (← get)
  set w
  return r

/-- The revision that a writer has seen; none when there is no value. -/
def Value.revision? : Value → Option Value
  | .null => none
  | v => some v

namespace Portfolio

def disabled : Failure := .syncDisabled "Portfolio sync is disabled (sync.enabled is false)"

def checkBulk (s : SyncSettings) (d : Direction) : Except Failure Unit := do
  if !s.enabled then throw disabled
  if d != .push && !s.bulkDownload then
    throw (.syncDisabled "Bulk download is disabled (sync.bulk_download_enabled is false)")
  if d != .pull && !s.bulkUpload then
    throw (.syncDisabled "Bulk upload is disabled (sync.bulk_upload_enabled is false)")

def plan (d : Direction) (m : Mode) : Action Plan := do
  let here ← Action.listEntries .home none
  let there ← Action.listEntries .remote none
  Action.warnAll (Plan.directionWarning d m)
  liftExcept (Plan.make here there d m)

def written (p : Portfolio) (s : Source) : Action Unit := do
  if p.dropsResults then
    let _ ← p.forget (some s)

def endsOf : Direction → Source × Source
  | .pull => (.remote, .home)
  | _ => (.home, .remote)

/-- The content that an item would write: what comes in is validated, and what goes out is searched for
credentials. -/
def contentFor (p : Portfolio) (i : PlanItem) : Action String := do
  let content ← Action.fetch (endsOf i.flow).1 i.key
  if i.flow == .pull then liftExcept (p.validate i.key content)
  else if p.settings.sync.scanForSecrets && !(findSecrets content).isEmpty then
    throw (.rejected ("potential secret detected in " ++ i.key.label))
  else return content

def expectedOf (i : PlanItem) : Option Value :=
  let revision := if i.flow == .pull then i.localRevision else i.remoteRevision
  if revision.isGiven then some revision else none

def carryOut (p : Portfolio) (i : PlanItem) : Action Unit := do
  let target := (endsOf i.flow).2
  if i.step == .delete then Action.delete target i.key (expectedOf i)
  else
    let content ← p.contentFor i
    let _ ← Action.write target i.key content (if i.step == .update then expectedOf i else none)

def apply (p : Portfolio) (i : PlanItem) : Action Outcome := do
  match ← Action.attempt (p.carryOut i) with
  | .ok _ =>
    p.written (endsOf i.flow).2
    return ⟨i, .applied, i.reason⟩
  | .error (.conflict _ reason) =>
    Action.warn ("Conflict on " ++ i.key.label ++ ": " ++ reason)
    return ⟨i, .conflict, reason⟩
  | .error e =>
    if !e.isRecoverable then throw e
    Action.report ("Failed to " ++ i.step.label ++ " " ++ i.key.label ++ ": " ++ e.message)
    return ⟨i, .failed, e.message⟩

/-- Carries out the items of a plan in order; conflicts and others not to be carried out are only noted. -/
def applyAll (p : Portfolio) : List PlanItem → Action (List Outcome)
  | [] => return []
  | i :: rest => do
    if i.step == .unchanged then applyAll p rest
    else
      let outcome ←
        if i.step == .conflict then pure ⟨i, .conflict, i.reason⟩
        else if !i.executable then pure ⟨i, .skipped, i.reason⟩
        else p.apply i
      return outcome :: (← applyAll p rest)

def needsConfirmation (plan : Plan) (force confirm : Bool) : Bool :=
  plan.mode == .mirror && !plan.deletions.isEmpty && !(force || confirm)

def sync (p : Portfolio) (d : Direction) (m : Mode) (dryRun force confirm : Bool) : Action SyncResult := do
  if !dryRun then liftExcept (checkBulk p.settings.sync (Plan.effective d m))
  let plan ← plan d m
  if dryRun then return .planned plan
  if needsConfirmation plan force confirm then
    Action.warn ("Mirror sync would delete " ++ Text.ofNat plan.deletions.length ++
      " element(s); confirmation required")
    return .finished { plan, requiresConfirmation := true }
  return .finished { plan, outcomes := ← p.applyAll plan.items }

end Portfolio

end TriStore
