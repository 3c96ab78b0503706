import TriStore.Json.Reader
import TriStore.Text.Lower
import TriStore.Value.Text

/-!
A policy says which stores are searched, in what order, and how the search goes on from one to the
next.
-/
namespace TriStore

structure Policy where
  priority : List Source := [.home, .remote, .registry]
  stopOnFirst : Bool := true
  /-- The search goes through all stores so that versions can be compared. -/
  checkAllForUpdates : Bool := false
  fallbackOnError : Bool := true
  origin : String := "default"
  deriving DecidableEq, Repr, Inhabited

namespace Policy

def toValue (p : Policy) : Value :=
  .record [
    ("priority", .list (p.priority.map fun s => .text s.label)),
    ("stop_on_first", .bool p.stopOnFirst),
    ("check_all_for_updates", .bool p.checkAllForUpdates),
    ("fallback_on_error", .bool p.fallbackOnError)]

def describe (p : Policy) : String := Text.join " -> " (p.priority.map (·.title))

def report (p : Policy) : Value :=
  .record [
    ("priority", .texts (p.priority.map (·.label))), ("stop_on_first", .bool p.stopOnFirst),
    ("check_all_for_updates", .bool p.checkAllForUpdates),
    ("fallback_on_error", .bool p.fallbackOnError), ("origin", .text p.origin),
    ("describe", .text p.describe)]

def ofParts (priority : List Source) (switch : String → Bool → Bool) : Policy :=
  { priority, stopOnFirst := switch "stop_on_first" true,
    checkAllForUpdates := switch "check_all_for_updates" false,
    fallbackOnError := switch "fallback_on_error" true, origin := "config" }

end Policy

def Source.ofLabel (v : Value) : Except Failure Source :=
  match v with
  | .text s => (Source.ofLabel? s).elim (.error (.unknownChoice .source v.literal)) .ok
  | _ => .error (.unknownChoice .source v.literal)

/-- The source that a text names, in any case and also by one of two older names. -/
def Source.ofText? (s : String) : Option Source :=
  let token := Text.lower (Text.strip s)
  if token == "github" then some .remote
  else if token == "collection" then some .registry
  else Source.ofLabel? token

def Source.ofValue : Value → Except Failure Source
  | .source s => .ok s
  | .text s =>
    match Source.ofText? s with
    | some source => .ok source
    | none =>
      .error (.configuration ("Unknown source: " ++ s ++ ". Valid sources: local, remote, registry") [])
  | v => do
    v.checkWritable
    throw (.configuration ("Invalid source value: " ++ v.literal) [])

namespace Policy

/-- Why a document is no policy: fault by fault, or in short when none are named. -/
def linesOf (message : String) (details : List String) : List String :=
  if details.isEmpty then [message] else details

def elements? (v : Value) : Option (List Value) :=
  match v.opened with
  | .list vs | .tuple vs => some vs
  | _ => none

def readSources : List Value → Except Failure (List Source × List String)
  | [] => .ok ([], [])
  | v :: vs =>
    match Source.ofValue v with
    | .ok s => (readSources vs).map fun r => (s :: r.1, r.2)
    | .error (.configuration fault _) => (readSources vs).map fun r => (r.1, fault :: r.2)
    | .error e => .error e

/-- An order of stores and all the faults of the value: a list, not empty, of known sources without
repetition. -/
def readOrder (v : Value) : Except Failure (List Source × List String) :=
  match elements? v with
  | none => .ok ([], ["Priority must be a list of sources"])
  | some [] => .ok ([], ["Priority list cannot be empty"])
  | some vs => (readSources vs).map fun (sources, faults) =>
    (sources, if sources.eraseDups.length != sources.length then
        faults ++ ["Duplicate sources in priority list"]
      else faults)

def orderFaults (v : Value) : Except Failure (List String) := (readOrder v).map (·.2)

def readJson (words s : String) : Except Failure Value :=
  match Json.parse s with
  | .ok v => .ok v
  | .error (.refused r) => .error (.configuration (words ++ r.message s.toList) [])
  | .error (.failure e) => .error e.failure

def parseOrder (v : Value) : Except Failure (List Source) := do
  let v ← match v with
    | .text s => readJson "Invalid JSON in source priority order: " s
    | v => pure v
  let (order, faults) ← readOrder v
  if faults.isEmpty then return order else throw (.configuration "Invalid source priority order" faults)

structure Switch where
  value : Option Bool := none
  faults : List String := []

/-- The value of a switch that may be written in two ways; the first that is there counts. -/
def readSwitch (doc : Value) (name other : String) : Except Failure Switch :=
  let check (name : String) : Value → Except Failure Switch
    | .bool b => .ok { value := some b }
    | v => do
      v.checkWritable
      return { faults := [name ++ " must be a boolean, got " ++ v.literal] }
  match doc.field? name, doc.field? other with
  | some v, _ => check name v
  | none, some v => check other v
  | none, none => .ok {}

def ofMapping (doc : Value) (origin : String) : Except Failure Policy := do
  let (priority, orderFaults) ← match doc.field? "priority" with
    | none => pure ([], ["Missing 'priority' list"])
    | some v => readOrder v
  let stop ← readSwitch doc "stop_on_first" "stopOnFirst"
  let check ← readSwitch doc "check_all_for_updates" "checkAllForUpdates"
  let fallback ← readSwitch doc "fallback_on_error" "fallbackOnError"
  let faults := orderFaults ++ stop.faults ++ check.faults ++ fallback.faults
  if faults.isEmpty then
    return {
      priority, stopOnFirst := stop.value.getD true, checkAllForUpdates := check.value.getD false,
      fallbackOnError := fallback.value.getD true, origin }
  else throw (.configuration "Invalid source priority configuration" faults)

def ofValue (doc : Value) (origin : String) : Except Failure Policy :=
  match doc with
  | .list vs | .tuple vs => (parseOrder (.list vs)).map fun priority => { priority, origin }
  | .map _ => ofMapping doc origin
  | v => .error (.configuration ("Source priority must be a mapping or a list, got " ++ v.kindName) [])

def faults (doc : Value) : Except Failure (List String) :=
  match ofValue doc "config" with
  | .ok _ => .ok []
  | .error (.configuration message details) => .ok (linesOf message details)
  | .error e => .error e

end Policy

end TriStore
