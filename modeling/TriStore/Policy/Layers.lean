import TriStore.Policy.Basic

/-!
The policy in force comes from the first layer that has a usable one; a layer that cannot be used is
passed over with a warning.
-/
namespace TriStore.Policy

inductive Document where
  | absent
  | ready (p : Policy)
  | raw (v : Value)
  deriving Repr, Inhabited

structure Layer where
  name : String
  load : Except Failure Document

def ofRaw (v : Value) (layer : String) : Except Failure Policy := do
  match v with
  | .text s => ofValue (← readJson ("Failed to parse " ++ layer ++ " source priority as JSON: ") s) layer
  | v => ofValue v layer

def skipLine (layer message : String) (details : List String) : String :=
  "Ignoring invalid source priority from " ++ layer ++ ": " ++ Text.join "; " (linesOf message details)

def Layer.policy (l : Layer) : Except Failure (Option Policy) := do
  match ← l.load with
  | .absent | .raw .null => return none
  | .ready p => return some { p with origin := l.name }
  | .raw v => return some (← ofRaw v l.name)

/-- The policy of the first usable layer, or the built-in one, and the warnings about the layers passed over.
-/
def base : List Layer → List String × Except Failure Policy
  | [] => ([], .ok {})
  | l :: rest =>
    match l.policy with
    | .ok (some p) => ([], .ok p)
    | .ok none => base rest
    | .error (.configuration message details) =>
      let (lines, p) := base rest
      (skipLine l.name message details :: lines, p)
    | .error e => ([], .error e)

def withOrder (p : Policy) (order : List Source) : Policy := { p with priority := order, origin := "call" }

/-- Moves a source to the front of the order; one not in it is ignored with a warning. -/
def prefer (p : Policy) (s : Source) : List String × Policy :=
  if p.priority.contains s then ([], p.withOrder (s :: p.priority.filter (· != s)))
  else
    (["Preferred source '" ++ s.label ++ "' is not in the active order (" ++
      Text.join ", " (p.priority.map (·.label)) ++ "); ignoring it"], p)

def orderLine (faults : List String) : String :=
  "Ignoring invalid per-call source order: " ++ Text.join "; " faults

def order (p : Policy) (sources : List Source) : List String × Policy :=
  match readOrder (.list (sources.map .source)) with
  | .ok (_, faults@(_ :: _)) => ([orderLine faults], p)
  | _ => ([], p.withOrder sources)

/-- What one call asks for: an order of sources and raw tokens, or a source to prefer. -/
structure Override where
  order : Option (List Value) := none
  prefer : Option Source := none
  deriving Repr, Inhabited

/-- The policy that one call gets: its own order, token by token, if that passed for one. -/
structure Effective where
  priority : List Value
  stopOnFirst : Bool
  checkAllForUpdates : Bool
  fallbackOnError : Bool
  origin : String

def effective (p : Policy) : Effective :=
  { p with priority := p.priority.map .source }

def sourcesOnly? : List Value → Option (List Source)
  | [] => some []
  | .source s :: vs => (sourcesOnly? vs).map (s :: ·)
  | _ => none

/-- The same policy by its sources. A raw token is none, whatever it names. -/
def Effective.policy (q : Effective) : Except Failure Policy :=
  (sourcesOnly? q.priority).elim (.error .unsuited) fun priority => .ok { q with priority }

def override (p : Policy) (o : Override) : List String × Except Failure Effective :=
  match o.order, o.prefer with
  | some tokens, _ =>
    match readOrder (.list tokens) with
    | .error e => ([], .error e)
    | .ok (_, faults@(_ :: _)) => ([orderLine faults], .ok p.effective)
    | .ok (_, []) => ([], .ok { p.effective with priority := tokens, origin := "call" })
  | none, some s =>
    let (lines, p) := p.prefer s
    (lines, .ok p.effective)
  | none, none => ([], .ok p.effective)

def resolve (layers : List Layer) (o : Option Override) : List String × Except Failure Effective :=
  match base layers, o with
  | (lines, .error e), _ => (lines, .error e)
  | (lines, .ok p), none => (lines, .ok p.effective)
  | (lines, .ok p), some o =>
    let (more, r) := p.override o
    (lines ++ more, r)

def environmentName : String := "FOLIO_SOURCE_PRIORITY"

/-- The layers below a call: the saved document and the environment, where an empty text says nothing. -/
def layersOf (saved : Except Failure Value) (environment : List (String × String)) : List Layer :=
  let text := match environment.find? (·.1 == environmentName) with
    | some (_, s) => if s.isEmpty then Document.absent else .raw (.text s)
    | none => .absent
  [⟨"config", saved.map .raw⟩, ⟨"environment", .ok text⟩]

end TriStore.Policy
