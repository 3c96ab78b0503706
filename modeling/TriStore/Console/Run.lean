import TriStore.Console.Command
import TriStore.Console.Template

/-!
Running commands. What a command has to say is a list of texts, tables and panels, and it ends with
a code.
-/
namespace TriStore.Console

inductive Printed where
  | text (s : String)
  | table (title : String) (columns : List String) (rows : List (List String))
  | panel (title body : String)
  deriving DecidableEq, Repr, Inhabited

/-- The machine that commands run on: its files, its web, and what it has printed. -/
structure Machine where
  home : Home
  environment : List (String × String) := []
  files : FileTree := {}
  web : Web := {}
  printed : List Printed := []
  deriving Inhabited

inductive Stop where
  | exit (code : Nat)
  | failure (e : Failure)
  deriving Inhabited

abbrev Run := ExceptT Stop (StateM Machine)

def print (p : Printed) : Run Unit := modify fun m => { m with printed := m.printed ++ [p] }

def say (s : String) : Run Unit := print (.text s)

def isExplained : Failure → Bool
  | .configuration .. | .unavailable .. | .notFound .. | .ambiguous .. | .conflict .. | .lockTimeout ..
  | .rejected _ | .syncDisabled _ | .readOnly _ => true
  | _ => false

def candidatesOf : Failure → List String
  | .ambiguous _ candidates => candidates
  | _ => []

def detailsOf : Failure → List String
  | .configuration _ details => details
  | _ => []

def cross (s : String) : String := "  [red]x[/] " ++ s

def tick (s : String) : String := "  [green]v[/] " ++ s

def explain {α : Type} (e : Failure) : Run α := do
  if !isExplained e then throw (.failure e)
  say ("[red]Error:[/] " ++ e.message)
  (candidatesOf e).forM fun name => say ("  - " ++ name)
  (detailsOf e).forM fun detail => say (cross detail)
  throw (.exit 1)

def openPortfolio (m : Machine) : Except Failure (Portfolio × World) := do
  let settings ← m.home.loadSettings m.files
  let results ← Portfolio.resultsCache settings
  let token := Repository.tokenIn m.environment
  let folder : Folder := { root := Path.ofText settings.portfolioDir }
  let world : World := {
    home := ⟨.folder folder, true⟩
    remote := ⟨.repository (Repository.ofSettings settings.repository token true), true⟩
    registry := ⟨.catalog (Catalog.ofSettings settings.registry), true⟩
    disk := { files := m.files }, web := m.web, results }
  let timeout ← Portfolio.timeoutOf (.float settings.backendTimeout)
  return ({ home := m.home, settings, environment := m.environment, timeout }, world)

def attempt {α : Type} (act : Portfolio → Action α) : Run (Except Failure α) := do
  let m ← get
  match openPortfolio m with
  | .error e => explain e
  | .ok (p, world) =>
    let (r, w) := (act p).run world
    set { m with files := w.disk.files, web := w.web }
    return r

def withPortfolio {α : Type} (act : Portfolio → Action α) : Run α := do
  match ← attempt act with
  | .ok a => return a
  | .error e => explain e

def withPortfolioPlain {α : Type} (act : Portfolio → Action α) : Run α := do
  match ← attempt act with
  | .ok a => return a
  | .error e => throw (.failure e)

def orDash (s : String) : String := if s.isEmpty then "-" else s

def notes (f : Finding) : String :=
  Text.join ", " ((f.updateFrom.map fun s => "update in " ++ s.label).toList ++
    (f.divergence.map fun d => "recommend " ++ d.recommended.label).toList)

def findingRow (f : Finding) : List String := [
  f.hit.entry.name.display, f.key.kind.label, f.hit.source.label, orDash f.hit.version,
  fixed 1 f.hit.score, notes f]

def pageCount (p : Page) : Nat := max 1 ((p.total + p.size.toNat - 1) / p.size.toNat)

def searchTitle (p : Page) : String :=
  "Results " ++ Text.ofNat p.number.toNat ++ " of " ++ Text.ofNat (pageCount p) ++ " (" ++
    Text.ofNat p.total ++ " total)"

def runSearch (query : String) (o : SearchOptions) : Run Unit := do
  let page ← withPortfolio (·.search query o)
  page.failures.forM fun (s, reason) =>
    say ("[yellow]![/] " ++ s.title ++ " skipped: " ++ reason)
  if page.findings.isEmpty then say "[yellow]No matching elements found.[/]"
  else
    print (.table (searchTitle page) ["Name", "Type", "Source", "Version", "Score", "Notes"]
      (page.findings.map findingRow))
    let searched := Text.join ", " (page.searched.map (·.label))
    say ("[dim]Searched: " ++ (if searched.isEmpty then "none" else searched) ++ "; cache hits: " ++
      Text.ofNat page.cacheHits ++ "[/]")

def color : Step → String
  | .create => "green"
  | .update => "blue"
  | .delete => "red"
  | .conflict => "yellow"
  | .unchanged => "dim"

def planRow (i : PlanItem) : List String :=
  let action := "[" ++ color i.step ++ "]" ++ i.step.label ++ "[/]"
  let skipped := !i.executable && i.step != .conflict
  [i.key.label, if skipped then action ++ " (skipped)" else action, i.flow.label, i.reason]

def printPlan (p : Plan) : Run Unit := do
  p.warnings.forM fun w => say ("  [yellow]![/] " ++ w)
  print (.table ("Sync Plan (" ++ Text.ofNat p.items.length ++ " elements)")
    ["Element", "Action", "Direction", "Reason"] (p.items.map planRow))

def printReport (r : SyncReport) : Run Unit := do
  printPlan r.plan
  if r.requiresConfirmation then
    say ("[yellow]" ++ Text.ofNat r.plan.deletions.length ++
      " deletion(s) need confirmation.[/] Re-run with --confirm or --force.")
  else
    let number (s : Status) : String := Text.ofNat (r.withStatus s).length
    print (.panel "Sync Result" ("Applied: " ++ number .applied ++ "\nConflicts: " ++
      number .conflict ++ "\nFailed: " ++ number .failed))
    (r.withStatus .failed).forM fun o => say (cross (o.item.key.label ++ ": " ++ o.message))

def runSync (d : Direction) (m : Mode) (dryRun force confirm : Bool) : Run Unit := do
  say ("\n[bold blue]folio[/] — sync " ++ d.label ++ " (" ++ m.label ++ ")" ++
    (if dryRun then " [dry run]" else "") ++ "\n")
  match ← withPortfolio (·.sync d m dryRun force confirm) with
  | .planned p => printPlan p
  | .finished r => printReport r

def entryRow (e : Entry) : List String := [
  e.name.display, e.kind.label, orDash e.version,
  Text.takePoints 50 e.description.display]

def printRemote (entries : List Entry) : Run Unit :=
  if entries.isEmpty then say "[yellow]Remote portfolio is empty.[/]"
  else print (.table ("Remote Portfolio (" ++ Text.ofNat entries.length ++ " elements)")
    ["Name", "Type", "Version", "Description"] (entries.map entryRow))

def printElement (r : ElementReport) : Run Unit := do
  if r.success then say (tick r.message)
  else if r.requiresConfirmation then say ("  [yellow]?[/] " ++ r.message ++ " (use --confirm)")
  else say (cross r.message)
  if !r.diff.isEmpty then say r.diff

def runElement (operation : Operation) (request : Portfolio.ElementRequest) : Run Unit := do
  let r ← withPortfolio (·.manage operation request)
  if operation == .listRemote then printRemote r.entries else printElement r

def yesNo (b : Bool) : String := (Value.bool b).display

def runShowPolicy : Run Unit := do
  let p ← withPortfolioPlain (·.policy)
  print (.panel "Source Priority" ("Order: " ++ p.describe ++ "\nStop on first: " ++
    yesNo p.stopOnFirst ++ "\nCheck all for updates: " ++ yesNo p.checkAllForUpdates ++
    "\nFallback on error: " ++ yesNo p.fallbackOnError ++ "\nFrom: " ++ p.origin))

def runSetPolicy (sources : List String) (stop check fallback : Bool) : Run Unit := do
  let document := Value.record [
    ("priority", .texts sources), ("stop_on_first", .bool stop),
    ("check_all_for_updates", .bool check), ("fallback_on_error", .bool fallback)]
  let faults ← withPortfolioPlain (·.setPolicy document)
  if !faults.isEmpty then
    say "[red]Invalid source priority:[/]"
    faults.forM fun fault => say (cross fault)
    throw (.exit 1)
  say (tick ("Saved: " ++ Text.join " -> " sources))

def runResetPolicy : Run Unit := do
  if ← withPortfolioPlain (·.resetPolicy) then say (tick "Source priority reset to default")
  else say "[yellow]No persisted source priority to reset.[/]"

def decimal (q : Rat) : String := (Binary64.ofRat q).toText

def rounded (places : Nat) (q : Rat) : Rat :=
  let scale : Nat := Nat.pow 10 places
  let n := (q * scale).floor
  let rest := q * scale - n
  let up := 1 / 2 < rest || (rest == 1 / 2 && n % 2 == 1)
  mkRat (if up then n + 1 else n) scale

def runCacheHealth (asJson : Bool) : Run Unit := do
  let h ← withPortfolioPlain fun _ => do
    let w ← get
    return w.results.health w.clock
  if asJson then
    say (Json.inLines [
      ("status", Json.quoteAscii h.status), ("entries", Text.ofNat h.entries),
      ("memory_mb", decimal (rounded 3 h.memoryMb)), ("oldest_entry_age", h.oldestAge.toText),
      ("hit_ratio", decimal h.hitRatio)])
  else print (.table ("Cache: " ++ h.name.display) ["Metric", "Value"] [
    ["Status", h.status], ["Entries", Text.ofNat h.entries ++ " / " ++ h.maxEntries.toText],
    ["Memory", fixed 2 h.memoryMb ++ " MB"], ["Oldest entry", h.oldestAge.toFixed 0 ++ "s"],
    ["Hit ratio", fixed 0 (h.hitRatio * 100) ++ "%"], ["Evictions", Text.ofNat h.evictions]])

def runCommand : Command → Run Unit
  | .search query o => runSearch query o
  | .sync d m dryRun force confirm => runSync d m dryRun force confirm
  | .element operation request => runElement operation request
  | .showPolicy => runShowPolicy
  | .setPolicy sources stop check fallback => runSetPolicy sources stop check fallback
  | .resetPolicy => runResetPolicy
  | .cacheHealth asJson => runCacheHealth asJson

def touch (t : FileTree) (p : Path) : Except Failure FileTree := do
  match ← t.look p with
  | some (.file _) => return t
  | _ => t.write p ByteArray.empty

def makeFolder (p : Path) : Run Unit := do
  let m ← get
  let (r, files) := m.files.ensureFolder p
  set { m with files }
  match r with
  | .error e => throw (.failure e)
  | .ok () => pure ()

/-- Makes sure that there is a file to log to. -/
def startLog (name : String) : Run Unit := do
  let p := Path.ofText name
  makeFolder p.parent
  match Template.fill p.toText.toList with
  | .error e => throw (.failure e)
  | .ok filled =>
    let p := (Path.ofText (String.ofList filled)).straight
    makeFolder p.parent
    let m ← get
    match touch m.files p with
    | .ok files => set { m with files }
    | .error e => throw (.failure e)

def runWords (words : List String) : Run Unit := do
  match readLine words with
  | .error ending => throw (.exit ending.code)
  | .ok (logFile, command) =>
    match logFile with
    | some name => if !name.isEmpty then startLog name
    | none => pure ()
    match command with
    | .error ending => throw (.exit ending.code)
    | .ok c => runCommand c

inductive Finish where
  | code (n : Nat)
  | failure (e : Failure)
  deriving Inhabited

def run (m : Machine) (words : List String) : Finish × Machine :=
  match (runWords words).run { m with printed := [] } with
  | (.ok _, m) => (.code 0, m)
  | (.error (.exit n), m) => (.code n, m)
  | (.error (.failure e), m) => (.failure e, m)

end TriStore.Console
