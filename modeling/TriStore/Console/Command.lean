import TriStore.Portfolio.Copy

/-!
The commands of the command line, and reading its words by rules: which options there are, and which of
them take a value.
-/
namespace TriStore.Console

inductive Shape where
  | flag
  | switch (off : String)
  | value
  deriving DecidableEq, Repr, Inhabited

structure OptionRule where
  name : String
  short : Option Char := none
  shape : Shape := .flag
  deriving DecidableEq, Repr, Inhabited

structure Given where
  options : List (String × String) := []
  words : List String := []
  deriving DecidableEq, Repr, Inhabited

namespace Given

def value? (g : Given) (name : String) : Option String := g.options.lookup name

def isOnOr (g : Given) (name : String) (otherwise : Bool) : Bool :=
  ((g.value? name).map (· == "on")).getD otherwise

def isOn (g : Given) (name : String) : Bool := g.isOnOr name false

def put (g : Given) (name value : String) : Given := { g with options := (name, value) :: g.options }

def addWord (g : Given) (word : String) : Given := { g with words := g.words ++ [word] }

end Given

structure Reading where
  given : Given := {}
  pending : Option String := none
  ended : Bool := false
  deriving Repr, Inhabited

def readLong (rules : List OptionRule) (r : Reading) (name : String) (value : Option String) : Option Reading :=
  match rules.find? (·.name == name), value with
  | some rule, some v =>
    if rule.shape == .value then some { r with given := r.given.put name v } else none
  | some rule, none =>
    if rule.shape == .value then some { r with pending := some name }
    else some { r with given := r.given.put name "on" }
  | none, some _ => none
  | none, none =>
    (rules.find? (·.shape == .switch name)).map fun rule =>
      { r with given := r.given.put rule.name "off" }

def readShort (rules : List OptionRule) (r : Reading) : List Char → Option Reading
  | [] => some r
  | c :: rest =>
    match rules.find? (·.short == some c) with
    | none => none
    | some rule =>
      if rule.shape == .value then
        if rest.isEmpty then some { r with pending := some rule.name }
        else some { r with given := r.given.put rule.name (String.ofList rest) }
      else readShort rules { r with given := r.given.put rule.name "on" } rest

def readOption (rules : List OptionRule) (r : Reading) (word : String) : Option Reading :=
  match word.toList with
  | '-' :: '-' :: _ =>
    let name := word.toList.takeWhile (· != '=')
    let value := match word.toList.drop name.length with
      | '=' :: v => some (String.ofList v)
      | _ => none
    readLong rules r (String.ofList name) value
  | _ :: letters => readShort rules r letters
  | [] => none

def readWord (rules : List OptionRule) (mixed : Bool) (r : Reading) (word : String) : Option Reading :=
  match r.pending with
  | some name => some { r with given := r.given.put name word, pending := none }
  | none =>
    if r.ended then some { r with given := r.given.addWord word }
    else if word == "--" then some { r with ended := true }
    else if word.startsWith "-" && word != "-" then readOption rules r word
    else some { r with given := r.given.addWord word, ended := !mixed }

def readWords (rules : List OptionRule) (mixed : Bool) (words : List String) : Option Given :=
  match words.foldlM (readWord rules mixed) {} with
  | some r => if r.pending.isSome then none else some r.given
  | none => none

inductive Command where
  | search (query : String) (options : SearchOptions)
  | sync (direction : Direction) (mode : Mode) (dryRun force confirm : Bool)
  | element (operation : Operation) (request : Portfolio.ElementRequest)
  | showPolicy
  | setPolicy (sources : List String) (stopOnFirst checkAllForUpdates fallbackOnError : Bool)
  | resetPolicy
  | cacheHealth (asJson : Bool)
  deriving Repr, Inhabited

inductive Ending where
  | usage
  | help
  deriving DecidableEq, Repr, Inhabited

def Ending.code : Ending → Nat
  | .usage => 2
  | .help => 0

def helpRule : OptionRule := { name := "--help" }

def typeRule : OptionRule := { name := "--type", short := some 't', shape := .value }

def flags (names : List String) : List OptionRule := names.map fun name => { name }

def readFor (rules : List OptionRule) (least : Nat) (most : Option Nat) (words : List String) :
    Except Ending Given :=
  match readWords (helpRule :: rules) true words with
  | none => .error .usage
  | some g =>
    if g.isOn "--help" then .error .help
    else if g.words.length < least || most.any (· < g.words.length) then .error .usage
    else .ok g

def optional {α : Type} (g : Given) (name : String) (read : String → Option α) : Except Ending (Option α) :=
  match g.value? name with
  | none => .ok none
  | some s =>
    match read s with
    | some a => .ok (some a)
    | none => .error .usage

def optionOr {α : Type} (g : Given) (name : String) (read : String → Option α) (otherwise : α) :
    Except Ending α := do
  return (← optional g name read).getD otherwise

def sourceNamed? (s : String) : Option Source :=
  if ["local", "remote", "registry", "github", "collection"].contains s then Source.ofText? s else none

def originNamed? (s : String) : Option Source :=
  if ["remote", "registry"].contains s then Source.ofLabel? s else none

def searchCommand (words : List String) : Except Ending Command := do
  let g ← readFor [
    typeRule, { name := "--all" }, { name := "--prefer", shape := .value },
    { name := "--sort", shape := .value }, { name := "--page", shape := .value },
    { name := "--page-size", shape := .value }] 0 (some 1) words
  return .search (g.words.headD "") {
    kind := ← optional g "--type" Kind.ofLabel?
    includeAll := g.isOn "--all"
    preferred := ← optional g "--prefer" sourceNamed?
    sorting := ← optionOr g "--sort" Sorting.ofLabel? .relevance
    page := .whole (← optionOr g "--page" whole? 1)
    pageSize := .whole (← optionOr g "--page-size" whole? 20) }

def syncCommand (words : List String) : Except Ending Command := do
  let g ← readFor ([
    { name := "--direction", short := some 'd', shape := .value },
    { name := "--mode", short := some 'm', shape := .value }] ++
    flags ["--dry-run", "--force", "--confirm"]) 0 (some 0) words
  return .sync (← optionOr g "--direction" Direction.ofLabel? .pull)
    (← optionOr g "--mode" Mode.ofLabel? .additive) (g.isOn "--dry-run") (g.isOn "--force")
    (g.isOn "--confirm")

def elementCommand (operation : Operation) (rules : List OptionRule) (words : List String) :
    Except Ending Command := do
  let count := if operation == .listRemote then 0 else 1
  let g ← readFor (typeRule :: rules) count (some count) words
  return .element operation {
    name := g.words.headD ""
    kind := ← optional g "--type" Kind.ofLabel?
    source := ← optionOr g "--from" originNamed? .remote
    force := g.isOn "--force"
    confirm := g.isOn "--confirm"
    showDiff := g.isOn "--diff" }

def policyRules : List OptionRule := [
  { name := "--stop-on-first", shape := .switch "--no-stop-on-first" },
  { name := "--check-all-for-updates", shape := .switch "--no-check-all-for-updates" },
  { name := "--fallback-on-error", shape := .switch "--no-fallback-on-error" }]

def setPolicyCommand (words : List String) : Except Ending Command := do
  let g ← readFor policyRules 1 none words
  return .setPolicy g.words (g.isOnOr "--stop-on-first" true) (g.isOn "--check-all-for-updates")
    (g.isOnOr "--fallback-on-error" true)

def bare (c : Command) (words : List String) : Except Ending Command := do
  let _ ← readFor [] 0 (some 0) words
  return c

def cacheHealthCommand (words : List String) : Except Ending Command := do
  let g ← readFor (flags ["--json"]) 0 (some 0) words
  return .cacheHealth (g.isOn "--json")

abbrev Reader := List String → Except Ending Command

def asksToShow (g : Given) : Bool := g.isOn "--help" || g.isOn "--version"

def endingOf (rules : List OptionRule) (words : List String) : Ending :=
  if (readWords rules false words).any asksToShow then .help else .usage

/-- The command of a group under its first word, after the options of the group. -/
def choose (rules : List OptionRule) (table : List (String × Reader)) (words : List String) :
    Except Ending (Given × Except Ending Command) :=
  let rules := helpRule :: rules
  match readWords rules false words with
  | none => .error .usage
  | some g =>
    if asksToShow g then .error .help
    else match g.words with
      | [] => .error .usage
      | name :: rest =>
        match table.lookup name with
        | some read => .ok (g, read rest)
        | none => .error (endingOf rules (name :: rest))

def group (table : List (String × Reader)) (words : List String) : Except Ending Command := do
  let (_, command) ← choose [] table words
  command

def elementTable : List (String × Reader) := [
  ("download", elementCommand .download
    ({ name := "--from", shape := .value } :: flags ["--force", "--confirm"])),
  ("upload", elementCommand .upload (flags ["--force", "--confirm"])),
  ("compare", elementCommand .compare (flags ["--diff"])),
  ("list-remote", elementCommand .listRemote [])]

def policyTable : List (String × Reader) := [
  ("show", bare .showPolicy), ("set", setPolicyCommand), ("reset", bare .resetPolicy)]

def commandTable : List (String × Reader) := [
  ("search", searchCommand), ("sync", syncCommand), ("element", group elementTable),
  ("policy", group policyTable), ("cache-health", cacheHealthCommand)]

def mainRules : List OptionRule := [
  { name := "--version" }, { name := "--verbose", short := some 'v' },
  { name := "--log-file", shape := .value }]

def readLine (words : List String) : Except Ending (Option String × Except Ending Command) := do
  let (g, command) ← choose mainRules commandTable words
  return (g.value? "--log-file", command)

end TriStore.Console
