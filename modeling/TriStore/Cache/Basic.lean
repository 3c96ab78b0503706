import TriStore.Number.Quantity
import TriStore.Value.Text

/-!
A cache with a limit on the number of its items, a limit on their sizes and a time to live.
-/
namespace TriStore

structure CacheItem (κ α : Type) where
  key : κ
  value : α
  inserted : Binary64
  size : Nat
  deriving Repr, Inhabited

/-- The items, the least recently used one first; `memory` counts their sizes. -/
structure Cache (κ α : Type) where
  name : Value
  maxEntries : Quantity
  maxMemory : Quantity
  ttl : Option Magnitude
  items : List (CacheItem κ α) := []
  memory : Int := 0
  hits : Nat := 0
  misses : Nat := 0
  evictions : Nat := 0
  deriving Repr, Inhabited

namespace Cache

variable {κ α : Type} [BEq κ]

inductive Corruption where
  | negative (memory : Quantity)
  | phantom (memory : Quantity)
  | overfull (count : Nat) (limit : Quantity)
  deriving DecidableEq, Repr, Inhabited

def Corruption.number : Corruption → Quantity
  | .negative n | .phantom n | .overfull _ n => n

def Corruption.message : Corruption → String
  | .negative n => "negative memory accounting (" ++ n.toText ++ " bytes)"
  | .phantom n => "empty cache reports " ++ n.toText ++ " bytes in use"
  | .overfull n limit => Text.ofNat n ++ " entries exceed the limit of " ++ limit.toText

def resetLine (c : Cache κ α) (e : Corruption) : String :=
  "[" ++ c.name.display ++ "] cache reset after corruption: " ++ e.message

def keys (c : Cache κ α) : List κ := c.items.map (·.key)

def isExpired (c : Cache κ α) (now : Binary64) (i : CacheItem κ α) : Bool :=
  match c.ttl with
  | none => false
  | some t => t.le (Magnitude.ofBinary64 (now.sub i.inserted))

def find? (c : Cache κ α) (key : κ) : Option (CacheItem κ α) := c.items.find? (·.key == key)

def drop (c : Cache κ α) (p : CacheItem κ α → Bool) : Cache κ α :=
  { c with
    items := c.items.filter (!p ·)
    memory := c.memory - (((c.items.filter p).map (·.size)).foldr (· + ·) 0 : Nat) }

def clear (c : Cache κ α) : Cache κ α := { c with items := [], memory := 0 }

/-- How the counter or the limit contradicts the items. -/
def corruption? (c : Cache κ α) : Option Corruption :=
  if c.memory < 0 then some (.negative (.whole c.memory))
  else if c.items.isEmpty && c.memory != 0 then some (.phantom (.whole c.memory))
  else if c.maxEntries.magnitude.lt c.items.length then some (.overfull c.items.length c.maxEntries)
  else none

/-- The value under a key, unless it is past its time; its item counts as used. A cache found corrupt is
emptied. -/
def get (c : Cache κ α) (now : Binary64) (key : κ) : Option α × Option Corruption × Cache κ α :=
  match c.find? key with
  | none => (none, none, { c with misses := c.misses + 1 })
  | some i =>
    if c.isExpired now i then
      (none, none, { c.drop (·.key == key) with misses := c.misses + 1 })
    else
      let used : Cache κ α :=
        { c with items := c.items.filter (fun j => j.key != key) ++ [i], hits := c.hits + 1 }
      match used.corruption? with
      | none => (some i.value, none, used)
      | some e => (none, some e, used.clear)

def isFull (c : Cache κ α) (size count : Nat) (memory : Int) : Bool :=
  c.maxEntries.magnitude.le count || c.maxMemory.magnitude.lt (memory + (size : Int))

/-- Takes items from the front until one of the given size fits: the items left, their memory and how many
went. -/
def makeRoom (c : Cache κ α) (size : Nat) : List (CacheItem κ α) → Int → List (CacheItem κ α) × Int × Nat
  | [], memory => ([], memory, 0)
  | i :: rest, memory =>
    if c.isFull size (rest.length + 1) memory then
      let (left, memory, gone) := makeRoom c size rest (memory - i.size)
      (left, memory, gone + 1)
    else (i :: rest, memory, 0)

def set (c : Cache κ α) (now : Binary64) (key : κ) (value : α) (size : Nat) :
    Bool × Option Corruption × Cache κ α :=
  if c.maxMemory.magnitude.lt size then (false, none, c)
  else
    let kept := (c.drop (·.key == key)).drop (c.isExpired now)
    let (left, memory, gone) := kept.makeRoom size kept.items kept.memory
    let filled : Cache κ α := { kept with
      items := left ++ [⟨key, value, now, size⟩]
      memory := memory + size
      evictions := c.evictions + gone }
    match filled.corruption? with
    | none => (true, none, filled)
    | some e => (false, some e, filled.clear)

def invalidate (c : Cache κ α) (key : κ) : Bool × Cache κ α :=
  if (c.find? key).isSome then (true, c.drop (·.key == key)) else (false, c)

def invalidatePrefix (c : Cache String α) (front : String) : Nat × Cache String α :=
  let p (i : CacheItem String α) : Bool := front.toList.isPrefixOf i.key.toList
  ((c.items.filter p).length, c.drop p)

def resetStats (c : Cache κ α) : Cache κ α := { c with hits := 0, misses := 0, evictions := 0 }

def contains (c : Cache κ α) (now : Binary64) (key : κ) : Bool :=
  match c.find? key with
  | none => false
  | some i => !c.isExpired now i

def oldestAge (c : Cache κ α) (now : Binary64) : Binary64 :=
  match c.items.map (·.inserted) with
  | [] => .zero false
  | t :: ts => now.sub (ts.foldl (fun first t => if t.isBelow first then t else first) t)

structure Health where
  name : Value
  entries : Nat
  maxEntries : Quantity
  memory : Int
  maxMemory : Quantity
  oldestAge : Binary64
  hits : Nat
  misses : Nat
  evictions : Nat
  deriving Repr, Inhabited

def Health.status (h : Health) : String := if h.entries == 0 then "empty" else "populated"

def Health.hitRatio (h : Health) : Rat :=
  if h.hits + h.misses == 0 then 0 else roundRat (mkRat h.hits (h.hits + h.misses))

def Health.memoryMb (h : Health) : Rat := roundRat (mkRat h.memory 1048576)

def health (c : Cache κ α) (now : Binary64) : Health :=
  { name := c.name, entries := c.items.length, maxEntries := c.maxEntries, memory := c.memory,
    maxMemory := c.maxMemory, oldestAge := c.oldestAge now, hits := c.hits, misses := c.misses,
    evictions := c.evictions }

def later (now : Binary64) (seconds : Value) : Except Failure Binary64 :=
  match seconds with
  | .float x => .ok (now.add x)
  | v =>
    match v.whole? with
    | none => .error .wrongKind
    | some n =>
      match Binary64.ofInt n with
      | .infinite _ => .error .overflow
      | x => .ok (now.add x)

def megabyte : Int := 1048576

/-- An empty cache; a limit below one is refused. -/
def make (name : Value) (maxEntries maxMemory : Quantity) (ttl : Option Magnitude) : Except Failure (Cache κ α) :=
  if maxEntries.magnitude.lt (1 : Nat) then .error .tooFewEntries
  else if maxMemory.magnitude.lt (1 : Nat) then .error .tooLittleMemory
  else .ok { name, maxEntries, maxMemory, ttl }

structure Preset where
  name : String
  maxEntries : Int
  maxMemory : Int
  ttl : Nat

def Preset.plain : Preset := ⟨"cache", 100, 10 * megabyte, 300⟩

def Preset.search : Preset := ⟨"search", 100, 10 * megabyte, 300⟩

def Preset.listing : Preset := ⟨"listing", 50, 25 * megabyte, 900⟩

/-- A time to live that is not positive means none. -/
def ttlOf (v : Value) : Except Failure (Option Magnitude) :=
  if !v.isGiven then .ok none
  else match v.magnitude? with
    | none => .error .wrongKind
    | some q => .ok (if (Magnitude.value 0).lt q then some q else none)

def limitOf (given : Option Value) (otherwise : Int) : Except Failure Quantity :=
  match given with
  | none => .ok (.whole otherwise)
  | some v =>
    match Quantity.ofValue? v with
    | some q => .ok q
    | none => .error .wrongKind

def optionNames : List String := ["max_entries", "max_memory_bytes", "ttl", "name"]

def ofOptions (preset : Preset) (options : List (String × Value)) : Except Failure (Cache κ α) := do
  if options.any fun o => !optionNames.contains o.1 then throw .wrongKind
  let option (name : String) : Option Value := (options.find? (·.1 == name)).map (·.2)
  let maxEntries ← limitOf (option "max_entries") preset.maxEntries
  if maxEntries.magnitude.lt (1 : Nat) then throw .tooFewEntries
  let maxMemory ← limitOf (option "max_memory_bytes") preset.maxMemory
  if maxMemory.magnitude.lt (1 : Nat) then throw .tooLittleMemory
  let ttl ← match option "ttl" with
    | none => pure (some (preset.ttl : Magnitude))
    | some v => ttlOf v
  make ((option "name").getD (.text preset.name)) maxEntries maxMemory ttl

def ofPreset (preset : Preset) : Cache κ α :=
  { name := .text preset.name, maxEntries := .whole preset.maxEntries,
    maxMemory := .whole preset.maxMemory, ttl := some (preset.ttl : Magnitude) }

end Cache

end TriStore
