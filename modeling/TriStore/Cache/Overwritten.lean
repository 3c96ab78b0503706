import TriStore.Cache.Basic

/-!
A cache whose keys are values of documents, and whose counter of memory and limit of items may be
overwritten from outside.
-/
namespace TriStore

namespace Cache

variable {α : Type}

def checkKey (key : Value) : Except Failure Unit :=
  if key.canBeKey then .ok () else .error .wrongKind

def containsValue (c : Cache Value α) (now : Binary64) (key : Value) : Except Failure Bool := do
  checkKey key
  return c.contains now key

def anyFront {β : Type} [BEq β] (part? : Value → Option (List β)) (whole : List β) :
    List Value → Except Failure Bool
  | [] => .ok false
  | front :: fronts =>
    match part? front with
    | none => .error .wrongKind
    | some part => if part.isPrefixOf whole then .ok true else anyFront part? whole fronts

def charsOf? : Value → Option (List Char)
  | .text s => some s.toList
  | _ => none

def bytesOf? : Value → Option (List UInt8)
  | .bytes bs => some bs
  | _ => none

def startsWith (front key : Value) : Except Failure Bool :=
  let fronts := match front with
    | .tuple vs => vs
    | v => [v]
  match key with
  | .text s => anyFront charsOf? s.toList fronts
  | .bytes bs => anyFront bytesOf? bs fronts
  | _ => .error .unsuited

end Cache

structure Overwritten where
  cache : Cache Value Value
  /-- What stands in the place of the counter, when that is no whole number. -/
  counter : Option Value := none
  /-- What stands in the place of the limit, when that is no number. -/
  limit : Option Value := none
  deriving Inhabited

namespace Overwritten

def memory (o : Overwritten) : Value := o.counter.getD (.int o.cache.memory)

def maxEntries (o : Overwritten) : Value := o.limit.getD o.cache.maxEntries.toValue

def setMemory (o : Overwritten) (v : Value) : Overwritten :=
  match v with
  | .int n => { o with cache.memory := n, counter := none }
  | v => { o with counter := some v }

def setMaxEntries (o : Overwritten) (v : Value) : Overwritten :=
  match Quantity.ofValue? v with
  | some q => { o with cache.maxEntries := q, limit := none }
  | none => { o with limit := some v }

def clear (o : Overwritten) : Overwritten := { o with cache := o.cache.clear, counter := none }

inductive Stop where
  | corrupt (cause : Cache.Corruption)
  | failure (e : Failure)

abbrev Part := ExceptT Stop (StateM Overwritten)

def number (v : Value) : Part Quantity :=
  match Quantity.ofValue? v with
  | some q => pure q
  | none => throw (.failure .wrongKind)

def countBy (n : Int) : Part Unit := do
  let q ← number (← get).memory
  modify (·.setMemory (q.plus n).toValue)

def takeOut (key : Value) : Part Unit := do
  match (← get).cache.find? key with
  | none => pure ()
  | some i =>
    modify fun o => { o with cache.items := o.cache.items.filter fun j => j.key != key }
    countBy (-(i.size : Int))

/-- Stops at a corruption, or where a number is too long for the complaint. -/
def complain (cause : Cache.Corruption) : Part Unit :=
  throw (if cause.number.toValue.isWritable then .corrupt cause else .failure (.tooManyDigits none))

def check : Part Unit := do
  let o ← get
  let memory ← number o.memory
  if memory.magnitude.lt (0 : Nat) then complain (.negative memory)
  if o.cache.items.isEmpty && !memory.magnitude.same (0 : Nat) then complain (.phantom memory)
  let limit ← number o.maxEntries
  if limit.magnitude.lt o.cache.items.length then complain (.overfull o.cache.items.length limit)

def makeRoom (size : Nat) : Nat → Part (List Value)
  | 0 => return []
  | fuel + 1 => do
    let o ← get
    match o.cache.items with
    | [] => return []
    | i :: rest =>
      let limit ← number o.maxEntries
      if !limit.magnitude.le o.cache.items.length then
        let memory ← number o.memory
        if !o.cache.maxMemory.magnitude.lt (memory.plus size).magnitude then return []
      modify fun o => { o with cache.items := rest }
      countBy (-(i.size : Int))
      modify fun o => { o with cache.evictions := o.cache.evictions + 1 }
      return i.key :: (← makeRoom size fuel)

/-- Runs an operation. A cache found corrupt is emptied and gives the answer `otherwise`. -/
def run {α : Type} (otherwise : α) (part : Part α) (o : Overwritten) :
    Except Failure α × Option Cache.Corruption × Overwritten :=
  match (ExceptT.run part).run o with
  | (.ok a, o) => (.ok a, none, o)
  | (.error (.failure e), o) => (.error e, none, o)
  | (.error (.corrupt cause), o) => (.ok otherwise, some cause, o.clear)

def checkKey (key : Value) : Part Unit :=
  match Cache.checkKey key with
  | .ok () => pure ()
  | .error e => throw (.failure e)

def getPart (now : Binary64) (key : Value) : Part (Option Value) := do
  checkKey key
  let missed (o : Overwritten) : Overwritten := { o with cache.misses := o.cache.misses + 1 }
  match (← get).cache.find? key with
  | none =>
    modify missed
    return none
  | some i =>
    if (← get).cache.isExpired now i then
      takeOut key
      modify missed
      return none
    modify fun o => { o with
      cache.items := o.cache.items.filter (fun j => j.key != key) ++ [i]
      cache.hits := o.cache.hits + 1 }
    check
    return some i.value

def setPart (now : Binary64) (key value : Value) (size : Nat) : Part (List Value) := do
  checkKey key
  takeOut key
  let expired := (← get).cache.items.filter ((← get).cache.isExpired now)
  expired.forM fun i => takeOut i.key
  let gone ← makeRoom size (← get).cache.items.length
  modify fun o => { o with cache.items := o.cache.items ++ [⟨key, value, now, size⟩] }
  countBy size
  check
  return gone

def get (o : Overwritten) (now : Binary64) (key : Value) :
    Except Failure (Option Value) × Option Cache.Corruption × Overwritten := run none (getPart now key) o

/-- Puts a value under a key. It is there even when the keys that made room for it cannot be named. -/
def set (o : Overwritten) (now : Binary64) (key value : Value) (size : Nat) :
    Except Failure Bool × Option Cache.Corruption × Overwritten :=
  if o.cache.maxMemory.magnitude.lt size then (.ok false, none, o)
  else
    match run none (some <$> setPart now key value size) o with
    | (.ok (some gone), e, o) => (if gone.all Value.isText then .ok true else .error .wrongKind, e, o)
    | (.ok none, e, o) => (.ok false, e, o)
    | (.error e, c, o) => (.error e, c, o)

def invalidate (o : Overwritten) (key : Value) : Except Failure Bool × Overwritten :=
  let (r, _, after) := run () (do checkKey key; takeOut key) o
  (r.map fun _ => (o.cache.find? key).isSome, after)

def invalidateFront (o : Overwritten) (front : Value) : Except Failure Nat × Overwritten :=
  match o.cache.items.filterM fun i => Cache.startsWith front i.key with
  | .error e => (.error e, o)
  | .ok doomed =>
    let (r, _, after) := run () (doomed.forM fun i => takeOut i.key) o
    (r.map fun _ => doomed.length, after)

def megabytes (o : Overwritten) : Except Failure Binary64 :=
  let share := Binary64.ofRat (mkRat 1 1048576)
  match o.memory with
  | .float x => .ok (x.mul share)
  | v =>
    match v.whole? with
    | none => .error .wrongKind
    | some n =>
      match Binary64.ofRat (mkRat n 1048576) with
      | .infinite _ => .error .overflow
      | x => .ok x

end Overwritten

end TriStore
