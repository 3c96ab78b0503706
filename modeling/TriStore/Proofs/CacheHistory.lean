import TriStore.Proofs.CacheAccounts
import TriStore.Proofs.OverwrittenItems
import TriStore.Proofs.Rounding

/-!
What a cache serves, over its whole history. Calls at any times and writes over the counter and the limit come
in any order.
-/
namespace TriStore.Overwritten

/-- What is asked of a cache, and what is done to it from outside. -/
inductive Request where
  | call (r : Cache.Request Value)
  | overwriteMemory (v : Value)
  | overwriteMaxEntries (v : Value)

namespace Request

@[match_pattern] abbrev get (now : Binary64) (key : String) : Request := .call (.use (.get now key))

@[match_pattern] abbrev set (now : Binary64) (key : String) (value : Value) (size : Nat) : Request :=
  .call (.use (.set now key value size))

end Request

inductive Answer where
  | found (value : Option Value)
  | taken (yes : Bool)
  | done

/-- One request, its answer or failure, and how the cache was found to be corrupt. -/
structure Event where
  request : Request
  answer : Except Failure Answer
  corruption : Option Cache.Corruption

def Event.hit? (e : Event) : Option Value :=
  match e.answer with
  | .ok (.found value) => value
  | _ => none

def perform (o : Overwritten) (r : Request) : Event × Overwritten :=
  match r with
  | .get now key =>
    let (value, corruption, o) := o.get now (.text key)
    (⟨r, value.map .found, corruption⟩, o)
  | .set now key value size =>
    let (taken, corruption, o) := o.set now (.text key) value size
    (⟨r, taken.map .taken, corruption⟩, o)
  | .call (.invalidate key) =>
    let (there, o) := o.invalidate (.text key)
    (⟨r, there.map fun _ => .done, none⟩, o)
  | .call (.invalidatePrefix front) =>
    let (count, o) := o.invalidateFront (.text front)
    (⟨r, count.map fun _ => .done, none⟩, o)
  | .call .clear => (⟨r, .ok .done, none⟩, o.clear)
  | .call .resetStats => (⟨r, .ok .done, none⟩, { o with cache := o.cache.resetStats })
  | .call (.contains _ _) | .call (.health _) => (⟨r, .ok .done, none⟩, o)
  | .overwriteMemory v => (⟨r, .ok .done, none⟩, o.setMemory v)
  | .overwriteMaxEntries v => (⟨r, .ok .done, none⟩, o.setMaxEntries v)

def history (o : Overwritten) : List Request → List Event × Overwritten
  | [] => ([], o)
  | r :: rs =>
    let (e, o) := o.perform r
    let (es, o) := o.history rs
    (e :: es, o)

/-- The set that stands for a key after an event, and its time. A refused one changes nothing; one that breaks
off counts, as its value may be there, and so may keys that were to be dropped when a failure came. -/
def Event.leaves (key : String) (standing : Option (Value × Binary64)) (e : Event) : Option (Value × Binary64) :=
  match e.request, e.answer with
  | .set _ _ _ _, .ok (.taken false) => standing
  | .set now k value _, _ => if k = key then some (value, now) else standing
  | .call (.invalidate k), _ => if k = key then none else standing
  | .call (.invalidatePrefix _), .error _ => standing
  | .call (.invalidatePrefix front), .ok _ => if front.toList.isPrefixOf key.toList then none else standing
  | .call .clear, _ => none
  | _, _ => standing

theorem Event.leaves_set {taken : Except Failure Bool} (h : taken ≠ .ok false) (key k : String)
    (value : Value) (size : Nat) (now : Binary64) (corruption : Option Cache.Corruption)
    (standing : Option (Value × Binary64)) :
    leaves key standing ⟨.set now k value size, taken.map .taken, corruption⟩ =
      if k = key then some (value, now) else standing := by
  cases taken with
  | error e => rfl
  | ok yes =>
    cases yes with
    | false => exact absurd rfl h
    | true => rfl

theorem Event.leaves_invalidatePrefix (key front : String) (count : Except Failure Nat)
    (corruption : Option Cache.Corruption) (standing : Option (Value × Binary64))
    (spared : ∀ n, count = .ok n → front.toList.isPrefixOf key.toList = false) :
    leaves key standing ⟨.call (.invalidatePrefix front), count.map fun _ => .done, corruption⟩ = standing := by
  cases count with
  | error e => rfl
  | ok n =>
    show (if front.toList.isPrefixOf key.toList then none else standing) = standing
    rw [spared n rfl]
    rfl

def standing (key : String) (events : List Event) : Option (Value × Binary64) :=
  events.foldl (Event.leaves key) none

theorem standing_concat (key : String) (events : List Event) (e : Event) :
    standing key (events ++ [e]) = e.leaves key (standing key events) := by
  rw [standing, List.foldl_append]
  rfl

/-- The request writes nothing but numbers over the counter and the limit. -/
def Request.IsNumeric : Request → Prop
  | .overwriteMemory v | .overwriteMaxEntries v => (Quantity.ofValue? v).isSome
  | _ => True

/-- The item is that of the set that stands for its key. -/
def Stands (events : List Event) (i : Item) : Prop :=
  ∃ key, i.key = .text key ∧ standing key events = some (i.value, i.inserted)

/-- Every item of the cache is that of a set that stands. -/
structure Backed (ttl : Option Magnitude) (events : List Event) (o : Overwritten) : Prop where
  ttl : o.cache.ttl = ttl
  items : ∀ i ∈ o.cache.items, Stands events i

variable {i : Item} {r : Request} {c : Cache Value Value} {ttl : Option Magnitude} {events : List Event}
  {o : Overwritten}

theorem Stands.isText (h : Stands events i) : i.key.isText = true := by
  obtain ⟨key, same, -⟩ := h
  rw [same]
  rfl

theorem Stands.concat {e : Event} (h : Stands events i)
    (same : ∀ key, i.key = .text key → ∀ standing, e.leaves key standing = standing) :
    Stands (events ++ [e]) i := by
  obtain ⟨key, hkey, stands⟩ := h
  refine ⟨key, hkey, ?_⟩
  rw [standing_concat, same key hkey, stands]

theorem Backed.isText (h : Backed ttl events o) : ∀ i ∈ o.cache.items, i.key.isText = true :=
  fun i hi => (h.items i hi).isText

theorem ne_of_other {key k : String} (hk : i.key = .text k) (other : (i.key == Value.text key) = false) : key ≠ k := by
  rintro rfl
  simp [hk, Value.text_beq] at other

theorem Backed.perform (h : Backed ttl events o) (r : Request) :
    Backed ttl (events ++ [(o.perform r).1]) (o.perform r).2 := by
  have unmoved {r : Request} (after : Overwritten) (kept : after.cache.ttl = o.cache.ttl)
      (items : ∀ i ∈ after.cache.items, i ∈ o.cache.items)
      (leaves : ∀ key standing, (o.perform r).1.leaves key standing = standing) :
      Backed ttl (events ++ [(o.perform r).1]) after :=
    ⟨kept.trans h.ttl, fun i hi => (h.items i (items i hi)).concat fun key _ => leaves key⟩
  cases r with
  | overwriteMemory v =>
    obtain ⟨items, kept⟩ := setMemory_cache o v
    exact unmoved _ kept (fun i hi => items ▸ hi) fun _ _ => rfl
  | overwriteMaxEntries v =>
    obtain ⟨items, kept⟩ := setMaxEntries_cache o v
    exact unmoved _ kept (fun i hi => items ▸ hi) fun _ _ => rfl
  | call r =>
    cases r with
    | use u =>
      cases u with
      | get now key =>
        obtain ⟨kept, items, -⟩ := get_ended (o := o) now key fun i hi => hi
        exact unmoved _ kept items fun _ _ => rfl
      | set now key value size =>
        rcases set_ended (o := o) now key value size h.isText with
          ⟨refused, kept, items, -⟩ | ⟨answered, kept, items, -⟩
        · refine unmoved _ kept items fun k standing => ?_
          show Event.leaves k standing ⟨_, (o.set now (.text key) value size).1.map .taken, _⟩ = _
          rw [refused]
          rfl
        · have leaves (k : String) (standing : Option (Value × Binary64)) := Event.leaves_set answered k key
            value size now (o.set now (.text key) value size).2.1 standing
          refine ⟨kept.trans h.ttl, fun i hi => ?_⟩
          rcases items i hi with ⟨there, other⟩ | rfl
          · exact (h.items i there).concat fun k hk standing => (leaves k standing).trans (if_neg (ne_of_other hk other))
          · refine ⟨key, rfl, ?_⟩
            rw [standing_concat]
            exact (leaves key _).trans (if_pos rfl)
    | invalidate key =>
      obtain ⟨kept, items, -⟩ := invalidate_ended (o := o) key h.items
      refine ⟨kept.trans h.ttl, fun i hi => ?_⟩
      obtain ⟨stands, other⟩ := items i hi
      exact stands.concat fun k hk standing => if_neg (ne_of_other hk other)
    | invalidatePrefix front =>
      obtain ⟨⟨kept, items, -⟩, gone⟩ := invalidateFront_ended (o := o) front h.items h.isText
      refine ⟨kept.trans h.ttl, fun i hi => (items i hi).concat fun k hk standing => ?_⟩
      refine Event.leaves_invalidatePrefix k front _ none standing fun n counted => ?_
      have spared := gone n counted i hi
      rw [hk] at spared
      exact spared
    | clear => exact ⟨h.ttl, nofun⟩
    | resetStats | contains | health => exact unmoved _ rfl (fun _ hi => hi) fun _ _ => rfl

theorem Backed.history (h : Backed ttl events o) (requests : List Request) :
    Backed ttl (events ++ (o.history requests).1) (o.history requests).2 := by
  induction requests generalizing events o with
  | nil => simpa [Overwritten.history] using h
  | cons r rs ih => simpa [Overwritten.history] using ih (h.perform r)

theorem numeric_perform (backed : Backed ttl events o) (h : o.Numeric) (numeric : r.IsNumeric) :
    (o.perform r).2.Numeric ∧ ∀ e, (o.perform r).1.answer = .error e → e = .tooManyDigits none := by
  have broken {α β : Type} {f : α → β} {answer : Except Failure α}
      (lasts : ∀ e, answer = .error e → e = .tooManyDigits none) (e : Failure)
      (h : answer.map f = .error e) : e = .tooManyDigits none := lasts e (map_eq_error.1 h)
  cases r with
  | overwriteMemory v => exact ⟨.of_counter h.limit numeric, fun _ => nofun⟩
  | overwriteMaxEntries v => exact ⟨.of_limit h.counter numeric, fun _ => nofun⟩
  | call r =>
    cases r with
    | use u =>
      cases u with
      | get now key =>
        obtain ⟨-, -, numeric, lasts, -⟩ := get_ended (o := o) now key backed.items
        exact ⟨numeric h, broken (lasts h)⟩
      | set now key value size =>
        rcases set_ended (o := o) now key value size backed.isText with
          ⟨-, -, -, numeric, lasts, -⟩ | ⟨-, -, -, numeric, lasts, -⟩
        · exact ⟨numeric h, broken (lasts h)⟩
        · exact ⟨numeric h, broken (lasts h)⟩
    | invalidate key =>
      obtain ⟨-, -, numeric, lasts, -⟩ := invalidate_ended (o := o) key backed.items
      exact ⟨numeric h, broken (lasts h)⟩
    | invalidatePrefix front =>
      obtain ⟨⟨-, -, numeric, lasts, -⟩, -⟩ := invalidateFront_ended (o := o) front backed.items backed.isText
      exact ⟨numeric h, broken (lasts h)⟩
    | clear => exact ⟨⟨h.limit, .whole 0, rfl⟩, fun _ => nofun⟩
    | resetStats => exact ⟨⟨h.limit, h.counter⟩, fun _ => nofun⟩
    | contains | health => exact ⟨h, fun _ => nofun⟩

theorem answer_of_mem_history {requests : List Request} (backed : Backed ttl events o)
    (h : o.Numeric) (numeric : ∀ r ∈ requests, r.IsNumeric) :
    ∀ e ∈ (o.history requests).1, ∀ failure, e.answer = .error failure → failure = .tooManyDigits none := by
  induction requests generalizing events o with
  | nil => simp [Overwritten.history]
  | cons r rs ih =>
    obtain ⟨numbers, answered⟩ := numeric_perform backed h (numeric r (.head _))
    have others := ih (backed.perform r) numbers fun r' hr' => numeric r' (List.mem_cons_of_mem r hr')
    intro e he
    rcases List.mem_cons.1 he with rfl | he
    · exact answered
    · exact others e he

theorem emptied_of_corruption (backed : Backed ttl events o) (h : (o.perform r).1.corruption ≠ none) :
    (o.perform r).2.cache.items = [] ∧ (o.perform r).2.memory = .int 0 := by
  cases r with
  | overwriteMemory | overwriteMaxEntries => exact absurd rfl h
  | call r =>
    cases r with
    | use u =>
      cases u with
      | get now key => exact (get_ended (o := o) now key backed.items).emptied h
      | set now key value size =>
        rcases set_ended (o := o) now key value size backed.isText with ⟨-, ended⟩ | ⟨-, ended⟩
        · exact ended.emptied h
        · exact ended.emptied h
    | _ => exact absurd rfl h

theorem get_of_hit {now : Binary64} {key : String} {value : Value}
    (h : (o.perform (.get now key)).1.hit? = some value) : (o.get now (.text key)).1 = .ok (some value) := by
  have answer : (o.perform (.get now key)).1.answer = (o.get now (.text key)).1.map .found := rfl
  rw [Event.hit?, answer] at h
  cases got : (o.get now (.text key)).1 with
  | error e =>
    rw [got] at h
    cases h
  | ok found =>
    rw [got] at h
    exact congrArg Except.ok h

theorem lt_of_isExpired {now : Binary64} {q a b : Rat}
    (fresh : c.isExpired now i = false) (limit : c.ttl = some (.value q)) (positive : 0 < q)
    (holds : Binary64.Holds q) (here : now.toRat? = some a) (there : i.inserted.toRat? = some b) :
    a - b < q := by
  rw [Cache.isExpired, limit] at fresh
  by_contra reached
  have past := Binary64.le_sub positive holds here there (not_lt.1 reached)
  cases past.symm.trans fresh

/-- **A cache serves what stands.** After any requests of a new cache, with writes of anything over the
counter and the limit, a hit is the value of the last set of its key that was not refused; no call dropped the
key since, and its time is not over. A request that finds the cache corrupt leaves it empty. While only
numbers are written over, a request breaks off only where one is too long to be shown. -/
theorem hit_stands {name : Value} {maxEntries maxMemory : Quantity} {ttl : Option Magnitude}
    {c : Cache Value Value} (made : Cache.make name maxEntries maxMemory ttl = .ok c)
    (requests : List Request) :
    let events := (history { cache := c } requests).1
    let o := (history { cache := c } requests).2
    (∀ now key value, (o.perform (.get now key)).1.hit? = some value →
      ∃ since, standing key events = some (value, since) ∧
        (∀ limit, ttl = some limit → limit.le (.ofBinary64 (now.sub since)) = false) ∧
        ∀ q a b, ttl = some (.value q) → 0 < q → Binary64.Holds q → now.toRat? = some a →
          since.toRat? = some b → a - b < q) ∧
    (∀ r, (o.perform r).1.corruption ≠ none → (o.perform r).2.cache.items = [] ∧ (o.perform r).2.memory = .int 0) ∧
    ((∀ r ∈ requests, r.IsNumeric) →
      ∀ e ∈ events, ∀ failure, e.answer = .error failure → failure = .tooManyDigits none) := by
  have plain : Numeric { cache := c } := ⟨rfl, .whole c.memory, rfl⟩
  have new : Backed ttl [] { cache := c } := by
    obtain ⟨-, -, rfl⟩ := Cache.make_eq_ok_iff.1 made
    exact ⟨rfl, nofun⟩
  have backed := new.history requests
  refine ⟨fun now key value hit => ?_, fun r => emptied_of_corruption backed, fun numeric =>
    answer_of_mem_history new plain numeric⟩
  obtain ⟨i, there, same, rfl, fresh⟩ := exists_of_get (get_of_hit hit)
  obtain ⟨k, hk, stands⟩ := backed.items i there
  obtain rfl : k = key := by simpa [hk, Value.text_beq] using same
  refine ⟨i.inserted, stands, fun limit given => ?_, fun q a b given => ?_⟩
  · rw [Cache.isExpired, backed.ttl, given] at fresh
    exact fresh
  · exact lt_of_isExpired fresh (backed.ttl.trans given)

def small : Cache Value Value :=
  { name := .text "small", maxEntries := .whole 2, maxMemory := .whole 10, ttl := some (.value 300) }

def damaging : List Request :=
  [.set (.finite false 1 0) "a" (.text "x") 3, .set (.finite false 1 0) "a" (.text "y") 4,
    .overwriteMemory (.float (.finite false 5 (-1))), .overwriteMaxEntries (.int 1)]

/-- Nearly five minutes later. -/
theorem hit_stands_damaged :
    let events := (history { cache := small } damaging).1
    let o := (history { cache := small } damaging).2
    (o.perform (.get (.finite false 299 0) "a")).1.hit? = some (.text "y") ∧
      standing "a" events = some (.text "y", .finite false 1 0) ∧
      ∃ a b, (Binary64.finite false 299 0).toRat? = some a ∧ (Binary64.finite false 1 0).toRat? = some b ∧
        a - b < 300 := by
  have made : Cache.make (.text "small") (.whole 2) (.whole 10) (some (.value 300)) = .ok small := rfl
  have run := hit_stands made damaging
  have last : standing "a" (history { cache := small } damaging).1 =
      some (.text "y", .finite false 1 0) := by with_unfolding_all rfl
  obtain ⟨value, hit⟩ := Option.isSome_iff_exists.1 (show ((history { cache := small } damaging).2.perform
    (.get (.finite false 299 0) "a")).1.hit?.isSome = true by decide +kernel)
  obtain ⟨since, stands, -, elapsed⟩ := run.1 (.finite false 299 0) "a" value hit
  rw [last] at stands
  cases stands
  have here : (Binary64.finite false 299 0).toRat? = some 299 := by decide +kernel
  have there : (Binary64.finite false 1 0).toRat? = some 1 := by decide +kernel
  have limit : Binary64.Holds 300 :=
    ⟨.finite false 300 0, ⟨by decide, by decide⟩, by decide +kernel⟩
  exact ⟨hit, last, 299, 1, here, there, elapsed 300 299 1 rfl (by decide) limit here there⟩

/-- Under a counter that is no number a set breaks off with its value in place: no set was answered with yes,
and yet there is a hit. -/
theorem broken_set_found :
    let requests : List Request := [.overwriteMemory (.text "?"), .set (.finite false 1 0) "a" (.text "x") 1,
      .overwriteMemory (.int 1)]
    let events := (history { cache := small } requests).1
    let o := (history { cache := small } requests).2
    (∀ e ∈ events, e.answer ≠ .ok (.taken true)) ∧
      (o.perform (.get (.finite false 1 0) "a")).1.hit?.isSome = true := by
  intro requests events o
  have answers : events.map (·.answer) = [.ok .done, .error .wrongKind, .ok .done] := by with_unfolding_all rfl
  refine ⟨fun e he yes => ?_, by decide +kernel⟩
  have listed := List.mem_map_of_mem (f := (·.answer)) he
  rw [answers, yes] at listed
  simp at listed

end TriStore.Overwritten
