import TriStore.Proofs.CacheHistory

/-!
What the answer of a set says about a look that follows at once, whatever was written over the
counter and the limit before.
-/
namespace TriStore

theorem Binary64.le_sub_self {t : Magnitude} (positive : (Magnitude.value 0).lt t = true) (x : Binary64) :
    t.le (.ofBinary64 (x.sub x)) = false := by
  cases x with
  | nan => cases t <;> rfl
  | infinite s => cases s <;> cases t <;> rfl
  | finite s m e =>
    rw [ofBinary64_sub rfl rfl le_rfl, if_pos rfl]
    cases t with
    | undefined => cases positive
    | below => cases positive
    | above => rfl
    | value q =>
      have above : 0 < q := of_decide_eq_true positive
      simpa using mt Magnitude.value_le_value.1 above.not_ge

theorem Cache.isExpired_inserted {κ α : Type} {c : Cache κ α} {i : CacheItem κ α}
    (positive : ∀ t, c.ttl = some t → (Magnitude.value 0).lt t = true) :
    c.isExpired i.inserted i = false := by
  unfold isExpired
  split
  · rfl
  · next t given => exact Binary64.le_sub_self (positive t given) i.inserted

namespace Overwritten

variable {o o' : Overwritten} {now : Binary64} {k : String} {v : Value} {size : Nat}

theorem ends_number {q : Quantity} (h : Quantity.ofValue? v = some q) (o : Overwritten) :
    ends (number v) o = (.ok q, o) := by
  rw [number, h]
  rfl

theorem InOrder.check (h : InOrder o) : ends check o = (.ok (), o) := by
  obtain ⟨⟨q, counted, notBelow, notPhantom⟩, ⟨limit, limited, within⟩⟩ := h
  rw [Overwritten.check, ends_bind_of_ok (ends_get o), ends_bind_of_ok (ends_number counted o)]
  rw [if_neg (Bool.eq_false_iff.1 notBelow), if_neg (Bool.eq_false_iff.1 notPhantom),
    ends_bind_of_ok (ends_number limited o), if_neg (Bool.eq_false_iff.1 within)]
  rfl

theorem Topped.find? (h : Topped o ⟨.text k, v, now, size⟩) :
    o.cache.find? (.text k) = some ⟨.text k, v, now, size⟩ := by
  obtain ⟨left, items, others⟩ := h
  rw [Cache.find?, items, List.find?_append, List.find?_eq_none.2 fun j hj => by simp [others j hj]]
  simp [Value.text_beq]

theorem Topped.used (h : Topped o ⟨.text k, v, now, size⟩) :
    o.cache.items.filter (·.key != .text k) ++ [⟨.text k, v, now, size⟩] = o.cache.items := by
  obtain ⟨left, items, others⟩ := h
  rw [items, List.filter_append, List.filter_eq_self.2 fun j hj => by simp [bne, others j hj]]
  simp [bne, Value.text_beq]

theorem get_of_topped (order : InOrder o) (top : Topped o ⟨.text k, v, now, size⟩)
    (fresh : o.cache.isExpired now ⟨.text k, v, now, size⟩ = false) :
    (o.get now (.text k)).1 = .ok (some v) := by
  have same : InOrder { o with
      cache.items := o.cache.items.filter (·.key != .text k) ++ [⟨.text k, v, now, size⟩]
      cache.hits := o.cache.hits + 1 } := by
    rw [top.used]
    exact ⟨order.counter, order.limit⟩
  have found : ∃ o', ends (getPart now (.text k)) o = (.ok (some v), o') := by
    rw [getPart, checkKey_text, pure_bind, ends_bind_of_ok (ends_get o), top.find?]
    rw [ends_bind_of_ok (ends_get o), if_neg (Bool.eq_false_iff.1 fresh),
      ends_bind_of_ok (ends_modify _ o), ends_bind_of_ok same.check]
    exact ⟨_, rfl⟩
  obtain ⟨o', found⟩ := found
  rw [get, run_of_ok found]

theorem get_of_empty (empty : o.cache.items = []) : (o.get now (.text k)).1 = .ok none := by
  have absent : o.cache.find? (.text k) = none := by rw [Cache.find?, empty]; rfl
  have found : ∃ o', ends (getPart now (.text k)) o = (.ok none, o') := by
    rw [getPart, checkKey_text, pure_bind, ends_bind_of_ok (ends_get o), absent]
    exact ⟨_, rfl⟩
  obtain ⟨o', found⟩ := found
  rw [get, run_of_ok found]

theorem set_of_small (now : Binary64) (k : String) (v : Value)
    (small : o.cache.maxMemory.magnitude.lt (size : Magnitude) = false) :
    ((o.set now (.text k) v size).1 = .ok true → InOrder (o.set now (.text k) v size).2.2 ∧
      Topped (o.set now (.text k) v size).2.2 ⟨.text k, v, now, size⟩) ∧
    ((o.set now (.text k) v size).1 = .ok false → (o.set now (.text k) v size).2.2.cache.items = []) := by
  rw [set, if_neg (Bool.eq_false_iff.1 small)]
  have mapped := ends_map some (setPart now (.text k) v size) o
  rcases ended : ends (setPart now (.text k) v size) o with ⟨stop | gone, o'⟩
  · rw [ended] at mapped
    cases stop with
    | corrupt cause =>
      rw [run_of_corrupt mapped]
      exact ⟨by simp, fun _ => rfl⟩
    | failure e =>
      rw [run_of_failure mapped]
      exact ⟨by simp, by simp⟩
  · rw [ended] at mapped
    rw [run_of_ok mapped]
    have placed := (Leaves.setPart now k v size o).answers
    rw [ended] at placed
    obtain ⟨order, top, -⟩ := placed gone rfl
    refine ⟨fun _ => ⟨order, top⟩, fun answered => ?_⟩
    dsimp only at answered
    split at answered <;> cases answered

/-- The caches that come about from a new one. -/
inductive Reachable : Overwritten → Prop
  | new {name lives : Value} {maxEntries maxMemory : Quantity} {ttl : Option Magnitude}
      {c : Cache Value Value} : Cache.ttlOf lives = .ok ttl →
      Cache.make name maxEntries maxMemory ttl = .ok c → Reachable { cache := c }
  | perform {o : Overwritten} : Reachable o → ∀ r, Reachable (o.perform r).2

theorem Reachable.backed (h : Reachable o) :
    ∃ ttl events, Backed ttl events o ∧ ∀ t, ttl = some t → (Magnitude.value 0).lt t = true := by
  induction h with
  | new lives made =>
    obtain ⟨-, -, rfl⟩ := Cache.make_eq_ok_iff.1 made
    refine ⟨_, [], ⟨rfl, nofun⟩, ?_⟩
    rintro t rfl
    unfold Cache.ttlOf at lives
    split at lives
    · cases lives
    · split at lives
      · cases lives
      · split at lives
        · next positive =>
          cases lives
          exact positive
        · cases lives
  | perform _ r ih =>
    obtain ⟨ttl, events, backed, positive⟩ := ih
    exact ⟨ttl, _, backed.perform r, positive⟩

def TooLarge (o : Overwritten) (size : Nat) : Prop :=
  o.cache.maxMemory.magnitude.lt (size : Magnitude) = true

/-- After a set, a look at the same time finds its value if the answer was yes, and nothing if it was no. -/
def Truthful (o : Overwritten) (now : Binary64) (key : String) (value : Value) (size : Nat) : Prop :=
  let set := o.perform (.set now key value size)
  let get := set.2.perform (.get now key)
  (set.1.answer = .ok (.taken true) → get.1.answer = .ok (.found (some value))) ∧
    (set.1.answer = .ok (.taken false) → get.1.answer = .ok (.found none))

theorem taken_of_answer {answer : Except Failure Bool} {yes : Bool}
    (h : answer.map Answer.taken = .ok (.taken yes)) : answer = .ok yes := by
  cases answer with
  | error e => cases h
  | ok b =>
    cases h
    rfl

/-- **A set tells the truth about the look after it**, in every cache that can come about, unless its value is
too large for the whole cache. Such a set changes nothing, so its no is true exactly when a look before it
would have missed. After any other, even one that breaks off, no older value is found. -/
theorem set_tells_truth (reached : Reachable o) (now : Binary64) (key : String) (value : Value) (size : Nat) :
    (Truthful o now key value size ↔ (o.TooLarge size → (o.perform (.get now key)).1.answer = .ok (.found none))) ∧
    (o.TooLarge size →
      o.perform (.set now key value size) = (⟨.set now key value size, .ok (.taken false), none⟩, o)) ∧
    (¬o.TooLarge size → ∀ old,
      ((o.perform (.set now key value size)).2.perform (.get now key)).1.hit? = some old → old = value) := by
  obtain ⟨ttl, events, backed, positive⟩ := reached.backed
  have refused (large : o.TooLarge size) :
      o.perform (.set now key value size) = (⟨.set now key value size, .ok (.taken false), none⟩, o) := by
    have same : o.set now (.text key) value size = (.ok false, none, o) := if_pos large
    rw [perform, same]
    rfl
  refine ⟨⟨fun truthful large => ?_, fun missed => ?_⟩, refused, fun small old hit => ?_⟩
  · have no := truthful.2
    rw [refused large] at no
    exact no rfl
  · by_cases large : o.TooLarge size
    · unfold Truthful
      rw [refused large]
      exact ⟨nofun, fun _ => missed large⟩
    · obtain ⟨accepted, emptied⟩ := set_of_small now key value (Bool.eq_false_iff.2 large)
      refine ⟨fun yes => ?_, fun no => ?_⟩
      · obtain ⟨order, top⟩ := accepted (taken_of_answer yes)
        have lives : (o.perform (.set now key value size)).2.cache.ttl = ttl := (backed.perform _).ttl
        exact congrArg (Except.map Answer.found) (get_of_topped order top
          (Cache.isExpired_inserted (i := ⟨.text key, value, now, size⟩)
            fun t given => positive t (lives.symm.trans given)))
      · exact congrArg (Except.map Answer.found) (get_of_empty (emptied (taken_of_answer no)))
  · -- what the look finds is under the key, and there the set leaves its own item only
    obtain ⟨i, there, same, rfl, -⟩ := exists_of_get (get_of_hit hit)
    rcases set_ended (o := o) now key value size backed.isText with ⟨no, -⟩ | ⟨-, -, items, -⟩
    · have empty := (set_of_small now key value (Bool.eq_false_iff.2 small)).2 no
      rw [show (o.perform (.set now key value size)).2.cache.items = [] from empty] at there
      cases there
    · rcases items i there with ⟨-, other⟩ | rfl
      · rw [other] at same
        cases same
      · rfl

def held : Overwritten := (perform { cache := small } (.set (.finite false 1 0) "a" (.text "x") 2)).2

theorem reachable_held : Reachable held := by
  have lives : Cache.ttlOf (.int 300) = .ok (some (.value 300)) := by with_unfolding_all rfl
  have made : Cache.make (.text "small") (.whole 2) (.whole 10) (some (.value 300)) = .ok small := rfl
  exact .perform (.new lives made) _

/-- A set makes room for itself under a counter that is too great. -/
theorem set_tells_truth_damaged :
    let o := (held.perform (.overwriteMemory (.int 7))).2
    (o.perform (.set (.finite false 1 0) "a" (.text "xyz") 6)).1.answer = .ok (.taken true) ∧
      Truthful o (.finite false 1 0) "a" (.text "xyz") 6 := by
  intro o
  have small : ¬o.TooLarge 6 := by unfold TooLarge; decide +kernel
  have truth := set_tells_truth (reachable_held.perform (.overwriteMemory (.int 7))) (.finite false 1 0) "a"
    (.text "xyz") 6
  exact ⟨by with_unfolding_all rfl, truth.1.2 fun large => absurd large small⟩

/-- A value of six letters is refused, and the older one stays. -/
theorem refused_set_untruthful : ¬Truthful held (.finite false 1 0) "a" (.text "abcdef") 12 := by
  intro truthful
  have missed := truthful.2 (by with_unfolding_all rfl)
  have found : ((held.perform (.set (.finite false 1 0) "a" (.text "abcdef") 12)).2.perform
      (.get (.finite false 1 0) "a")).1.hit?.isSome = true := by decide +kernel
  rw [Event.hit?, missed] at found
  cases found

end Overwritten

end TriStore
