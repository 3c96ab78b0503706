import TriStore.Proofs.CacheAccounts

/-!
Items make room in a cache: the one under the same key and those past their time, then items from the front.
-/
namespace TriStore.Cache
open Magnitude

variable {κ α : Type} {n m : Int} {c : Cache κ α} {now : Binary64} {key : κ} {value : α} {size : Nat}

/-- An item of the size finds room beside these within the limits `n` and `m`. -/
def HasRoom (n m : Int) (size : Nat) (items : List (CacheItem κ α)) : Prop :=
  (items.length : Int) < n ∧ (total items : Int) + size ≤ m

/-- The shortest front of the items after which there is room beside those that are left. -/
structure ShortestFront (n m : Int) (size : Nat) (items gone left : List (CacheItem κ α)) : Prop where
  split : items = gone ++ left
  room : HasRoom n m size left
  least : ∀ gone' left', items = gone' ++ left' → HasRoom n m size left' → gone.length ≤ gone'.length

theorem isFull_eq_false_iff (entries : c.maxEntries.magnitude = .value n)
    (memory : c.maxMemory.magnitude = .value m) (size : Nat) (items : List (CacheItem κ α)) :
    c.isFull size items.length (total items) = false ↔ HasRoom n m size items := by
  rw [isFull, Bool.or_eq_false_iff, entries, memory, ← Rat.intCast_natCast, le_value, lt_value]
  simp [HasRoom]

theorem makeRoom_shortest (entries : c.maxEntries.magnitude = .value n)
    (memory : c.maxMemory.magnitude = .value m) (hn : 1 ≤ n) (small : (size : Int) ≤ m)
    (items : List (CacheItem κ α)) : ∃ gone left, ShortestFront n m size items gone left ∧
      c.makeRoom size items (total items) = (left, (total left : Int), gone.length) := by
  induction items with
  | nil =>
    have room : HasRoom n m size ([] : List (CacheItem κ α)) := ⟨by simp; omega, by simpa [total] using small⟩
    exact ⟨[], [], ⟨rfl, room, fun _ _ _ _ => Nat.zero_le _⟩, rfl⟩
  | cons i rest ih =>
    have free := isFull_eq_false_iff entries memory size (i :: rest)
    cases full : c.isFull size (i :: rest).length (total (i :: rest)) with
    | false =>
      refine ⟨[], i :: rest, ⟨rfl, free.1 full, fun _ _ _ _ => Nat.zero_le _⟩, ?_⟩
      exact if_neg (Bool.eq_false_iff.1 full)
    | true =>
      obtain ⟨gone, left, ⟨split, room, least⟩, made⟩ := ih
      refine ⟨i :: gone, left, ⟨by rw [split]; rfl, room, fun gone' left' split' room' => ?_⟩, ?_⟩
      · -- a front without the first item would leave room beside all of them
        cases gone' with
        | nil =>
          rw [free.2 (split'.trans (List.nil_append _) ▸ room')] at full
          cases full
        | cons j gone' => exact Nat.succ_le_succ (least gone' left' (List.cons.inj split').2 room')
      · have less : (total (i :: rest) : Int) - i.size = total rest := by
          rw [total_cons]
          omega
        refine (if_pos full).trans ?_
        rw [less, made]
        rfl

section

variable [BEq κ] [LawfulBEq κ]

def others (c : Cache κ α) (now : Binary64) (key : κ) : List (CacheItem κ α) :=
  (c.items.filter (·.key != key)).filter (!c.isExpired now ·)

theorem Sound.set_shortest (h : Sound n m c) (hn : 1 ≤ n) (now : Binary64) (key : κ) (value : α)
    (small : (size : Int) ≤ m) : ∃ gone left, ShortestFront n m size (c.others now key) gone left ∧
      c.set now key value size = (true, none, { c with
        items := left ++ [⟨key, value, now, size⟩]
        memory := total left + size
        evictions := c.evictions + gone.length }) := by
  have kept := (h.drop (·.key == key)).drop (c.isExpired now)
  have same : ((c.drop (·.key == key)).drop (c.isExpired now)).items = c.others now key := rfl
  obtain ⟨gone, left, shortest, made⟩ :=
    makeRoom_shortest kept.maxEntries kept.maxMemory hn small (c.others now key)
  refine ⟨gone, left, shortest, ?_⟩
  have fits : ¬c.maxMemory.magnitude.lt (size : Magnitude) = true := by
    rw [h.maxMemory, ← Rat.intCast_natCast, lt_value]
    simpa using small
  have clean := (h.set hn now key value size).1
  unfold Cache.set at clean ⊢
  rw [if_neg fits] at clean ⊢
  dsimp only at clean ⊢
  rw [kept.memory, same, made] at clean ⊢
  split at clean
  · rfl
  · cases clean

theorem get_hit (hit : (c.get now key).1 = some value) :
    ∃ i ∈ c.items, i.key = key ∧ i.value = value ∧ c.get now key = (some value, none, { c with
      items := c.items.filter (·.key != key) ++ [i]
      hits := c.hits + 1 }) := by
  unfold get at hit ⊢
  cases found : c.find? key with
  | none => simp [found] at hit
  | some i =>
    obtain ⟨there, same⟩ := mem_of_find?_eq_some found
    refine ⟨i, there, by simpa using same, ?_⟩
    simp only [found] at hit
    dsimp only
    split at hit
    · cases hit
    · next fresh =>
      rw [if_neg fresh]
      split at hit
      · exact ⟨Option.some.inj hit, congrArg (·, _) hit⟩
      · cases hit

end

/-- **Eviction by last use.** After any calls of a cache with whole limits, a set is accepted exactly when its
item alone is within the memory. The others stay as they are, in their order, without the shortest front that
makes room; the new item comes last. A look that finds a value moves its item to the end. -/
theorem evicts_least_recent {start : Cache String α} {name : Value} {maxEntries maxMemory : Quantity}
    {ttl : Option Magnitude} (made : make name maxEntries maxMemory ttl = .ok start)
    (entries : maxEntries.magnitude = .value n) (memory : maxMemory.magnitude = .value m)
    (requests : List (Request α)) :
    let c := (start.run requests).2
    (∀ now key value size, (c.set now key value size).1 = decide ((size : Int) ≤ m)) ∧
    (∀ now key value size, (c.set now key value size).1 = true →
      ∃ gone left, ShortestFront n m size (c.others now key) gone left ∧
        c.set now key value size = (true, none, { c with
          items := left ++ [⟨key, value, now, size⟩]
          memory := total left + size
          evictions := c.evictions + gone.length })) ∧
    ∀ now key value, (c.get now key).1 = some value →
      ∃ i ∈ c.items, i.key = key ∧ i.value = value ∧ c.get now key = (some value, none, { c with
        items := c.items.filter (·.key != key) ++ [i]
        hits := c.hits + 1 }) := by
  intro c
  obtain ⟨hn, hm, sound⟩ := sound_of_make entries memory made
  replace sound : Sound n m c := (sound.run hn hm requests).2
  have accepted (now : Binary64) (key : String) (value : α) (size : Nat) :
      (c.set now key value size).1 = decide ((size : Int) ≤ m) := by
    by_cases small : (size : Int) ≤ m
    · obtain ⟨gone, left, -, set⟩ := sound.set_shortest hn now key value small
      rw [set, decide_eq_true small]
    · have large : c.maxMemory.magnitude.lt (size : Magnitude) = true := by
        rw [sound.maxMemory, ← Rat.intCast_natCast, lt_value]
        simpa using small
      rw [Cache.set, if_pos large, decide_eq_false small]
  refine ⟨accepted, fun now key value size taken => ?_, fun now key value hit => get_hit hit⟩
  exact sound.set_shortest hn now key value (by simpa [accepted] using taken)

/-- The number asks for one item to go, and the memory then for another. -/
theorem evicts_least_recent_both : ∃ c : Cache String Nat,
    c = (run ⟨.text "cache", .whole 3, .whole 10, none, [], 0, 0, 0, 0⟩ [.use (.set (.zero false) "a" 1 4),
      .use (.set (.zero false) "b" 2 3), .use (.set (.zero false) "c" 3 3), .use (.get (.zero false) "a")]).2 ∧
    c.keys = ["b", "c", "a"] ∧ (c.set (.zero false) "d" 4 4).2.2.keys = ["a", "d"] ∧
    ∃ gone left, ShortestFront 3 10 4 (c.others (.zero false) "d") gone left ∧ gone.length = 2 := by
  obtain ⟨accepted, evicts, -⟩ := evicts_least_recent (n := 3) (m := 10)
    (show make (.text "cache") (.whole 3) (.whole 10) none = .ok (_ : Cache String Nat) from rfl) rfl rfl
    [.use (.set (.zero false) "a" 1 4), .use (.set (.zero false) "b" 2 3), .use (.set (.zero false) "c" 3 3),
      .use (.get (.zero false) "a")]
  obtain ⟨gone, left, shortest, set⟩ := evicts (.zero false) "d" 4 4 (accepted _ _ _ _)
  have counted := congrArg (·.2.2.evictions) set
  refine ⟨_, rfl, by decide, by decide, gone, left, shortest, ?_⟩
  exact (Nat.zero_add _).symm.trans (counted.symm.trans (by decide))

end TriStore.Cache
