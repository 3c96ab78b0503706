import TriStore.Proofs.CacheContents

/-!
With whole limits that leave room, no call brings a cache out of step with its items or above a limit.
-/
namespace TriStore
open List Magnitude

theorem Magnitude.lt_value {a b : Int} : (value a).lt (value b) = decide (a < b) := by
  simp [lt, Rat.intCast_lt_intCast]

theorem Magnitude.le_value {a b : Int} : (value a).le (value b) = decide (a ≤ b) := by
  rw [le, lt_value, same, Bool.eq_iff_iff, Bool.or_eq_true, decide_eq_true_eq, decide_eq_true_eq,
    beq_iff_eq, Rat.intCast_inj]
  omega

namespace Cache

section Sizes

variable {κ α : Type}

def total (items : List (CacheItem κ α)) : Nat := (items.map (·.size)).foldr (· + ·) 0

theorem total_cons (i : CacheItem κ α) (items : List (CacheItem κ α)) :
    total (i :: items) = i.size + total items := rfl

theorem total_append (items items' : List (CacheItem κ α)) :
    total (items ++ items') = total items + total items' := by
  induction items with
  | nil => exact (Nat.zero_add _).symm
  | cons i items ih => rw [cons_append, total_cons, total_cons, ih, Nat.add_assoc]

theorem total_perm {items items' : List (CacheItem κ α)} (h : items.Perm items') : total items = total items' := by
  induction h with
  | nil => rfl
  | cons i _ ih => rw [total_cons, total_cons, ih]
  | swap i j items => simp only [total_cons]; omega
  | trans _ _ ih ih' => exact ih.trans ih'

theorem total_filter (p : CacheItem κ α → Bool) (items : List (CacheItem κ α)) :
    total (items.filter p) + total (items.filter (!p ·)) = total items := by
  rw [← total_append]
  exact total_perm (filter_append_perm p items)

end Sizes

/-- The accounts of a cache with the whole limits `n` and `m` are in order. -/
structure Sound {κ α : Type} (n m : Int) (c : Cache κ α) : Prop where
  maxEntries : c.maxEntries.magnitude = .value n
  maxMemory : c.maxMemory.magnitude = .value m
  nodup : c.keys.Nodup
  memory : c.memory = total c.items
  room : c.memory ≤ m
  count : (c.items.length : Int) ≤ n

variable {κ α : Type} {n m : Int} {c c' : Cache κ α} {key : κ} {value : α} {size : Nat}
  {now : Binary64}

namespace Sound

theorem congr (h : Sound n m c) (maxEntries : c'.maxEntries = c.maxEntries)
    (maxMemory : c'.maxMemory = c.maxMemory) (items : c'.items.Perm c.items)
    (memory : c'.memory = c.memory) : Sound n m c' where
  maxEntries := by rw [maxEntries, h.maxEntries]
  maxMemory := by rw [maxMemory, h.maxMemory]
  nodup := (items.map CacheItem.key).nodup_iff.2 h.nodup
  memory := by rw [memory, h.memory, total_perm items]
  room := memory ▸ h.room
  count := by rw [items.length_eq]; exact h.count

theorem drop (h : Sound n m c) (p : CacheItem κ α → Bool) : Sound n m (c.drop p) := by
  have split := total_filter p c.items
  have memory : (c.drop p).memory = total (c.drop p).items := by
    show c.memory - (total (c.items.filter p) : Int) = total (c.items.filter (!p ·))
    rw [h.memory]
    omega
  refine ⟨h.maxEntries, h.maxMemory, ?_, memory, ?_, ?_⟩
  · exact h.nodup.sublist (filter_sublist.map _)
  · have room := h.room
    show c.memory - (total (c.items.filter p) : Int) ≤ m
    omega
  · have fewer : (c.drop p).items.length ≤ c.items.length := length_filter_le _ _
    have count := h.count
    omega

theorem clear (h : Sound n m c) (hn : 0 ≤ n) (hm : 0 ≤ m) : Sound n m c.clear :=
  ⟨h.maxEntries, h.maxMemory, nodup_nil, rfl, hm, hn⟩

theorem corruption_eq_none (h : Sound n m c) : c.corruption? = none := by
  have counted : ¬c.memory < 0 := by
    rw [h.memory]
    omega
  have empty : (c.items.isEmpty && c.memory != 0) = false := by
    rw [Bool.and_eq_false_iff]
    by_cases none : c.items = []
    · right
      rw [h.memory, none]
      rfl
    · left
      simpa using none
  have within : c.maxEntries.magnitude.lt (c.items.length : Magnitude) = false := by
    rw [h.maxEntries, ← Rat.intCast_natCast, lt_value]
    simpa using h.count
  rw [corruption?, if_neg counted, if_neg (by simp [empty]), if_neg (by simp [within])]

theorem filled (h : Sound n m c) (value : α) (now : Binary64) {gone left : List (CacheItem κ α)}
    (hn : 1 ≤ n) (items : c.items = gone ++ left) (absent : ∀ i ∈ c.items, i.key ≠ key)
    (small : (size : Int) ≤ m)
    (fits : left = [] ∨ c.isFull size left.length (c.memory - total gone) = false) (evictions : Nat) :
    Sound n m { c with
      items := left ++ [⟨key, value, now, size⟩]
      memory := c.memory - total gone + size
      evictions := evictions } := by
  have memory : c.memory - (total gone : Int) = total left := by
    rw [h.memory, items, total_append]
    omega
  refine ⟨h.maxEntries, h.maxMemory, ?_, ?_, ?_, ?_⟩
  · have kept : (left.map (·.key)).Nodup := by
      have nodup := h.nodup
      rw [keys, items, map_append] at nodup
      exact nodup.sublist (sublist_append_right _ _)
    show ((left ++ [(⟨key, value, now, size⟩ : CacheItem κ α)]).map (·.key)).Nodup
    rw [map_append, nodup_append]
    refine ⟨kept, by simp, ?_⟩
    intro a ha b hb
    obtain ⟨i, hi, rfl⟩ := mem_map.1 ha
    rw [map_singleton, mem_singleton] at hb
    rw [hb]
    exact absent i (by rw [items]; exact mem_append_right _ hi)
  · show c.memory - (total gone : Int) + size = total (left ++ [_])
    rw [memory, total_append]
    simp [total]
  · show c.memory - (total gone : Int) + size ≤ m
    rcases fits with rfl | free
    · rw [memory]
      simpa [total] using small
    · rw [isFull, Bool.or_eq_false_iff, h.maxMemory, lt_value] at free
      simpa using free.2
  · show ((left ++ [_]).length : Int) ≤ n
    rw [length_append, length_singleton]
    rcases fits with rfl | free
    · simpa using hn
    · rw [isFull, Bool.or_eq_false_iff, h.maxEntries, ← Rat.intCast_natCast, le_value] at free
      have below : ¬n ≤ (left.length : Int) := by simpa using free.1
      omega

end Sound

theorem makeRoom_spec (c : Cache κ α) (size : Nat) (items : List (CacheItem κ α)) (memory : Int) :
    ∃ gone left : List (CacheItem κ α), items = gone ++ left ∧
      c.makeRoom size items memory = (left, memory - total gone, gone.length) ∧
      (left = [] ∨ c.isFull size left.length (memory - total gone) = false) := by
  induction items generalizing memory with
  | nil => exact ⟨[], [], rfl, by simp [makeRoom, total], .inl rfl⟩
  | cons i rest ih =>
    unfold makeRoom
    split
    · obtain ⟨gone, left, rfl, made, fits⟩ := ih (memory - i.size)
      have less : memory - (total (i :: gone) : Int) = memory - i.size - total gone := by
        rw [total_cons]
        omega
      refine ⟨i :: gone, left, rfl, ?_, ?_⟩
      · rw [made, less]
        rfl
      · rw [less]
        exact fits
    · next free =>
      refine ⟨[], i :: rest, rfl, by simp [total], .inr ?_⟩
      simpa [total] using free

section

variable [BEq κ] [LawfulBEq κ]

theorem used_perm (nodup : c.keys.Nodup) {i : CacheItem κ α} (found : c.find? key = some i) :
    (c.items.filter (fun j => j.key != key) ++ [i]).Perm c.items := by
  obtain ⟨mem, same⟩ := mem_of_find?_eq_some found
  obtain rfl : i.key = key := by simpa using same
  have only : c.items.filter (fun j => !(j.key != i.key)) = [i] := by
    unfold keys at nodup
    generalize c.items = items at mem nodup
    induction items with
    | nil => exact absurd mem not_mem_nil
    | cons j items ih =>
      rw [map_cons, nodup_cons] at nodup
      rcases mem_cons.1 mem with rfl | mem
      · have none : items.filter (fun j => !(j.key != i.key)) = [] := by
          rw [filter_eq_nil_iff]
          intro j hj
          have other : j.key ≠ i.key := fun same => nodup.1 (same ▸ mem_map_of_mem hj)
          simpa using other
        rw [filter_cons_of_pos (by simp), none]
      · have other : j.key ≠ i.key := fun same => nodup.1 (same ▸ mem_map_of_mem mem)
        rw [filter_cons_of_neg (by simpa using other)]
        exact ih mem nodup.2
  rw [← only]
  exact filter_append_perm _ _

theorem Sound.get (h : Sound n m c) (now : Binary64) (key : κ) :
    (c.get now key).2.1 = none ∧ Sound n m (c.get now key).2.2 := by
  unfold Cache.get
  cases found : c.find? key with
  | none => exact ⟨rfl, h.congr rfl rfl (.refl _) rfl⟩
  | some i =>
    dsimp only
    split
    · exact ⟨rfl, (h.drop (·.key == key)).congr rfl rfl (.refl _) rfl⟩
    · have used : Sound n m { c with
          items := c.items.filter (fun j => j.key != key) ++ [i], hits := c.hits + 1 } :=
        h.congr rfl rfl (used_perm h.nodup found) rfl
      rw [used.corruption_eq_none]
      exact ⟨rfl, used⟩

theorem Sound.set (h : Sound n m c) (hn : 1 ≤ n) (now : Binary64) (key : κ) (value : α) (size : Nat) :
    (c.set now key value size).2.1 = none ∧ Sound n m (c.set now key value size).2.2 := by
  unfold Cache.set
  split
  · exact ⟨rfl, h⟩
  · next small =>
    have small : (size : Int) ≤ m := by
      rw [h.maxMemory, ← Rat.intCast_natCast, lt_value] at small
      simpa using small
    have kept := (h.drop (·.key == key)).drop (c.isExpired now)
    have absent : ∀ i ∈ ((c.drop (·.key == key)).drop (c.isExpired now)).items, i.key ≠ key := by
      intro i hi
      simpa using (mem_drop.1 (mem_drop.1 hi).1).2
    obtain ⟨gone, left, items, made, fits⟩ := makeRoom_spec
      ((c.drop (·.key == key)).drop (c.isExpired now)) size
      ((c.drop (·.key == key)).drop (c.isExpired now)).items
      ((c.drop (·.key == key)).drop (c.isExpired now)).memory
    have filled := kept.filled value now hn items absent small fits
      (c.evictions + gone.length)
    simp only [made]
    rw [filled.corruption_eq_none]
    exact ⟨rfl, filled⟩

end

/-- A look or a set, with what the clock shows. -/
inductive Use (α : Type) where
  | get (now : Binary64) (key : String)
  | set (now : Binary64) (key : String) (value : α) (size : Nat)
  deriving DecidableEq

/-- A call of a cache, with what the clock shows where the call looks at it. -/
inductive Request (α : Type) where
  | use (u : Use α)
  | invalidate (key : String)
  | invalidatePrefix (front : String)
  | clear
  | resetStats
  | contains (now : Binary64) (key : String)
  | health (now : Binary64)

def perform (c : Cache String α) : Request α → Option Corruption × Cache String α
  | .use (.get now key) => (c.get now key).2
  | .use (.set now key value size) => (c.set now key value size).2
  | .invalidate key => (none, (c.invalidate key).2)
  | .invalidatePrefix front => (none, (c.invalidatePrefix front).2)
  | .clear => (none, c.clear)
  | .resetStats => (none, c.resetStats)
  | .contains _ _ | .health _ => (none, c)

def run (c : Cache String α) : List (Request α) → List (Option Corruption) × Cache String α
  | [] => ([], c)
  | r :: rest =>
    let later := (c.perform r).2.run rest
    ((c.perform r).1 :: later.1, later.2)

theorem Sound.perform {c : Cache String α} (h : Sound n m c) (hn : 1 ≤ n) (hm : 1 ≤ m)
    (r : Request α) : (c.perform r).1 = none ∧ Sound n m (c.perform r).2 := by
  cases r with
  | use u =>
    cases u with
    | get now key => exact h.get now key
    | set now key value size => exact h.set hn now key value size
  | invalidate key =>
    refine ⟨rfl, ?_⟩
    show Sound n m (c.invalidate key).2
    unfold Cache.invalidate
    split
    · exact h.drop _
    · exact h
  | invalidatePrefix front => exact ⟨rfl, h.drop _⟩
  | clear => exact ⟨rfl, h.clear (by omega) (by omega)⟩
  | resetStats => exact ⟨rfl, h.congr rfl rfl (.refl _) rfl⟩
  | contains now key => exact ⟨rfl, h⟩
  | health now => exact ⟨rfl, h⟩

theorem Sound.run {c : Cache String α} (h : Sound n m c) (hn : 1 ≤ n) (hm : 1 ≤ m) (requests : List (Request α)) :
    (∀ found ∈ (c.run requests).1, found = none) ∧ Sound n m (c.run requests).2 := by
  induction requests generalizing c with
  | nil => exact ⟨by simp [Cache.run], h⟩
  | cons r rest ih =>
    obtain ⟨first, sound⟩ := h.perform hn hm r
    obtain ⟨later, sound'⟩ := ih sound
    refine ⟨fun found mem => ?_, sound'⟩
    rcases mem_cons.1 mem with rfl | mem
    · exact first
    · exact later found mem

theorem make_eq_ok_iff {name : Value} {maxEntries maxMemory : Quantity} {ttl : Option Magnitude} :
    make name maxEntries maxMemory ttl = .ok c ↔ maxEntries.magnitude.lt (1 : Nat) = false ∧
      maxMemory.magnitude.lt (1 : Nat) = false ∧ c = { name, maxEntries, maxMemory, ttl } := by
  unfold make
  cases maxEntries.magnitude.lt (1 : Nat) <;> cases maxMemory.magnitude.lt (1 : Nat) <;> simp [eq_comm]

section Made

variable {maxEntries maxMemory : Quantity} {name : Value} {ttl : Option Magnitude}
  (entries : maxEntries.magnitude = .value n) (memory : maxMemory.magnitude = .value m)

include entries memory

theorem sound_of_make (made : make name maxEntries maxMemory ttl = .ok c) : 1 ≤ n ∧ 1 ≤ m ∧ Sound n m c := by
  have one : ((1 : Nat) : Magnitude) = .value (1 : Int) := rfl
  obtain ⟨few, little, rfl⟩ := make_eq_ok_iff.1 made
  rw [entries, one, lt_value, decide_eq_false_iff_not, Int.not_lt] at few
  rw [memory, one, lt_value, decide_eq_false_iff_not, Int.not_lt] at little
  refine ⟨few, little, entries, memory, nodup_nil, rfl, ?_, ?_⟩
  · show (0 : Int) ≤ m
    omega
  · show (0 : Int) ≤ n
    omega

theorem exists_sound_of_make (hn : 1 ≤ n) (hm : 1 ≤ m) (name : Value) (ttl : Option Magnitude) :
    ∃ c : Cache κ α, make name maxEntries maxMemory ttl = .ok c ∧ Sound n m c := by
  have one : ((1 : Nat) : Magnitude) = .value (1 : Int) := rfl
  have made : make name maxEntries maxMemory ttl = .ok ({ name, maxEntries, maxMemory, ttl } : Cache κ α) := by
    rw [make_eq_ok_iff, entries, memory, one, lt_value, lt_value]
    exact ⟨by simpa using hn, by simpa using hm, rfl⟩
  exact ⟨_, made, (sound_of_make entries memory made).2.2⟩

end Made

/-- After any calls of a cache made with whole limits of one or more, its keys are distinct, its memory is
that of its items, neither limit is exceeded, and it was never found corrupt. -/
theorem accounts_in_order {maxEntries maxMemory : Quantity} (hn : 1 ≤ n) (hm : 1 ≤ m)
    (entries : maxEntries.magnitude = .value n) (memory : maxMemory.magnitude = .value m)
    (name : Value) (ttl : Option Magnitude) :
    ∃ c : Cache String α, make name maxEntries maxMemory ttl = .ok c ∧ ∀ requests,
      (c.run requests).2.keys.Nodup ∧ (c.run requests).2.memory = total (c.run requests).2.items ∧
      (c.run requests).2.memory ≤ m ∧ ((c.run requests).2.items.length : Int) ≤ n ∧
      ∀ found ∈ (c.run requests).1, found = none := by
  obtain ⟨c, made, start⟩ := exists_sound_of_make (κ := String) (α := α) entries memory hn hm name ttl
  refine ⟨c, made, fun requests => ?_⟩
  obtain ⟨clean, sound⟩ := start.run hn hm requests
  exact ⟨sound.nodup, sound.memory, sound.room, sound.count, clean⟩

/-- Two items fit; the third makes the one go that was used the longest time ago. -/
theorem accounts_in_order_pair : ∃ c : Cache String Nat, make (.text "cache") (.whole 2) (.whole 10) none = .ok c ∧
      (c.run [.use (.set (.zero false) "a" 1 4), .use (.set (.zero false) "b" 2 4), .use (.get (.zero false) "a"),
        .use (.set (.zero false) "c" 3 4)]).2.keys = ["a", "c"] ∧
      (c.run [.use (.set (.zero false) "a" 1 4), .use (.set (.zero false) "b" 2 4), .use (.get (.zero false) "a"),
        .use (.set (.zero false) "c" 3 4)]).2.memory ≤ 10 := by
  obtain ⟨c, made, kept⟩ := accounts_in_order (α := Nat) (n := 2) (m := 10) (by decide) (by decide)
    (show (Quantity.whole 2).magnitude = .value 2 from rfl)
    (show (Quantity.whole 10).magnitude = .value 10 from rfl) (.text "cache") none
  refine ⟨c, made, ?_, (kept _).2.2.1⟩
  obtain rfl := Except.ok.inj made
  decide

end Cache

end TriStore
