import TriStore.Cache.Basic

/-!
No operation of a cache invents an item, and what a look finds is the value of an item under that key.
-/
namespace TriStore.Cache

variable {κ α : Type}

theorem mem_drop {c : Cache κ α} {p : CacheItem κ α → Bool} {i : CacheItem κ α} :
    i ∈ (c.drop p).items ↔ i ∈ c.items ∧ p i = false := by
  simp [drop]

theorem mem_of_mem_makeRoom (c : Cache κ α) (size : Nat) (items : List (CacheItem κ α)) (memory : Int)
    {i : CacheItem κ α} (h : i ∈ (c.makeRoom size items memory).1) : i ∈ items := by
  induction items generalizing memory with
  | nil => exact h
  | cons j rest ih =>
    unfold makeRoom at h
    split at h
    · exact List.mem_cons_of_mem _ (ih _ h)
    · exact h

section

variable [BEq κ]

theorem mem_of_find?_eq_some {c : Cache κ α} {key : κ} {i : CacheItem κ α} (h : c.find? key = some i) :
    i ∈ c.items ∧ (i.key == key) = true := by
  have same := List.find?_some (p := fun j : CacheItem κ α => j.key == key) h
  exact ⟨List.mem_of_find?_eq_some h, same⟩

theorem exists_mem_of_get {c : Cache κ α} {now : Binary64} {key : κ} {value : α}
    (h : (c.get now key).1 = some value) : ∃ i ∈ c.items, (i.key == key) = true ∧ i.value = value := by
  unfold get at h
  cases found : c.find? key with
  | none => simp [found] at h
  | some i =>
    obtain ⟨mem, same⟩ := mem_of_find?_eq_some found
    simp only [found] at h
    split at h
    · simp at h
    · split at h
      · exact ⟨i, mem, same, by simpa using h⟩
      · simp at h

theorem mem_of_mem_get {c : Cache κ α} {now : Binary64} {key : κ} {i : CacheItem κ α}
    (h : i ∈ (c.get now key).2.2.items) : i ∈ c.items := by
  unfold get at h
  cases found : c.find? key with
  | none => simpa [found] using h
  | some j =>
    have mem := (mem_of_find?_eq_some found).1
    simp only [found] at h
    split at h
    · exact (mem_drop.1 h).1
    · split at h
      · have h' : (i ∈ c.items ∧ (i.key != key) = true) ∨ i = j := by simpa using h
        rcases h' with ⟨hi, _⟩ | rfl
        · exact hi
        · exact mem
      · simp [clear] at h

theorem mem_of_mem_set {c : Cache κ α} {now : Binary64} {key : κ} {value : α} {size : Nat}
    {i : CacheItem κ α} (h : i ∈ (c.set now key value size).2.2.items) :
    i ∈ c.items ∨ i = ⟨key, value, now, size⟩ := by
  unfold set at h
  split at h
  · exact .inl h
  · dsimp only at h
    split at h
    · rcases List.mem_append.1 h with h | h
      · have kept := mem_of_mem_makeRoom _ _ _ _ h
        exact .inl (mem_drop.1 (mem_drop.1 kept).1).1
      · exact .inr (by simpa using h)
    · simp [clear] at h

theorem get_cases (c : Cache κ α) (now : Binary64) (key : κ) :
    ∃ c', c'.ttl = c.ttl ∧ (∀ i ∈ c'.items, i ∈ c.items) ∧ (c.get now key = (none, none, c') ∨
        (∃ i ∈ c.items, (i.key == key) = true ∧ c.isExpired now i = false ∧
          c.get now key = (some i.value, none, c')) ∨
        (∃ e, c.get now key = (none, some e, c') ∧ c'.items = [] ∧ c'.memory = 0)) := by
  refine ⟨(c.get now key).2.2, ?_, fun i => mem_of_mem_get, ?_⟩
  · unfold get
    cases c.find? key with
    | none => rfl
    | some i =>
      dsimp only
      split
      · rfl
      · split <;> rfl
  · unfold get
    cases found : c.find? key with
    | none => exact .inl rfl
    | some i =>
      obtain ⟨there, same⟩ := mem_of_find?_eq_some found
      dsimp only
      split
      · exact .inl rfl
      · next fresh =>
        split
        · exact .inr (.inl ⟨i, there, same, by simpa using fresh, rfl⟩)
        · exact .inr (.inr ⟨_, rfl, rfl, rfl⟩)

theorem set_cases (c : Cache κ α) (now : Binary64) (key : κ) (value : α) (size : Nat) :
    c.set now key value size = (false, none, c) ∨ ∃ c', c'.ttl = c.ttl ∧
        ((∃ e, c.set now key value size = (false, some e, c') ∧ c'.items = [] ∧ c'.memory = 0) ∨
          (c.set now key value size = (true, none, c') ∧
            ∀ i ∈ c'.items, (i ∈ c.items ∧ (i.key == key) = false) ∨ i = ⟨key, value, now, size⟩)) := by
  unfold set
  split
  · exact .inl rfl
  · dsimp only
    split
    · refine .inr ⟨_, ?_, .inr ⟨rfl, fun i hi => ?_⟩⟩
      · rfl
      rcases List.mem_append.1 hi with hi | hi
      · have kept := mem_of_mem_makeRoom _ _ _ _ hi
        exact .inl (mem_drop.1 (mem_drop.1 kept).1)
      · exact .inr (List.mem_singleton.1 hi)
    · refine .inr ⟨_, ?_, .inl ⟨_, rfl, rfl, rfl⟩⟩
      rfl

end

theorem mem_invalidatePrefix {c : Cache String α} {front : String} {i : CacheItem String α} :
    i ∈ (c.invalidatePrefix front).2.items ↔ i ∈ c.items ∧ ¬front.toList <+: i.key.toList := by
  simp only [invalidatePrefix, mem_drop, Bool.eq_false_iff, ne_eq, List.isPrefixOf_iff_prefix]

theorem set_empty {c : Cache String α} (items : c.items = []) (memory : c.memory = 0)
    (entries : c.maxEntries = .whole 1) (size : Nat) (room : c.maxMemory = .whole size)
    (now : Binary64) (key : String) (value : α) : (c.set now key value size).2.1 = none ∧
      (c.set now key value size).2.2.items = [⟨key, value, now, size⟩] ∧
      (c.set now key value size).2.2.memory = size ∧ (c.set now key value size).2.2.maxEntries = .whole 1 ∧
      (c.set now key value size).2.2.ttl = c.ttl := by
  obtain ⟨name, maxEntries, maxMemory, ttl, held, used, hits, misses, evictions⟩ := c
  subst items memory entries room
  have fits : (Quantity.whole size).magnitude.lt (.value size) = false := by
    simp [Quantity.magnitude, Magnitude.lt, Rat.intCast_natCast, Rat.lt_irrefl]
  have few : (Quantity.whole 1).magnitude.lt (.value 1) = false := by decide
  have sound : ¬((size : Int) < 0) := by omega
  simp [set, fits, drop, makeRoom, corruption?, few, sound]

theorem get_only {c : Cache String α} {i : CacheItem String α} (items : c.items = [i])
    (memory : c.memory = i.size) (entries : c.maxEntries = .whole 1) (ttl : c.ttl = none)
    (now : Binary64) : (c.get now i.key).1 = some i.value := by
  have few : (Quantity.whole 1).magnitude.lt (.value 1) = false := by decide
  have sound : ¬((i.size : Int) < 0) := by omega
  simp [get, find?, items, isExpired, ttl, corruption?, memory, entries, few, sound]

end TriStore.Cache
