import Mathlib.Data.Fintype.EquivFin
import Mathlib.Data.Rat.Floor
import TriStore.Proofs.CacheAccounts
import TriStore.Proofs.SettingsCheck

/-!
Settings that can be worked with. A document is accepted when its limits are positive numbers of
whatever kind.
-/
namespace TriStore
open List

def Settings.IsLimit (q : Quantity) : Prop := (Magnitude.value 0).lt q.magnitude = true

theorem Settings.isLimit_of_positive? {v : Value} {q : Quantity} (h : positive? v = some q) : IsLimit q := by
  unfold positive? at h
  split at h
  · simp at h
  · obtain ⟨q', -, kept⟩ := Option.bind_eq_some_iff.1 h
    split at kept
    · next positive =>
      obtain rfl := Option.some.inj kept
      exact positive
    · simp at kept

theorem Settings.limits_of_ofValue {doc : Value} {s : Settings} (accepted : ofValue doc = .ok s) :
    IsLimit s.cache.maxEntries ∧ IsLimit s.cache.maxMemoryMb := by
  cases doc with
  | map kvs =>
    obtain ⟨dir, t, timeout, -, rfl⟩ := exists_of_ofValue accepted
    have sound := isSound_settingsOf timeout dir
    exact ⟨isLimit_of_positive? sound.entries, isLimit_of_positive? sound.memory⟩
  | _ => cases accepted

namespace Cache

variable {α : Type} {c : Cache String α} {q : ℚ} {k : Nat}

theorem drop_eq_self {p : CacheItem String α → Bool} (h : ∀ i ∈ c.items, p i = false) : c.drop p = c := by
  have stays : c.items.filter (!p ·) = c.items := filter_eq_self.2 fun i hi => by simp [h i hi]
  have none : c.items.filter p = [] := filter_eq_nil_iff.2 fun i hi => by simp [h i hi]
  simp [drop, stays, none]

theorem makeRoom_of_free {size : Nat} {items : List (CacheItem String α)} {memory : Int}
    (free : c.isFull size items.length memory = false) :
    c.makeRoom size items memory = (items, memory, 0) := by
  cases items with
  | nil => rfl
  | cons i items =>
    rw [makeRoom, if_neg]
    simpa using free

/-- Items without a size, put in at the start of time, beside which others have room. -/
structure Stocked (q : ℚ) (k : Nat) (c : Cache String α) : Prop where
  limit : c.maxEntries.magnitude = .value q
  room : c.maxMemory.magnitude.lt (.value 0) = false
  life : ∀ t, c.ttl = some t → (Magnitude.value 0).lt t = true
  count : c.items.length = k
  memory : c.memory = 0
  fresh : ∀ i ∈ c.items, i.inserted = .zero false

theorem Stocked.isExpired (h : Stocked q k c) {i : CacheItem String α} (hi : i ∈ c.items) :
    c.isExpired (.zero false) i = false := by
  have age : Magnitude.ofBinary64 ((Binary64.zero false).sub (Binary64.zero false)) = .value 0 := by
    decide +kernel
  unfold Cache.isExpired
  split
  · rfl
  · next t ttl =>
    have life := h.life t ttl
    rw [h.fresh i hi, age]
    cases t with
    | value t =>
      have positive : 0 < t := by simpa [Magnitude.lt] using life
      simp [Magnitude.le, Magnitude.lt, Magnitude.same, positive.le, positive.ne']
    | undefined | below => simp [Magnitude.lt] at life
    | above => rfl

theorem Stocked.isFull (h : Stocked q k c) (below : (k : ℚ) < q) : c.isFull 0 c.items.length c.memory = false := by
  have free : c.maxEntries.magnitude.le c.items.length = false := by
    rw [h.limit, h.count, Magnitude.le, Magnitude.lt, Magnitude.same]
    simp [below.le, below.ne']
  rw [Cache.isFull, free, h.memory]
  simpa using h.room

def withItem (c : Cache String α) (key : String) (value : α) : Cache String α :=
  { c with items := c.items ++ [⟨key, value, .zero false, 0⟩] }

theorem Stocked.withItem (h : Stocked q k c) (key : String) (value : α) :
    Stocked q (k + 1) (c.withItem key value) := by
  refine ⟨h.limit, h.room, h.life, by simp [Cache.withItem, h.count], h.memory, fun i hi => ?_⟩
  rcases mem_append.1 hi with old | new
  · exact h.fresh i old
  · rw [mem_singleton.1 new]

theorem Stocked.exists_set (h : Stocked q k c) (below : (k : ℚ) < q) (value : α) :
    ∃ (u : Use α) (c' : Cache String α), Stocked q (k + 1) c' ∧ c.perform (.use u) =
        match c'.corruption? with
        | none => (none, c')
        | some e => (some e, c'.clear) := by
  obtain ⟨key, absent⟩ := Infinite.exists_notMem_finset c.keys.toFinset
  have other : c.drop (·.key == key) = c := by
    refine drop_eq_self fun i hi => ?_
    have ne : i.key ≠ key := fun same => absent (mem_toFinset.2 (same ▸ mem_map_of_mem hi))
    simpa using ne
  have fresh : c.drop (c.isExpired (.zero false)) = c := drop_eq_self fun i hi => h.isExpired hi
  have filled : { c with
      items := c.items ++ [⟨key, value, .zero false, 0⟩]
      memory := c.memory + (0 : Nat)
      evictions := c.evictions + 0 } = c.withItem key value := by simp [Cache.withItem]
  refine ⟨.set (.zero false) key value 0, c.withItem key value, h.withItem key value, ?_⟩
  rw [perform, set, if_neg (by simpa using h.room)]
  simp only [other, fresh, makeRoom_of_free (h.isFull below), filled]
  cases (c.withItem key value).corruption? <;> rfl

theorem Stocked.corruption_eq_none_iff (h : Stocked q k c) : c.corruption? = none ↔ (k : ℚ) ≤ q := by
  rw [corruption?, h.memory, h.limit, h.count]
  simp [Magnitude.lt]

theorem Stocked.exists_found (h : Stocked q k c) (broken : ∀ n : Int, q ≠ n) (value : α) {d : Nat}
    (left : ⌊q⌋ = k + d) : ∃ uses : List (Use α), ∃ found ∈ (c.run (uses.map .use)).1, found ≠ none := by
  have below (j : Nat) (reached : (j : Int) ≤ ⌊q⌋) : (j : ℚ) < q :=
    lt_of_le_of_ne (by exact_mod_cast Int.le_floor.1 reached) (by simpa using (broken j).symm)
  induction d generalizing k c with
  | zero =>
    obtain ⟨u, c', next, put⟩ := h.exists_set (below k (by omega)) value
    -- There is room for one more, as `q` is above `k`, but `k + 1` is above `q`.
    have beyond : ¬((k + 1 : Nat) : ℚ) ≤ q := by
      have above := Int.lt_floor_add_one q
      rw [left] at above
      simpa using above
    obtain ⟨e, found⟩ := Option.ne_none_iff_exists'.1 (mt next.corruption_eq_none_iff.1 beyond)
    rw [found] at put
    exact ⟨[u], some e, by simp [run, put], by simp⟩
  | succ d ih =>
    obtain ⟨u, c', next, put⟩ := h.exists_set (below k (by omega)) value
    rw [next.corruption_eq_none_iff.2 (below (k + 1) (by omega)).le] at put
    obtain ⟨uses, found, mem, bad⟩ := ih next (by omega)
    refine ⟨u :: uses, found, ?_, bad⟩
    rw [map_cons, run, put]
    exact mem_cons_of_mem _ mem

end Cache

namespace Portfolio

variable {s : Settings}

/-- A cache can be made from the settings, and no looks and sets ever find it corrupt, whatever the keys, the
values, their sizes and the clock are. -/
def Workable (s : Settings) : Prop :=
  ∃ c, resultsCache s = .ok c ∧ ∀ uses : List (Cache.Use (List Hit)),
    ∀ found ∈ (c.run (uses.map .use)).1, found = none

theorem bytesOf_eq_ok {q bytes : Quantity} (h : bytesOf q = .ok bytes) : ∃ m : Int, bytes = .whole m := by
  cases q with
  | whole | truth => exact ⟨_, (Except.ok.inj h).symm⟩
  | real x =>
    simp only [bytesOf] at h
    split at h
    · exact ⟨_, (Except.ok.inj h).symm⟩
    · cases h

theorem exists_ttlOf (q : Quantity) : ∃ ttl, Cache.ttlOf q.toValue = .ok ttl ∧
    ∀ t, ttl = some t → (Magnitude.value 0).lt t = true := by
  have number : q.toValue.magnitude? = some q.magnitude := by cases q <;> rfl
  unfold Cache.ttlOf
  split
  · exact ⟨none, rfl, by simp⟩
  · rw [number]
    refine ⟨_, rfl, fun t ht => ?_⟩
    split at ht
    · next positive => rwa [← Option.some.inj ht]
    · simp at ht

theorem resultsCache_eq_ok {c : Cache String (List Hit)} (made : resultsCache s = .ok c) :
    ∃ m : Int, bytesOf s.cache.maxMemoryMb = .ok (.whole m) ∧ 1 ≤ m ∧
      ∀ q, s.cache.maxEntries.magnitude = .value q → Cache.Stocked q 0 c := by
  obtain ⟨bytes, counted, rest⟩ := bind_eq_ok.1 made
  obtain ⟨m, rfl⟩ := bytesOf_eq_ok counted
  obtain ⟨ttl, lives, life⟩ := exists_ttlOf s.cache.ttlSeconds
  rw [lives, ok_bind, Cache.make_eq_ok_iff] at rest
  obtain ⟨-, memory, rfl⟩ := rest
  have least : (1 : ℚ) ≤ m := by simpa [Quantity.magnitude, Magnitude.lt] using memory
  refine ⟨m, counted, by exact_mod_cast least, fun q limit => ⟨limit, ?_, life, rfl, rfl, by simp⟩⟩
  have room : (0 : ℚ) ≤ m := zero_le_one.trans least
  simpa [Quantity.magnitude, Magnitude.lt] using room

theorem workable_of_whole {n m : Int} (first : 1 ≤ n) (least : 1 ≤ m)
    (whole : s.cache.maxEntries.magnitude = .value n)
    (counted : bytesOf s.cache.maxMemoryMb = .ok (.whole m)) : Workable s := by
  obtain ⟨ttl, lives, -⟩ := exists_ttlOf s.cache.ttlSeconds
  obtain ⟨c, made, sound⟩ := Cache.exists_sound_of_make (κ := String) (α := List Hit) whole
    (show (Quantity.whole m).magnitude = .value m from rfl) first least (.text Cache.Preset.search.name) ttl
  refine ⟨c, ?_, fun uses => (sound.run first least (uses.map .use)).1⟩
  rw [resultsCache, counted, ok_bind, lives, ok_bind, made]

theorem exists_value_of_isLimit {q : Quantity} (h : Settings.IsLimit q) (finite : q.magnitude ≠ .above) :
    ∃ r : ℚ, q.magnitude = .value r ∧ 0 < r := by
  unfold Settings.IsLimit at h
  cases found : q.magnitude with
  | value r => exact ⟨r, rfl, by simpa [found, Magnitude.lt] using h⟩
  | above => exact absurd found finite
  | undefined | below => simp [found, Magnitude.lt] at h

/-- Accepted settings can be worked with exactly when the number of items is limited by a whole number and the
memory comes to a byte or more. So they can whenever both limits are whole numbers. -/
theorem workable_iff {doc : Value} (accepted : Settings.ofValue doc = .ok s)
    (finite : s.cache.maxEntries.magnitude ≠ .above) :
    (Workable s ↔ (∃ n : Int, s.cache.maxEntries.magnitude = .value n) ∧
      ∃ m : Int, bytesOf s.cache.maxMemoryMb = .ok (.whole m) ∧ 1 ≤ m) ∧
    ∀ n m, s.cache.maxEntries = .whole n → s.cache.maxMemoryMb = .whole m → Workable s := by
  obtain ⟨entries, memory⟩ := Settings.limits_of_ofValue accepted
  obtain ⟨q, limit, positive⟩ := exists_value_of_isLimit entries finite
  have first {n : Int} (whole : s.cache.maxEntries.magnitude = .value n) : 1 ≤ n := by
    obtain rfl : q = n := Magnitude.value.inj (limit.symm.trans whole)
    exact Int.cast_pos.1 positive
  refine ⟨⟨fun ⟨c, made, clean⟩ => ?_, fun ⟨⟨n, whole⟩, m, counted, least⟩ => ?_⟩, fun n m whole counted => ?_⟩
  · obtain ⟨m, counted, least, stocked⟩ := resultsCache_eq_ok made
    refine ⟨?_, m, counted, least⟩
    by_contra broken
    have floor : 0 ≤ ⌊q⌋ := Int.floor_nonneg.2 positive.le
    obtain ⟨uses, found, mem, bad⟩ := (stocked q limit).exists_found
      (fun n whole => broken ⟨n, whole ▸ limit⟩) [] (d := ⌊q⌋.toNat) (by omega)
    exact bad (clean uses found mem)
  · exact workable_of_whole (first whole) least whole counted
  · have limit' : s.cache.maxEntries.magnitude = .value n := by rw [whole]; rfl
    have more : 0 < m := by simpa [Settings.IsLimit, counted, Quantity.magnitude, Magnitude.lt] using memory
    refine workable_of_whole (m := m * Cache.megabyte) (first limit') ?_ limit' (by rw [counted]; rfl)
    unfold Cache.megabyte
    omega

def limited (entries : Value) : Value := .record [("cache", .record [("max_entries", entries)])]

/-- A limit of two items does, written with a fraction or without. -/
theorem workable_iff_two : ∃ s, Settings.ofValue (limited (.float (Binary64.ofInt 2))) = .ok s ∧
    s.cache.maxEntries.magnitude ≠ .above ∧ Workable s := by
  have accepted : Settings.ofValue (limited (.float (Binary64.ofInt 2))) =
      .ok { cache.maxEntries := .real (Binary64.ofInt 2) } := eq_ok_of_toOption (by decide +kernel)
  have two : (Quantity.real (Binary64.ofInt 2)).magnitude = .value (2 : Int) := by decide +kernel
  have finite : (Quantity.real (Binary64.ofInt 2)).magnitude ≠ .above := by simp [two]
  exact ⟨_, accepted, finite, (workable_iff accepted finite).1.2 ⟨⟨2, two⟩, _, rfl, by decide⟩⟩

/-- One and a half is accepted as a limit too: a second item is let in, and then found to be too many. -/
theorem fractional_limit_passed : ∃ s c,
    Settings.ofValue (limited (.float (Binary64.ofRat (3 / 2)))) = .ok s ∧ resultsCache s = .ok c ∧
      (c.run [.use (.set (.zero false) "a" [] 0), .use (.set (.zero false) "b" [] 0)]).1 =
        [none, some (.overfull 2 (.real (Binary64.ofRat (3 / 2))))] := by
  have accepted : Settings.ofValue (limited (.float (Binary64.ofRat (3 / 2)))) =
      .ok { cache.maxEntries := .real (Binary64.ofRat (3 / 2)) } := eq_ok_of_toOption (by decide +kernel)
  have ran : (resultsCache { cache.maxEntries := .real (Binary64.ofRat (3 / 2)) }).toOption.map
      (fun c => (c.run [.use (.set (.zero false) "a" [] 0), .use (.set (.zero false) "b" [] 0)]).1) =
        some [none, some (.overfull 2 (.real (Binary64.ofRat (3 / 2))))] := by decide +kernel
  obtain ⟨c, made, found⟩ := Option.map_eq_some_iff.1 ran
  exact ⟨_, c, accepted, eq_ok_of_toOption made, found⟩

end Portfolio

end TriStore
