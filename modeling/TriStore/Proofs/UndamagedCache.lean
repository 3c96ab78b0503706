import Mathlib.Data.List.Nodup
import TriStore.Proofs.CacheHistory

/-!
While nothing is written over its counter and its limit, a cache answers as one that nobody could write over.
-/
namespace TriStore
open List

namespace Cache

variable {c : Cache Value Value} {i : CacheItem Value Value} {k : String} {p q : CacheItem Value Value → Bool}

/-- The keys are texts, and no two are the same. -/
structure Distinct (c : Cache Value Value) : Prop where
  texts : ∀ i ∈ c.items, i.key.isText = true
  nodup : c.keys.Nodup

theorem drop_drop (c : Cache Value Value) (p q : CacheItem Value Value → Bool) :
    (c.drop p).drop q = c.drop fun i => p i || q i := by
  have first : (c.items.filter fun i => p i || q i).filter p = c.items.filter p := by
    rw [filter_filter]
    exact filter_congr fun i _ => by cases p i <;> rfl
  have second : (c.items.filter fun i => p i || q i).filter (!p ·) = (c.items.filter (!p ·)).filter q := by
    rw [filter_filter, filter_filter]
    exact filter_congr fun i _ => by cases p i <;> cases q i <;> rfl
  have third : (c.items.filter (!p ·)).filter (!q ·) = c.items.filter fun i => !(p i || q i) := by
    rw [filter_filter]
    exact filter_congr fun i _ => by cases p i <;> cases q i <;> rfl
  have sizes := total_filter p (c.items.filter fun i => p i || q i)
  rw [first, second] at sizes
  have memory : c.memory - (total (c.items.filter p) : Int) - total ((c.items.filter (!p ·)).filter q) =
      c.memory - total (c.items.filter fun i => p i || q i) := by omega
  unfold drop
  rw [third]
  exact congrArg (fun memory => { c with items := c.items.filter fun i => !(p i || q i), memory }) memory

theorem drop_congr (h : ∀ i ∈ c.items, p i = q i) : c.drop p = c.drop q := by
  have kept : c.items.filter (!p ·) = c.items.filter (!q ·) := filter_congr fun i hi => by rw [h i hi]
  rw [drop, drop, kept, filter_congr h]

theorem Distinct.drop (h : c.Distinct) (p : CacheItem Value Value → Bool) : (c.drop p).Distinct :=
  ⟨fun i hi => h.texts i (mem_drop.1 hi).1, h.nodup.sublist (filter_sublist.map _)⟩

theorem eq_of_beq_isText {a b : Value} (ha : a.isText = true) (hb : b.isText = true) (same : (a == b) = true) :
    a = b := by
  cases a with
  | text s =>
    cases b with
    | text t => rw [Value.text_beq, beq_iff_eq] at same; rw [same]
    | _ => cases hb
  | _ => cases ha

theorem Distinct.eq (h : c.Distinct) {j : CacheItem Value Value} (hi : i ∈ c.items) (hj : j ∈ c.items)
    (same : (i.key == j.key) = true) : i = j :=
  inj_on_of_nodup_map h.nodup hi hj (eq_of_beq_isText (h.texts i hi) (h.texts j hj) same)

theorem Distinct.filter_eq (h : c.Distinct) (found : c.find? (.text k) = some i) :
    c.items.filter (·.key == .text k) = [i] := by
  obtain ⟨mem, same⟩ := mem_of_find?_eq_some found
  have named : i.key = .text k := eq_of_beq_isText (h.texts i mem) rfl same
  have once : (c.items.filter (·.key == .text k)).Nodup := (Nodup.of_map _ h.nodup).sublist filter_sublist
  refine (perm_singleton.1 ((perm_ext_iff_of_nodup once (nodup_singleton i)).2 fun j => ?_))
  rw [mem_filter, mem_singleton]
  refine ⟨fun ⟨hj, same'⟩ => h.eq hj mem (named ▸ same'), ?_⟩
  rintro rfl
  exact ⟨mem, same⟩

theorem makeRoom_congr {c c' : Cache Value Value} (entries : c'.maxEntries = c.maxEntries)
    (room : c'.maxMemory = c.maxMemory) (size : Nat) (items : List (CacheItem Value Value)) (memory : Int) :
    c'.makeRoom size items memory = c.makeRoom size items memory := by
  induction items generalizing memory with
  | nil => rfl
  | cons i items ih =>
    simp only [makeRoom, isFull, entries, room, ih]
    rfl

end Cache

namespace Overwritten

variable {c : Cache Value Value} {now : Binary64} {k : String} {v : Value} {size : Nat}

theorem ends_countBy (c : Cache Value Value) (n : Int) :
    ends (countBy n) { cache := c } = (.ok ⟨⟩, { cache := { c with memory := c.memory + n } }) := rfl

theorem ends_takeOut (h : c.Distinct) (k : String) :
    ends (takeOut (.text k)) { cache := c } = (.ok ⟨⟩, { cache := c.drop (·.key == .text k) }) := by
  rw [takeOut, ends_bind_of_ok (ends_get _)]
  dsimp only
  cases found : c.find? (.text k) with
  | none =>
    have absent : ∀ i ∈ c.items, (i.key == .text k) = false := by
      simpa using find?_eq_none.1 found
    have all : c.items.filter (fun i => !(i.key == .text k)) = c.items :=
      filter_eq_self.2 fun i hi => by simp [absent i hi]
    have none : c.items.filter (·.key == .text k) = [] := filter_eq_nil_iff.2 fun i hi => by simp [absent i hi]
    rw [Cache.drop, all, none]
    simp only [map_nil, foldr_nil, Int.natCast_zero, Int.sub_zero]
    rfl
  | some i =>
    rw [ends_bind_of_ok (ends_modify _ _), ends_countBy, Cache.drop, h.filter_eq found]
    rfl

theorem ends_forM_takeOut (h : c.Distinct) {doomed : List Item} (texts : ∀ i ∈ doomed, i.key.isText = true) :
    ends (doomed.forM fun i => takeOut i.key) { cache := c } =
      (.ok ⟨⟩, { cache := c.drop fun i => doomed.any (i.key == ·.key) }) := by
  induction doomed generalizing c with
  | nil =>
    have all : c.items.filter (fun _ => true) = c.items := filter_eq_self.2 fun _ _ => rfl
    have none : c.items.filter (fun _ => false) = [] := filter_eq_nil_iff.2 fun _ _ => nofun
    simp only [any_nil, Cache.drop, Bool.not_false, all, none, map_nil, foldr_nil, Int.natCast_zero, Int.sub_zero]
    rfl
  | cons d doomed ih =>
    obtain ⟨key, is⟩ : ∃ key, d.key = .text key := by
      have text := texts d (.head _)
      cases named : d.key with
      | text key => exact ⟨key, rfl⟩
      | _ => simp [named, Value.isText] at text
    show ends (takeOut d.key >>= fun _ => doomed.forM fun i => takeOut i.key) _ = _
    rw [is, ends_bind_of_ok (ends_takeOut h key),
      ih (h.drop _) fun i hi => texts i (mem_cons_of_mem d hi), Cache.drop_drop]
    simp only [any_cons, is]

theorem drop_expired (h : c.Distinct) (now : Binary64) :
    (c.drop fun i => (c.items.filter (c.isExpired now)).any (i.key == ·.key)) = c.drop (c.isExpired now) := by
  refine Cache.drop_congr fun i hi => ?_
  rw [Bool.eq_iff_iff, any_eq_true]
  refine ⟨fun ⟨j, hj, same⟩ => ?_, fun past => ⟨i, mem_filter.2 ⟨hi, past⟩, beq_self_of_isText (h.texts i hi)⟩⟩
  obtain ⟨there, past⟩ := mem_filter.1 hj
  rw [h.eq hi there same]
  exact past

theorem ends_limit (c : Cache Value Value) :
    ends (number (maxEntries { cache := c })) { cache := c } = (.ok c.maxEntries, { cache := c }) := by
  have read : Quantity.ofValue? (maxEntries { cache := c }) = some c.maxEntries := Quantity.ofValue?_toValue _
  rw [number, read]
  rfl

theorem ends_counter (c : Cache Value Value) : ends (number (Overwritten.memory { cache := c })) { cache := c } =
    (.ok (.whole c.memory), { cache := c }) := rfl

theorem ends_makeRoom {left : List Item} {memory : Int} {gone : Nat}
    (made : c.makeRoom size c.items c.memory = (left, memory, gone)) :
    ends (makeRoom size c.items.length) { cache := c } = (.ok (c.keys.take gone),
      { cache := { c with items := left, memory, evictions := c.evictions + gone } }) := by
  generalize listed : c.items = items at made
  induction items generalizing c gone with
  | nil =>
    cases made
    obtain ⟨name, entries, room, ttl, held, memory, hits, misses, evictions⟩ := c
    cases listed
    rfl
  | cons i rest ih =>
    rw [length_cons, makeRoom, ends_bind_of_ok (ends_get _)]
    simp only [listed]
    rw [ends_bind_of_ok (ends_limit c), length_cons]
    rw [Cache.makeRoom, Cache.isFull] at made
    have reading : ((Quantity.whole c.memory).plus size).magnitude = ((c.memory + (size : Int) : Int) : Magnitude) :=
      rfl
    have onwards (full : (c.maxEntries.magnitude.le ((rest.length + 1 : Nat) : Magnitude) ||
          c.maxMemory.magnitude.lt (c.memory + (size : Int) : Int)) = true) : ends (do
        modify fun o => { o with cache.items := rest }
        countBy (-(i.size : Int))
        modify fun o => { o with cache.evictions := o.cache.evictions + 1 }
        return i.key :: (← makeRoom size rest.length)) { cache := c } = (.ok (c.keys.take gone),
          { cache := { c with items := left, memory, evictions := c.evictions + gone } }) := by
      rw [if_pos full] at made
      rcases later : c.makeRoom size rest (c.memory - i.size) with ⟨left', memory', gone'⟩
      rw [later] at made
      cases made
      let c₁ := { c with items := rest, memory := c.memory - i.size, evictions := c.evictions + 1 }
      have limits : c₁.maxEntries = c.maxEntries ∧ c₁.maxMemory = c.maxMemory := ⟨rfl, rfl⟩
      have ended := ih (c := c₁) rfl ((Cache.makeRoom_congr limits.1 limits.2 ..).trans later)
      have keys : c.keys.take (gone' + 1) = i.key :: c₁.keys.take gone' := by
        rw [Cache.keys, listed]
        rfl
      have counted : c.evictions + (gone' + 1) = c₁.evictions + gone' := by
        show _ = c.evictions + 1 + gone'
        omega
      rw [keys, counted]
      exact ends_bind_of_ok ended _
    cases few : c.maxEntries.magnitude.le ((rest.length + 1 : Nat) : Magnitude) with
    | true => exact onwards (by rw [few]; rfl)
    | false =>
      cases tight : c.maxMemory.magnitude.lt ((c.memory + (size : Int) : Int) : Magnitude) with
      | true =>
        refine Eq.trans ?_ (onwards (by rw [tight, Bool.or_true]))
        rw [if_pos Bool.not_false, ends_bind_of_ok (ends_counter c), if_neg (by rw [reading, tight]; decide)]
      | false =>
        rw [few, tight, if_neg (by decide)] at made
        cases made
        rw [if_pos Bool.not_false, ends_bind_of_ok (ends_counter c), if_pos (by rw [reading, tight]; rfl)]
        obtain ⟨name, entries, room, ttl, held, memory, hits, misses, evictions⟩ := c
        cases listed
        rfl

theorem ends_check (sound : c.corruption? = none) : ends check { cache := c } = (.ok ⟨⟩, { cache := c }) := by
  have below : (Quantity.whole c.memory).magnitude.lt (0 : Nat) = decide (c.memory < 0) := Magnitude.lt_value
  have zero : (Quantity.whole c.memory).magnitude.same (0 : Nat) = (c.memory == 0) := by
    rw [Bool.eq_iff_iff, beq_iff_eq]
    exact beq_iff_eq.trans Rat.intCast_inj
  unfold Cache.corruption? at sound
  split at sound
  · cases sound
  next positive =>
  split at sound
  · cases sound
  next real =>
  replace real : ¬(c.items.isEmpty && !c.memory == 0) = true := real
  split at sound
  · cases sound
  next few =>
  rw [check, ends_bind_of_ok (ends_get _), ends_bind_of_ok (ends_counter c), below, zero, if_neg (mt of_decide_eq_true positive)]
  dsimp only
  rw [if_neg real, ends_bind_of_ok (ends_limit c), if_neg few]
  rfl

theorem ends_checkKey (k : String) (o : Overwritten) : ends (checkKey (.text k)) o = (.ok ⟨⟩, o) := rfl

/-- A look at a cache that nothing was written over gives what the cache has, unless it is found corrupt. -/
theorem get_undamaged (h : c.Distinct) (sound : (c.get now (.text k)).2.1 = none) :
    get { cache := c } now (.text k) = (.ok (c.get now (.text k)).1, none, { cache := (c.get now (.text k)).2.2 }) := by
  refine run_of_ok ?_ none
  rw [getPart, ends_bind_of_ok (ends_checkKey ..), ends_bind_of_ok (ends_get _)]
  unfold Cache.get at sound ⊢
  cases found : c.find? (.text k) with
  | none => rfl
  | some i =>
    rw [found] at sound
    dsimp only at sound ⊢
    rw [ends_bind_of_ok (ends_get _)]
    split
    · next past => rw [ends_bind_of_ok (ends_takeOut h k)]; rfl
    · next fresh =>
      rw [if_neg fresh] at sound
      rw [ends_bind_of_ok (ends_modify ..)]
      dsimp only at sound ⊢
      split at sound
      · next cause => rw [ends_bind_of_ok (ends_check cause)]; rfl
      · cases sound

/-- A set in such a cache does what it does in the cache. -/
theorem set_undamaged (h : c.Distinct) (sound : (c.set now (.text k) v size).2.1 = none) :
    set { cache := c } now (.text k) v size =
      (.ok (c.set now (.text k) v size).1, none, { cache := (c.set now (.text k) v size).2.2 }) := by
  by_cases large : c.maxMemory.magnitude.lt size = true
  · have answer : c.set now (.text k) v size = (false, none, c) := if_pos large
    rw [set, if_pos large, answer]
  obtain ⟨kept, isKept⟩ : ∃ kept, (c.drop (·.key == .text k)).drop (c.isExpired now) = kept := ⟨_, rfl⟩
  rcases made : kept.makeRoom size kept.items kept.memory with ⟨left, memory, gone⟩
  let filled : Cache Value Value := { kept with
    items := left ++ [⟨.text k, v, now, size⟩], memory := memory + size, evictions := kept.evictions + gone }
  have counted : kept.evictions = c.evictions := isKept ▸ rfl
  have distinct : kept.Distinct := isKept ▸ (h.drop _).drop _
  have texts : (kept.keys.take gone).all Value.isText = true := by
    refine all_eq_true.2 fun key hk => ?_
    obtain ⟨i, hi, rfl⟩ := mem_map.1 (mem_of_mem_take hk)
    exact distinct.texts i hi
  unfold Cache.set at sound ⊢
  rw [if_neg large, isKept] at sound ⊢
  dsimp only at sound ⊢
  rw [made, ← counted] at sound ⊢
  dsimp only at sound ⊢
  split at sound
  · next whole =>
    have ended : ends (some <$> setPart now (.text k) v size) { cache := c } =
        (.ok (some (kept.keys.take gone)), { cache := filled }) := by
      have freed := h.drop (·.key == .text k)
      have alive : (c.drop (·.key == .text k)).isExpired now = c.isExpired now := rfl
      rw [ends_map, setPart, ends_bind_of_ok (ends_checkKey ..), ends_bind_of_ok (ends_takeOut h k),
        ends_bind_of_ok (ends_get _), ends_bind_of_ok (ends_get _),
        ends_bind_of_ok (ends_forM_takeOut freed fun i hi => freed.texts i (mem_filter.1 hi).1),
        ends_bind_of_ok (ends_get _), drop_expired freed, alive, isKept, ends_bind_of_ok (ends_makeRoom made),
        ends_bind_of_ok (ends_modify ..), ends_bind_of_ok (ends_countBy ..), ends_bind_of_ok (ends_check whole)]
      rfl
    rw [set, if_neg large, run_of_ok ended]
    simp only [texts, if_pos]
    rfl
  · cases sound

end Overwritten

end TriStore
