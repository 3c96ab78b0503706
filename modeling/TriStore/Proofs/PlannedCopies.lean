import TriStore.Proofs.Guarded
import TriStore.Proofs.Listing
import TriStore.Proofs.SyncEffect

/-!
What is planned for an element depends on what the two shelves hold under its key and on nothing else.
-/
namespace TriStore
open TriStore.Shelf

/-- The text is the one that keeps its code points. -/
def Text.IsKept (s : String) : Prop := ofCodes (points s.toList) = s

theorem Text.le_antisymm {s t : String} (hs : IsKept s) (ht : IsKept t) (h : le s t = true)
    (h' : le t s = true) : s = t := by
  rw [le_iff] at h h'
  have same : points s.toList = points t.toList := (not_lt_iff.1 h).resolve_left h'
  rw [← hs, same, ht]

namespace Key

theorem le_iff {a b : Key} :
    le a b = true ↔ a.kind.label < b.kind.label ∨ a.kind = b.kind ∧ Text.le a.name b.name = true := by
  have label : a.kind.label = b.kind.label ↔ a.kind = b.kind := ⟨Kind.label_inj, congrArg Kind.label⟩
  simp [le, label]

theorem le_total (a b : Key) : (le a b || le b a) = true := by
  rw [Bool.or_eq_true, le_iff, le_iff]
  by_cases same : a.kind = b.kind
  · have names := Text.le_total a.name b.name
    rw [Bool.or_eq_true] at names
    exact names.imp (fun h => .inr ⟨same, h⟩) fun h => .inr ⟨same.symm, h⟩
  · by_cases below : a.kind.label < b.kind.label
    · exact .inl (.inl below)
    · refine .inr (.inl (String.not_le.1 fun above => same (Kind.label_inj ?_)))
      exact String.le_antisymm above (String.not_lt.1 below)

theorem le_trans {a b c : Key} (h : le a b = true) (h' : le b c = true) : le a c = true := by
  rw [le_iff] at h h' ⊢
  rcases h with below | ⟨same, names⟩
  · rcases h' with below' | ⟨same', -⟩
    · exact .inl (String.lt_trans below below')
    · exact .inl (same' ▸ below)
  · rcases h' with below' | ⟨same', names'⟩
    · exact .inl (same ▸ below')
    · exact .inr ⟨same.trans same', Text.le_trans names names'⟩

theorem le_antisymm {a b : Key} (ha : Text.IsKept a.name) (hb : Text.IsKept b.name)
    (h : le a b = true) (h' : le b a = true) : a = b := by
  rw [le_iff] at h h'
  rcases h with below | ⟨same, names⟩
  · rcases h' with above | ⟨same', -⟩
    · exact absurd (String.lt_trans below above) (String.lt_irrefl _)
    · exact absurd (same' ▸ below) (String.lt_irrefl _)
  · rcases h' with above | ⟨-, names'⟩
    · exact absurd (same ▸ above) (String.lt_irrefl _)
    · obtain ⟨kind, name⟩ := a
      obtain ⟨kind', name'⟩ := b
      exact congr (congrArg Key.mk same) (Text.le_antisymm ha hb names names')

end Key

theorem Digest.ofContent_ne_empty {content d : String} (h : ofContent content = .ok d) : d ≠ "" := by
  unfold ofContent at h
  cases bytes : bytesOf content with
  | error e => simp [bytes, Except.map] at h
  | ok bs =>
    rw [bytes] at h
    have long : 64 ≤ d.length := by
      rw [← Except.ok.inj h]
      exact Nat.le_trans (by simp) (le_length_hexOf _)
    rintro rfl
    exact absurd long (by decide)

namespace Shelf

variable {x : Shelf} {k : Key} {c c' : String} {e e' : Entry} {es : List Entry}

theorem sameContent_iff (made : entryOf (k, c) = .ok e) (made' : entryOf (k, c') = .ok e') :
    e.sameContent e' = true ↔ Digest.ofContent c = Digest.ofContent c' := by
  obtain ⟨-, -, ⟨d, digest, named⟩, -⟩ := entryOf_eq_ok made
  obtain ⟨-, -, ⟨d', digest', named'⟩, -⟩ := entryOf_eq_ok made'
  have given : ∀ {d : String}, d ≠ "" → (Value.text d).isGiven = true := by
    simp [Value.isGiven]
  rw [Entry.sameContent, named, named', given (Digest.ofContent_ne_empty digest),
    given (Digest.ofContent_ne_empty digest'), Bool.and_self, if_pos rfl, Value.same_text]
  simp [digest, digest']

theorem Tidy.exists_entries (tidy : x.Tidy) (answers : x.check = .ok ())
    (each : ∀ k c, x.get? k = some c → ∃ e, entryOf (k, c) = .ok e) : ∃ es, x.entries none = .ok es := by
  have made : ∀ kc ∈ x.sorted.filter (fun kc => (none : Option Kind).all (· == kc.1.kind)),
      ∃ e, entryOf kc = .ok e := by
    intro kc hkc
    have mem : kc ∈ x.contents := by simpa [sorted] using hkc
    exact each kc.1 kc.2 (tidy.get?_of_mem mem)
  obtain ⟨es, listed⟩ := exists_mapM_eq_ok made
  exact ⟨es, by rw [entries, answers, ok_bind, listed]⟩

end Shelf

namespace Plan

variable {here there : List Entry} {d : Direction} {m : Mode} {p : Pair}

theorem pairwise_keysOf (here there : List Entry) : (keysOf here there).Pairwise fun a b => a.le b = true := by
  have trans : ∀ a b c : Key, a.le b = true → b.le c = true → a.le c = true := fun _ _ _ => Key.le_trans
  exact List.pairwise_mergeSort trans Key.le_total _

/-- What a verdict of no change and one that is not to be carried out rest on. -/
structure Reasons (p : Pair) (v : Verdict) : Prop where
  unchanged : v.step = .unchanged → ∃ a b, p = ⟨some a, some b⟩ ∧ a.sameContent b = true
  noted : v.executable = false → v.step = .conflict ∨ v.step = .delete

theorem twoWay_reasons (p : Pair) : Reasons p (twoWay p) := by
  unfold twoWay
  split
  · exact ⟨nofun, nofun⟩
  · exact ⟨nofun, nofun⟩
  · next here there =>
    split
    · next same => exact ⟨fun _ => ⟨here, there, rfl, same⟩, nofun⟩
    · split
      · exact ⟨nofun, nofun⟩
      · split
        · exact ⟨nofun, nofun⟩
        · exact ⟨nofun, fun _ => .inl rfl⟩

theorem eq_of_sides {flow : Direction} {source target : Entry}
    (both : sides flow p = (some source, some target)) (same : source.sameContent target = true) :
    ∃ a b, p = ⟨some a, some b⟩ ∧ a.sameContent b = true := by
  obtain ⟨here, there⟩ := p
  cases flow with
  | push =>
    obtain ⟨rfl, rfl⟩ := Prod.mk.inj both
    exact ⟨source, target, rfl, same⟩
  | pull | both =>
    obtain ⟨rfl, rfl⟩ := Prod.mk.inj both
    exact ⟨target, source, rfl, Entry.sameContent_comm source target ▸ same⟩

theorem oneWay_reasons (flow : Direction) (m : Mode) (p : Pair) : Reasons p (oneWay flow m p) := by
  unfold oneWay
  dsimp only
  split
  · exact ⟨nofun, nofun⟩
  · split
    · exact ⟨nofun, nofun⟩
    · exact ⟨nofun, fun _ => .inr rfl⟩
  · next both =>
    split
    · next same => exact ⟨fun _ => eq_of_sides both same, nofun⟩
    · split
      · exact ⟨nofun, nofun⟩
      · split
        · exact ⟨nofun, nofun⟩
        · split
          · exact ⟨nofun, fun _ => .inl rfl⟩
          · exact ⟨nofun, fun _ => .inl rfl⟩

theorem verdict_reasons (d : Direction) (m : Mode) (p : Pair) : Reasons p (verdict d m p) := by
  cases d with
  | push | pull => exact oneWay_reasons _ m p
  | both => exact twoWay_reasons p

theorem unchanged_of_same {a b : Entry} (same : a.sameContent b = true) (d : Direction) (m : Mode) :
    (verdict d m ⟨some a, some b⟩).step = .unchanged := by
  have same' := Entry.sameContent_comm b a ▸ same
  cases d with
  | push => simp [verdict, oneWay, sides, same]
  | pull => simp [verdict, oneWay, sides, same']
  | both => simp [verdict, twoWay, same]

theorem checkPair_of_same {a b : Entry} (same : a.sameContent b = true) (d : Direction) (m : Mode) :
    checkPair d m ⟨some a, some b⟩ = .ok () := by
  have same' := Entry.sameContent_comm b a ▸ same
  cases d with
  | push | both => simp [checkPair, sides, same]
  | pull => simp [checkPair, sides, same']

end Plan

namespace Portfolio

variable {x x' : Source → Shelf} {d : Direction} {m : Mode} {plan : Plan} {k : Key}

theorem pairOn_congr (same : ∀ s, (x' s).get? k = (x s).get? k) : pairOn x' k = pairOn x k := by
  rw [pairOn, copy_congr (same .home), copy_congr (same .remote), pairOn]

/-- Some shelf has a copy, and the one here is not private. -/
def Shown (p : Plan.Pair) : Prop :=
  (p.here ≠ none ∨ p.there ≠ none) ∧ (p.here.map (·.localOnly)).getD false = false

def itemOn (x : Source → Shelf) (d : Direction) (m : Mode) (k : Key) : PlanItem :=
  Plan.item (Plan.effective d m) m k (pairOn x k)

/-- The shelves answer, each content has an entry, and the copies planned for can be compared. -/
structure Plannable (x : Source → Shelf) (d : Direction) (m : Mode) : Prop where
  answers : ∀ s, s ≠ .registry → (x s).check = .ok ()
  entry : ∀ s, s ≠ .registry → ∀ k c, (x s).get? k = some c → ∃ e, Shelf.entryOf (k, c) = .ok e
  comparable : ∀ k, Shown (pairOn x k) → Plan.checkPair (Plan.effective d m) m (pairOn x k) = .ok ()

/-- A plan has the items of the elements that are shown, in order. -/
structure Planned (x : Source → Shelf) (d : Direction) (m : Mode) (items : List PlanItem) : Prop where
  mem_iff : ∀ i, i ∈ items ↔ Shown (pairOn x i.key) ∧ i = itemOn x d m i.key
  nodup : (items.map (·.key)).Nodup
  sorted : (items.map (·.key)).Pairwise fun a b => a.le b = true

section Listings

variable {here there : List Entry} (tidy : ∀ s, s ≠ .registry → (x s).Tidy)
  (hhere : (x .home).entries none = .ok here) (hthere : (x .remote).entries none = .ok there)

include tidy hhere hthere

theorem mem_shown_iff {k : Key} :
    k ∈ (Plan.keysOf here there).filter (!Plan.isPrivate here ·) ↔ Shown (pairOn x k) := by
  rw [List.mem_filter, Plan.mem_keysOf_iff, Plan.isPrivate, Bool.not_eq_true', Shown,
    ← pair_of_listings tidy hhere hthere]

end Listings

theorem of_planOn (tidy : ∀ s, s ≠ .registry → (x s).Tidy) (h : planOn x d m = .ok plan) :
    Plannable x d m ∧ Planned x d m plan.items := by
  simp only [planOn, bind_eq_ok] at h
  obtain ⟨here, hhere, there, hthere, made⟩ := h
  obtain ⟨checked, rfl⟩ := Plan.make_eq_ok_iff.1 made
  have pair := pair_of_listings tidy hhere hthere
  have shown {k : Key} := mem_shown_iff (k := k) tidy hhere hthere
  constructor
  · refine ⟨fun s hs => ?_, fun s hs => ?_, fun k hk => ?_⟩
    · cases s with
      | home => exact (entries_eq_ok hhere).1
      | remote => exact (entries_eq_ok hthere).1
      | registry => exact absurd rfl hs
    · cases s with
      | home => exact fun k c => exists_entryOf hhere
      | remote => exact fun k c => exists_entryOf hthere
      | registry => exact absurd rfl hs
    · rw [← pair]
      exact forM_eq_ok_iff.1 checked k (shown.2 hk)
  · refine ⟨fun i => ⟨fun hi => ?_, fun hi => ?_⟩, Plan.nodup_items here there d m, ?_⟩
    · obtain ⟨k, hk, rfl⟩ := List.mem_map.1 hi
      exact ⟨shown.1 hk, by rw [pair]; rfl⟩
    · obtain ⟨hi, made⟩ := hi
      refine List.mem_map.2 ⟨i.key, shown.2 hi, ?_⟩
      rw [pair]
      exact made.symm
    · rw [Plan.key_of_items]
      exact (Plan.pairwise_keysOf here there).sublist List.filter_sublist

theorem Plannable.exists_planOn (h : Plannable x d m) (tidy : ∀ s, s ≠ .registry → (x s).Tidy) :
    ∃ plan, planOn x d m = .ok plan := by
  obtain ⟨here, hhere⟩ := (tidy .home (by decide)).exists_entries (h.answers .home (by decide))
    (h.entry .home (by decide))
  obtain ⟨there, hthere⟩ := (tidy .remote (by decide)).exists_entries (h.answers .remote (by decide))
    (h.entry .remote (by decide))
  have checked : Plan.check here there d m = .ok () := by
    refine forM_eq_ok_iff.2 fun k hk => ?_
    rw [pair_of_listings tidy hhere hthere]
    exact h.comparable k ((mem_shown_iff tidy hhere hthere).1 hk)
  refine ⟨Plan.build here there d m, ?_⟩
  rw [planOn, hhere, ok_bind, hthere, ok_bind, Plan.make_eq_ok_iff.2 ⟨checked, rfl⟩]

end Portfolio

end TriStore
