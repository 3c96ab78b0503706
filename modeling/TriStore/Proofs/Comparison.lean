import TriStore.Proofs.RisingVersions

/-!
A comparison finds the two copies of an element in the listings of one kind, a plan in the whole listings.
-/
namespace TriStore
open TriStore.Shelf

namespace Shelf

variable {y : Shelf} {kind : Option Kind} {es : List Entry} {k : Key} {e : Entry}

theorem kind_of_mem_entries (h : y.entries kind = .ok es) (he : e ∈ es) : kind.all (· == e.key.kind) = true := by
  obtain ⟨-, -, back⟩ := entries_eq_ok h
  obtain ⟨kc, -, hkind, made⟩ := back e he
  rw [(entryOf_eq_ok made).1, Key.kind_of]
  exact hkind

theorem Tidy.find?_entries (tidy : y.Tidy) (h : y.entries kind = .ok es)
    (hkind : kind.all (· == k.kind) = true) : es.find? (·.key == k) = y.copy k := by
  refine tidy.eq_copy h hkind (fun e found => ?_) fun none e he => ?_
  · exact ⟨List.mem_of_find?_eq_some found, by simpa using List.find?_some found⟩
  · simpa using List.find?_eq_none.1 none e he

end Shelf

namespace Portfolio

open TriStore.Action

theorem mem_of_mem_union {here there : List Entry} {e : Entry} (h : e ∈ union here there) :
    e ∈ here ∨ e ∈ there := by
  obtain ⟨k, -, found⟩ := List.mem_filterMap.1 h
  rcases Option.or_eq_some_iff.1 found with found | ⟨-, found⟩
  · exact .inl (Plan.mem_of_lastWith found).1
  · exact .inr (Plan.mem_of_lastWith found).1

def comparisonOf : Plan.Pair → Comparison
  | ⟨none, _⟩ => .remoteOnly
  | ⟨some _, none⟩ => .localOnly
  | ⟨some a, some b⟩ => if a.sameContent b then .identical else .different

/-- A report of a comparison and a planned item say the same of the same element. -/
structure Matches (r : ElementReport) (i : PlanItem) : Prop where
  key : r.key = some i.key
  localOnly : r.comparison = some .localOnly ↔ i.step = .create ∧ i.flow = .push
  remoteOnly : r.comparison = some .remoteOnly ↔ i.step = .create ∧ i.flow = .pull
  identical : r.comparison = some .identical ↔ i.step = .unchanged
  different : r.comparison = some .different ↔ i.step = .update ∨ i.step = .conflict
  localVersion : r.localVersion = i.localVersion
  remoteVersion : r.remoteVersion = i.remoteVersion

structure Reports (k : Key) (p : Plan.Pair) (r : ElementReport) : Prop where
  key : r.key = some k
  comparison : r.comparison = some (comparisonOf p)
  localVersion : r.localVersion = p.here.elim "" (·.version)
  remoteVersion : r.remoteVersion = p.there.elim "" (·.version)

theorem Reports.matches_item {k : Key} {p : Plan.Pair} {r : ElementReport} (h : Reports k p r)
    (some : p.here ≠ none ∨ p.there ≠ none) : Matches r (Plan.item .both .additive k p) := by
  obtain ⟨key, comparison, localVersion, remoteVersion⟩ := h
  obtain ⟨here | a, there | b⟩ := p
  · simp at some
  · constructor <;>
      simp [Plan.item, Plan.verdict, Plan.twoWay, comparisonOf, *]
  · constructor <;>
      simp [Plan.item, Plan.verdict, Plan.twoWay, comparisonOf, *]
  · simp only [comparisonOf] at comparison
    unfold Plan.item Plan.verdict Plan.twoWay
    dsimp only
    split at comparison
    · next same =>
      constructor <;> simp [*]
    · next differ =>
      rw [if_neg differ]
      split
      · constructor <;> simp [*]
      · split
        · constructor <;> simp [*]
        · constructor <;> simp [*]

variable {D : Source → Prop} {K : Source → String → Option Kind → Prop} {x : Source → Shelf}
  {w w' : World} {name : String} {kind : Option Kind} {found : Entry} {here there : List Entry}

theorem exists_difference (hD : ∀ s, s ≠ .registry → D s) (h : Agrees D K x w) {k : Key}
    {here there : String} (hhere : (x .home).content k = .ok here)
    (hthere : (x .remote).content k = .ok there) : ∃ text w', (difference k).ends w = (.ok text, w') := by
  obtain ⟨w₁, fetched, -, h₁⟩ := h.ends_fetch (hD .remote (by decide)) k
  obtain ⟨w₂, fetched', -, -⟩ := h₁.ends_fetch (hD .home (by decide)) k
  rw [hthere] at fetched
  rw [hhere] at fetched'
  rw [difference, ends_bind_of_ok fetched, ends_bind_of_ok fetched']
  exact ⟨_, w₂, rfl⟩

theorem exists_compare (hD : ∀ s, s ≠ .registry → D s) (h : Agrees D K x w) (tidy : ∀ s, s ≠ .registry → (x s).Tidy)
    (resolved : (resolveBoth name kind).ends w = (.ok (found, here, there), w')) (showDiff : Bool) :
    ((pairOn x found.key).here ≠ none ∨ (pairOn x found.key).there ≠ none) ∧
      ∃ r w'', (compare name kind showDiff).ends w = (.ok r, w'') ∧ Reports found.key (pairOn x found.key) r := by
  obtain ⟨w₁, listed, h₁, -⟩ := h.ends_listEntries (hD .home (by decide)) kind
  obtain ⟨w₂, listed', h₂, -⟩ := h₁.ends_listEntries (hD .remote (by decide)) kind
  have whole := resolved
  obtain ⟨_, _, first, resolved⟩ := ends_bind_eq_ok.1 resolved
  obtain ⟨hhere, rfl⟩ := Prod.mk.inj (listed.symm.trans first)
  obtain ⟨_, _, second, resolved⟩ := ends_bind_eq_ok.1 resolved
  obtain ⟨hthere, rfl⟩ := Prod.mk.inj (listed'.symm.trans second)
  obtain ⟨_, _, meant, resolved⟩ := ends_bind_eq_ok.1 resolved
  rw [ends_liftExcept] at meant
  cases resolved
  obtain ⟨named, rfl⟩ := Prod.mk.inj meant
  have mem := mem_of_mem_union (Lookup.mem_of_resolve named)
  have hkind : kind.all (· == found.key.kind) = true :=
    mem.elim (kind_of_mem_entries hhere) (kind_of_mem_entries hthere)
  have copy := (tidy .home (by decide)).find?_entries hhere hkind
  have copy' := (tidy .remote (by decide)).find?_entries hthere hkind
  constructor
  · simp only [pairOn, ← copy, ← copy', Ne, List.find?_eq_none]
    exact mem.imp (fun mem none => absurd (none _ mem) (by simp)) fun mem none =>
      absurd (none _ mem) (by simp)
  · unfold compare
    rw [ends_bind_of_ok whole]
    simp only [copy, copy', pairOn]
    cases here' : (x .home).copy found.key with
    | none => exact ⟨_, _, rfl, rfl, rfl, rfl, rfl⟩
    | some a =>
      cases there' : (x .remote).copy found.key with
      | none => exact ⟨_, _, rfl, rfl, rfl, rfl, rfl⟩
      | some b =>
        dsimp only
        split
        · next same => exact ⟨_, _, rfl, rfl, by rw [comparisonOf, if_pos same], rfl, rfl⟩
        · next differ =>
          obtain ⟨c, got, -⟩ := Shelf.get?_of_copy here'
          obtain ⟨c', got', -⟩ := Shelf.get?_of_copy there'
          obtain ⟨text, w₃, shown⟩ := exists_difference hD h₂
            (content_eq_ok_iff.2 ⟨(entries_eq_ok hhere).1, got⟩)
            (content_eq_ok_iff.2 ⟨(entries_eq_ok hthere).1, got'⟩)
          have said : comparisonOf ⟨some a, some b⟩ = .different := by rw [comparisonOf, if_neg differ]
          cases showDiff with
          | false => exact ⟨_, _, rfl, rfl, by rw [said], rfl, rfl⟩
          | true =>
            rw [if_pos rfl, ends_bind_of_ok shown]
            exact ⟨_, _, rfl, rfl, by rw [said], rfl, rfl⟩

/-- A comparison says of an element that is not private what a plan both ways does: there is one item for it,
and the two match. -/
theorem compare_matches_plan {plan' : Plan} {w₁ w₂ : World} (shelved : w.Shelved (· ≠ .registry))
    (resolved : (resolveBoth name kind).ends w = (.ok (found, here, there), w₁))
    (shared : ∀ c e, w.held .home found.key = some c → Shelf.entryOf (found.key, c) = .ok e →
      e.localOnly = false) (planned : (plan .both .additive).ends w = (.ok plan', w₂)) (showDiff : Bool) :
    ∃ r w' i, (compare name kind showDiff).ends w = (.ok r, w') ∧
      (∀ j, j ∈ plan'.items ∧ j.key = found.key ↔ j = i) ∧ Matches r i := by
  obtain ⟨x, h, shelves⟩ := shelved.exists_agrees
  have tidy := fun s hs => (shelves s hs).2
  obtain ⟨_, ended, -⟩ := ends_plan (fun _ hs => hs) h .both .additive
  have planned' := (Prod.mk.inj (ended.symm.trans planned)).1
  obtain ⟨-, items⟩ := of_planOn tidy planned'
  obtain ⟨some, r, w', compared, reports⟩ := exists_compare (fun _ hs => hs) h tidy resolved showDiff
  have shown : Shown (pairOn x found.key) := by
    refine ⟨some, ?_⟩
    cases copy : (x .home).copy found.key with
    | none => simp [pairOn, copy]
    | some e =>
      obtain ⟨c, got, made⟩ := Shelf.get?_of_copy copy
      simpa [pairOn, copy] using shared c e ((h.held (by decide) _).trans got) made
  refine ⟨r, w', itemOn x .both .additive found.key, compared, fun j => ⟨?_, ?_⟩, reports.matches_item some⟩
  · rintro ⟨mem, key⟩
    rw [((items.mem_iff j).1 mem).2, key]
  · rintro rfl
    exact ⟨(items.mem_iff _).2 ⟨shown, rfl⟩, rfl⟩

/-- Of copies with different versions, a comparison says that they differ, and a plan that one replaces the
other. -/
theorem compare_matches_plan_outdated :
    ∃ found here there plan' w₁ w₂, (resolveBoth "A" none).ends outdated = (.ok (found, here, there), w₁) ∧
      (plan .both .additive).ends outdated = (.ok plan', w₂) ∧
      ∃ r w' i, (compare "A" none true).ends outdated = (.ok r, w') ∧
        (∀ j, j ∈ plan'.items ∧ j.key = found.key ↔ j = i) ∧ i.step = .update ∧ Matches r i := by
  have meant : ((resolveBoth "A" none).ends outdated).1.toOption.map (·.1.key) =
      some ⟨.persona, "a"⟩ := by decide +kernel
  obtain ⟨⟨found, here, there⟩, resolved, key⟩ := Option.map_eq_some_iff.1 meant
  obtain ⟨plan', planned, items⟩ := outdated_planOn
  obtain ⟨w₂, ended, -⟩ := ends_plan (fun _ hs => hs) outdated_agrees .both .additive
  have resolved' : (resolveBoth "A" none).ends outdated = (.ok (found, here, there), _) :=
    Prod.ext (eq_ok_of_toOption resolved) rfl
  have planned' : (plan .both .additive).ends outdated = (.ok plan', w₂) := by rw [ended, planned]
  obtain ⟨r, w', i, compared, only, matched⟩ := compare_matches_plan outdated_shelved resolved'
    (by
      intro c e held made
      rw [key] at held made
      obtain rfl : laterContent = c := Option.some.inj held
      have plain : (entryFor ⟨.persona, "a"⟩ laterContent).localOnly = false := by decide +kernel
      rwa [entryFor, made] at plain) planned' true
  refine ⟨found, here, there, plan', _, w₂, resolved', planned', r, w', i, compared, only, ?_, matched⟩
  have mem := ((only i).2 rfl).1
  rw [items] at mem
  rw [List.mem_singleton.1 mem]
  decide +kernel

end Portfolio

end TriStore
