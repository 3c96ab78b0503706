import TriStore.Proofs.Plan
import TriStore.Proofs.ShelfSync

/-!
What a sync does to every element. Each item of the plan that is not unchanged has one outcome.
-/
namespace TriStore
open List Plan TriStore.Shelf

def Backing.held : Backing → Key → Option String
  | .shelf y, key => y.get? key
  | _, _ => none

theorem Backing.held_still (b : Backing) (key : Key) : b.still.held key = b.held key := by
  cases b <;> rfl

def World.held (w : World) (s : Source) (key : Key) : Option String := (w.store s).backing.held key

theorem World.Frame.held {w w' : World} (h : Frame w w') (s : Source) (k : Key) : w'.held s k = w.held s k := by
  rw [World.held, ← Backing.held_still, h.backing s, Backing.held_still, World.held]

theorem Agrees.held {D : Source → Prop} {K : Source → String → Option Kind → Prop}
    {x : Source → Shelf} {w : World} {s : Source} (h : Agrees D K x w) (hs : D s) (k : Key) :
    w.held s k = (x s).get? k := by
  rw [World.held, ← Backing.held_still, h.holds s hs, Backing.held_still]
  rfl

namespace World

variable {D : Source → Prop} {w : World}

/-- The stores in question are in memory, and none of their listings is kept. -/
def InMemory (D : Source → Prop) (w : World) : Prop := ∀ s, D s → ∃ y : Shelf, w.store s = ⟨.shelf y, false⟩

theorem InMemory.exists_agrees (h : w.InMemory D) : ∃ x, Agrees D (fun _ _ _ => False) x w ∧
      ∀ s, D s → w.store s = ⟨.shelf (x s), false⟩ := by
  have found : ∀ s, ∃ y : Shelf, D s → w.store s = ⟨.shelf y, false⟩ := by
    intro s
    by_cases hs : D s
    · obtain ⟨y, hy⟩ := h s hs
      exact ⟨y, fun _ => hy⟩
    · exact ⟨default, fun h => absurd h hs⟩
  obtain ⟨x, shelves⟩ := Classical.skolem.1 found
  refine ⟨x, ⟨fun s hs => ?_, fun s hs cached => ?_, fun _ _ _ h => h.elim, fun ⟨_, _, _, h⟩ => h.elim⟩, shelves⟩
  · rw [shelves s hs]
  · rw [shelves s hs] at cached
    cases cached

theorem InMemory.coherent (h : w.InMemory D) (hD : ∀ s, s ≠ .registry → D s) (p : Portfolio) :
    Portfolio.Coherent p (fun _ _ _ => False) w := by
  refine .uncached (fun _ _ _ h => h) fun s hs => ?_
  obtain ⟨y, store⟩ := h s (hD s hs)
  rw [store]

/-- Such stores are in memory, none of their listings is kept, and their keys are normal. -/
def Shelved (D : Source → Prop) (w : World) : Prop := ∀ s, D s → ∃ y : Shelf, w.store s = ⟨.shelf y, false⟩ ∧ y.Tidy

theorem Shelved.inMemory (shelved : w.Shelved D) : w.InMemory D := fun s hs =>
  let ⟨y, store, _⟩ := shelved s hs
  ⟨y, store⟩

theorem Shelved.tidy (shelved : w.Shelved D) {s : Source} (hs : D s) {y : Shelf} (store : w.store s = ⟨.shelf y, false⟩) :
    y.Tidy := by
  obtain ⟨y', store', tidy⟩ := shelved s hs
  cases store.symm.trans store'
  exact tidy

theorem Shelved.exists_agrees (shelved : w.Shelved D) : ∃ x, Agrees D (fun _ _ _ => False) x w ∧
      ∀ s, D s → w.store s = ⟨.shelf (x s), false⟩ ∧ (x s).Tidy := by
  obtain ⟨x, h, shelves⟩ := shelved.inMemory.exists_agrees
  exact ⟨x, h, fun s hs => ⟨shelves s hs, shelved.tidy hs (shelves s hs)⟩⟩

theorem Shelved.coherent (shelved : w.Shelved D) (hD : ∀ s, s ≠ .registry → D s) (p : Portfolio) :
    Portfolio.Coherent p (fun _ _ _ => False) w := shelved.inMemory.coherent hD p

end World

namespace Portfolio

open TriStore.Action

/-- What an outcome says of the contents under its key, before and after. -/
inductive Effect (p : Portfolio) (o : Outcome) (before after : Source → Option String) : Prop where
  | copied (applied : o.status = .applied) (step : o.item.step = .create ∨ o.item.step = .update)
    {c c' : String} (source : before (endsOf o.item.flow).1 = some c)
    (kept : after (endsOf o.item.flow).1 = some c) (passed : p.passed o.item c = .ok c')
    (target : after (endsOf o.item.flow).2 = some c')
  | removed (applied : o.status = .applied) (step : o.item.step = .delete)
    (kept : after (endsOf o.item.flow).1 = before (endsOf o.item.flow).1)
    (target : after (endsOf o.item.flow).2 = none)
  | untouched (status : o.status ≠ .applied) (same : ∀ s, s ≠ .registry → after s = before s)

variable {p : Portfolio} {x x' : Source → Shelf} {i : PlanItem} {o : Outcome} {k : Key}
  {before after before' after' : Source → Option String}

theorem Effect.congr (h : Effect p o before after) (hb : ∀ s, s ≠ .registry → before' s = before s)
    (ha : ∀ s, s ≠ .registry → after' s = after s) : Effect p o before' after' := by
  obtain ⟨source, target⟩ := endsOf_ne_registry o.item.flow
  cases h with
  | copied applied step there kept passed put =>
    exact .copied applied step ((hb _ source).trans there) ((ha _ source).trans kept) passed
      ((ha _ target).trans put)
  | removed applied step kept gone =>
    exact .removed applied step (by rw [ha _ source, hb _ source, kept]) ((ha _ target).trans gone)
  | untouched status same =>
    exact .untouched status fun s hs => by rw [ha s hs, hb s hs, same s hs]

section Items

theorem endsOf_ne (d : Direction) : (endsOf d).1 ≠ (endsOf d).2 := by cases d <;> decide

/-- What counting a call, erasing and putting leave as it is, carrying out an item leaves too. -/
theorem carryOn_leaves {β : Type} (f : Shelf → β) (counts : ∀ y calls, f { y with calls } = f y)
    (erases : ∀ y, f (y.erase i.key) = f y) (puts : ∀ y c, f (y.put i.key c) = f y) (p : Portfolio)
    (x : Source → Shelf) (s : Source) : f (replace x (endsOf i.flow).2 (p.carryOn x i).2 s) = f (x s) := by
  by_cases eq : s = (endsOf i.flow).2
  · rw [eq, replace_self]
    obtain ⟨calls, ⟨e, failed⟩ | ⟨-, erased⟩ | ⟨c, -, -, put⟩⟩ := p.carryOn_cases x i
    · rw [failed, counts]
    · rw [erased, counts, erases]
    · rw [put, counts, puts]
  · rw [replace_ne x eq]

theorem get?_carryOn_ne (p : Portfolio) (x : Source → Shelf) (i : PlanItem) (h : k ≠ i.key)
    (s : Source) : (replace x (endsOf i.flow).2 (p.carryOn x i).2 s).get? k = (x s).get? k :=
  carryOn_leaves (·.get? k) (fun _ _ => rfl) (Shelf.get?_erase_ne · h) (Shelf.get?_put_ne · h) p x s

theorem outcomeOf_error {e : Failure} (h : outcomeOf i (.error e) = .ok o) :
    o.item = i ∧ o.status ≠ .applied ∧ ∀ reason, e = .rejected reason → o.status = .failed := by
  cases e with
  | conflict key reason =>
    have whole := Except.ok.inj h
    subst whole
    exact ⟨rfl, by simp, nofun⟩
  | _ =>
    simp only [outcomeOf] at h
    split at h
    · cases h
    · have whole := Except.ok.inj h
      subst whole
      exact ⟨rfl, by simp, fun _ _ => rfl⟩

theorem carryOn_effect (unchanged : i.step ≠ .unchanged) (conflict : i.step ≠ .conflict)
    (h : outcomeOf i (p.carryOn x i).1 = .ok o) : o.item = i ∧ Effect p o (fun s => (x s).get? i.key)
      fun s => (replace x (endsOf i.flow).2 (p.carryOn x i).2 s).get? i.key := by
  have source : replace x (endsOf i.flow).2 (p.carryOn x i).2 (endsOf i.flow).1 =
      x (endsOf i.flow).1 := replace_ne x (endsOf_ne i.flow) _
  obtain ⟨calls, ⟨e, fails⟩ | ⟨step, erases⟩ | ⟨c, step, content, puts⟩⟩ := p.carryOn_cases x i
  · rw [fails] at h ⊢
    obtain ⟨item, status, -⟩ := outcomeOf_error h
    refine ⟨item, .untouched status fun s _ => ?_⟩
    by_cases eq : s = (endsOf i.flow).2
    · rw [eq, replace_self]
      rfl
    · rw [replace_ne x eq]
  · rw [erases] at h
    have whole := Except.ok.inj h
    subst whole
    refine ⟨rfl, .removed rfl step (by rw [source]) ?_⟩
    rw [replace_self, erases]
    exact Shelf.get?_erase_self _ _
  · rw [puts] at h
    cases stored : Digest.blob c with
    | error e =>
      -- Content that cannot be encoded ends the sync, so there is no outcome.
      rw [stored, Digest.blob_eq_error stored] at h
      cases h
    | ok b =>
      rw [stored] at h
      have whole := Except.ok.inj h
      subst whole
      simp only [contentOn, bind_eq_ok] at content
      obtain ⟨c₀, fetched, passed⟩ := content
      have there := (content_eq_ok_iff.1 fetched).2
      refine ⟨rfl, .copied rfl ?_ there (by rw [source]; exact there) passed ?_⟩
      · dsimp only
        cases found : i.step with
        | create => exact .inl rfl
        | update => exact .inr rfl
        | delete => exact absurd found step
        | unchanged => exact absurd found unchanged
        | conflict => exact absurd found conflict
      · dsimp only
        rw [replace_self, puts]
        exact Shelf.get?_put_self _ _ _

theorem stepOn_effect (unchanged : i.step ≠ .unchanged) (h : p.stepOn x i = (.ok o, x')) :
    o.item = i ∧ Effect p o (fun s => (x s).get? i.key) (fun s => (x' s).get? i.key) ∧
      ∀ k, k ≠ i.key → ∀ s, (x' s).get? k = (x s).get? k := by
  obtain ⟨-, noted⟩ | ⟨-, -, noted⟩ | ⟨conflict, -, carried⟩ := p.stepOn_cases x i
  · obtain ⟨rfl, rfl⟩ := by simpa using noted.symm.trans h
    exact ⟨rfl, .untouched (by simp) fun _ _ => rfl, fun _ _ _ => rfl⟩
  · obtain ⟨rfl, rfl⟩ := by simpa using noted.symm.trans h
    exact ⟨rfl, .untouched (by simp) fun _ _ => rfl, fun _ _ _ => rfl⟩
  · obtain ⟨outcome, rfl⟩ := Prod.mk.inj (carried.symm.trans h)
    obtain ⟨item, effect⟩ := carryOn_effect unchanged conflict outcome
    exact ⟨item, effect, fun k hk => get?_carryOn_ne p x i hk⟩

end Items

theorem applyAllOn_cons_eq_ok {rest : List PlanItem} {outcomes : List Outcome}
    (unchanged : i.step ≠ .unchanged) (h : p.applyAllOn (i :: rest) x = (.ok outcomes, x')) :
    ∃ o os x₁, p.stepOn x i = (.ok o, x₁) ∧ p.applyAllOn rest x₁ = (.ok os, x') ∧ outcomes = o :: os := by
  rw [applyAllOn, if_neg (by simpa using unchanged)] at h
  rcases stepped : p.stepOn x i with ⟨e | o, x₁⟩
  · rw [stepped] at h
    cases h
  · rw [stepped] at h
    obtain ⟨later, rfl⟩ := Prod.mk.inj h
    rcases done : p.applyAllOn rest x₁ with ⟨e | os, x₂⟩
    · rw [done] at later
      cases later
    · rw [done] at later
      exact ⟨o, os, x₁, rfl, done, (Except.ok.inj later).symm⟩

theorem applyAllOn_effect {items : List PlanItem} {outcomes : List Outcome}
    (nodup : (items.map (·.key)).Nodup) (h : p.applyAllOn items x = (.ok outcomes, x')) :
    outcomes.map (·.item) = items.filter (·.step != .unchanged) ∧
      (∀ o ∈ outcomes, Effect p o (fun s => (x s).get? o.item.key) fun s => (x' s).get? o.item.key) ∧
      ∀ k, (∀ o ∈ outcomes, o.item.key ≠ k) → ∀ s, (x' s).get? k = (x s).get? k := by
  induction items generalizing x outcomes with
  | nil =>
    obtain ⟨rfl, rfl⟩ := by simpa [applyAllOn] using h
    simp
  | cons i rest ih =>
    obtain ⟨fresh, nodup⟩ := nodup_cons.1 nodup
    by_cases unchanged : i.step = .unchanged
    · rw [applyAllOn, if_pos (by simp [unchanged])] at h
      rw [filter_cons_of_neg (by simp [unchanged])]
      exact ih nodup h
    · obtain ⟨o, os, x₁, stepped, later, rfl⟩ := applyAllOn_cons_eq_ok unchanged h
      obtain ⟨item, effect, others⟩ := stepOn_effect unchanged stepped
      obtain ⟨items, effects, same⟩ := ih nodup later
      -- The items that follow are about other elements.
      have apart : ∀ o' ∈ os, o'.item.key ≠ i.key := by
        intro o' ho' eq
        have mem : o'.item ∈ os.map (·.item) := mem_map_of_mem ho'
        rw [items] at mem
        exact fresh (mem_map.2 ⟨o'.item, (mem_filter.1 mem).1, eq⟩)
      refine ⟨?_, fun o' ho' => ?_, fun k hk s => ?_⟩
      · rw [map_cons, item, items, filter_cons_of_pos (by simpa using unchanged)]
      · rcases mem_cons.1 ho' with rfl | ho'
        · rw [item]
          exact effect.congr (fun _ _ => rfl) fun s _ => same i.key apart s
        · exact (effects o' ho').congr (fun s _ => (others _ (apart o' ho') s).symm) fun _ _ => rfl
      · rw [same k (fun o' ho' => hk o' (.tail _ ho')) s, others k (Ne.symm (item ▸ hk o (.head _))) s]

section Plans

/-- What the shelves are like for an item of a plan to stand where it does. -/
inductive Premise (x : Source → Shelf) (d : Direction) (m : Mode) (i : PlanItem) : Prop where
  | create (step : i.step = .create) {c : String}
    (source : (x (endsOf i.flow).1).get? i.key = some c)
    (target : (x (endsOf i.flow).2).get? i.key = none)
  | update (step : i.step = .update) {c c' b : String}
    (source : (x (endsOf i.flow).1).get? i.key = some c)
    (target : (x (endsOf i.flow).2).get? i.key = some c') (stored : Digest.blob c' = .ok b)
    (expected : expectedOf i = some (.text b))
  | delete (step : i.step = .delete) (way : i.flow ≠ .both) (flow : i.flow = Plan.effective d m)
    (source : (x (endsOf i.flow).1).get? i.key = none) (mirror : i.executable = true → m = .mirror)
  | unchanged (step : i.step = .unchanged)
  | conflict (step : i.step = .conflict)

variable {d : Direction} {m : Mode} {plan : Plan}

def pairOn (x : Source → Shelf) (k : Key) : Plan.Pair := ⟨(x .home).copy k, (x .remote).copy k⟩

theorem sides_pairOn {flow : Direction} (way : flow ≠ .both) (x : Source → Shelf) (k : Key) :
    Plan.sides flow (pairOn x k) = ((x (endsOf flow).1).copy k, (x (endsOf flow).2).copy k) := by
  cases flow with
  | push => rfl
  | pull => rfl
  | both => exact absurd rfl way

theorem expectedOf_item {e : Entry} (made : i = Plan.item d m k (pairOn x k)) (way : i.flow ≠ .both)
    (target : (x (endsOf i.flow).2).copy k = some e) (given : e.revision.isGiven = true) :
    expectedOf i = some e.revision := by
  have revision : (if i.flow == .pull then i.localRevision else i.remoteRevision) = e.revision := by
    cases flow : i.flow with
    | push =>
      rw [flow] at target
      rw [made]
      simp [Plan.item, pairOn, show (x .remote).copy k = some e from target]
    | pull =>
      rw [flow] at target
      rw [made]
      simp [Plan.item, pairOn, show (x .home).copy k = some e from target]
    | both => exact absurd flow way
  unfold expectedOf
  rw [revision, if_pos given]

section Listings

variable {here there : List Entry} (tidy : ∀ s, s ≠ .registry → (x s).Tidy)
  (hhere : (x .home).entries none = .ok here) (hthere : (x .remote).entries none = .ok there)

include tidy hhere hthere

theorem pair_of_listings (k : Key) : (⟨Plan.lastWith k here, Plan.lastWith k there⟩ : Plan.Pair) = pairOn x k := by
  rw [(tidy .home (by decide)).lastWith hhere, (tidy .remote (by decide)).lastWith hthere, pairOn]

theorem source_of_target (listed : k ∈ Plan.keysOf here there) {flow : Direction} (way : flow ≠ .both)
    (missing : (x (endsOf flow).2).copy k = none) : ∃ e, (x (endsOf flow).1).copy k = some e := by
  rw [← Option.ne_none_iff_exists']
  intro missing'
  rw [Plan.mem_keysOf_iff, (tidy .home (by decide)).lastWith hhere,
    (tidy .remote (by decide)).lastWith hthere] at listed
  cases flow with
  | push => exact listed.elim (· missing') (· missing)
  | pull => exact listed.elim (· missing) (· missing')
  | both => exact absurd rfl way

omit tidy in
theorem get?_of_listings {s : Source} (hs : s ≠ .registry) (missing : (x s).copy k = none) :
    (x s).get? k = none := by
  cases s with
  | home => exact get?_of_copy_eq_none hhere missing
  | remote => exact get?_of_copy_eq_none hthere missing
  | registry => exact absurd rfl hs

end Listings

theorem premise_of_planOn (planned : planOn x d m = .ok plan)
    (tidy : ∀ s, s ≠ .registry → (x s).Tidy) (hi : i ∈ plan.items) : Premise x d m i := by
  obtain ⟨here, there, hhere, hthere, rfl⟩ := planOn_eq_ok planned
  obtain ⟨listed, -, made⟩ := mem_items hi
  rw [pair_of_listings tidy hhere hthere] at made
  obtain ⟨source, target⟩ := endsOf_ne_registry i.flow
  have flow : (Plan.verdict (Plan.effective d m) m (pairOn x i.key)).flow = i.flow :=
    (congrArg PlanItem.flow made).symm
  have step : i.step = (Plan.verdict (Plan.effective d m) m (pairOn x i.key)).step :=
    congrArg PlanItem.step made
  have executable : (Plan.verdict (Plan.effective d m) m (pairOn x i.key)).executable = i.executable :=
    (congrArg PlanItem.executable made).symm
  cases verdict_grounds (Plan.effective d m) m (pairOn x i.key) with
  | create create way missing =>
    rw [flow] at way missing
    rw [sides_pairOn way] at missing
    obtain ⟨e, found⟩ := source_of_target tidy hhere hthere listed way missing
    obtain ⟨c, content, -⟩ := get?_of_copy found
    exact .create (step.trans create) content (get?_of_listings hhere hthere target missing)
  | update update way both =>
    rw [flow] at way both
    obtain ⟨found, found'⟩ := Prod.mk.inj ((sides_pairOn way x i.key).symm.trans both)
    obtain ⟨c, content, -⟩ := get?_of_copy found
    obtain ⟨c', content', entry⟩ := get?_of_copy found'
    obtain ⟨-, ⟨b, stored, revision⟩, -⟩ := entryOf_eq_ok entry
    have expected := expectedOf_item made way found'
      (by rw [revision]; simpa [Value.isGiven] using Digest.blob_ne_empty stored)
    exact .update (step.trans update) content content' stored (by rw [expected, revision])
  | delete delete way way' only mirror =>
    rw [flow] at way way' only
    rw [executable] at mirror
    obtain ⟨missing, -⟩ := Prod.mk.inj ((sides_pairOn way x i.key).symm.trans only)
    exact .delete (step.trans delete) way way' (get?_of_listings hhere hthere source missing) mirror
  | unchanged unchanged => exact .unchanged (step.trans unchanged)
  | conflict conflict => exact .conflict (step.trans conflict)

end Plans

section Statuses

/-- On stores that take what is written an item is applied, unless its content is rejected. -/
def statusOf (p : Portfolio) (before : Source → Option String) (i : PlanItem) : Status :=
  if i.step == .conflict then .conflict
  else if !i.executable then .skipped
  else if i.step == .delete then .applied
  else match (before (endsOf i.flow).1).map (p.passed i) with
    | some (.ok _) => .applied
    | _ => .failed

theorem statusOf_congr (same : ∀ s, s ≠ .registry → before s = before' s) :
    p.statusOf before i = p.statusOf before' i := by
  unfold statusOf
  rw [same _ (endsOf_ne_registry i.flow).1]

/-- The shelves are as the plan found them, as far as an item is concerned. -/
structure Ready (x : Source → Shelf) (i : PlanItem) : Prop where
  writable : (x (endsOf i.flow).2).writable = true
  answers : ∀ s, s ≠ .registry → (x s).check = .ok ()
  source : i.step ≠ .delete → ∃ c, (x (endsOf i.flow).1).get? i.key = some c
  target : i.step ≠ .delete →
    (x (endsOf i.flow).2).checkWrite i.key (if i.step == .update then expectedOf i else none) = .ok ()

theorem Ready.congr (h : Ready x i) (same : ∀ s, (x' s).get? i.key = (x s).get? i.key)
    (writable : ∀ s, (x' s).writable = (x s).writable) (check : ∀ s, (x' s).check = (x s).check) :
    Ready x' i where
  writable := (writable _).trans h.writable
  answers s hs := (check s).trans (h.answers s hs)
  source step := by
    rw [same]
    exact h.source step
  target step := by
    have checked := h.target step
    unfold Shelf.checkWrite at checked ⊢
    rw [same]
    exact checked

theorem works_carryOn (p : Portfolio) (x : Source → Shelf) (i : PlanItem) (s : Source) :
    (replace x (endsOf i.flow).2 (p.carryOn x i).2 s).writable = (x s).writable ∧
      (replace x (endsOf i.flow).2 (p.carryOn x i).2 s).check = (x s).check :=
  ⟨carryOn_leaves (·.writable) (fun _ _ => rfl) (fun _ => rfl) (fun _ _ => rfl) p x s,
    carryOn_leaves (·.check) (fun _ _ => rfl) (fun _ => rfl) (fun _ _ => rfl) p x s⟩

theorem Ready.carryOn_delete (h : Ready x i) (step : i.step = .delete) : (p.carryOn x i).1 = .ok () := by
  unfold carryOn
  rw [if_pos (by simp [step]), delete_eq, if_neg (by simp [h.writable]), h.answers _ (endsOf_ne_registry i.flow).2]

theorem Ready.carryOn_write (h : Ready x i) (step : i.step ≠ .delete) {c : String}
    (there : (x (endsOf i.flow).1).get? i.key = some c) :
    (p.carryOn x i).1 = (p.passed i c >>= fun c' => (Digest.blob c').map fun _ => ()) := by
  obtain ⟨source, target⟩ := endsOf_ne_registry i.flow
  have fetched := content_eq_ok_iff.2 ⟨h.answers _ source, there⟩
  unfold carryOn contentOn
  rw [if_neg (by simpa using step), fetched, ok_bind]
  cases p.passed i c with
  | error e => rfl
  | ok c' =>
    rw [ok_bind]
    dsimp only
    rw [write_eq, if_neg (by simp [h.writable]), h.answers _ target, h.target step]
    cases Digest.blob c' <;> rfl

theorem passed_eq_error
    (validate : ∀ key c e, p.validate key c = .error e → ∃ reason, e = .rejected reason) {c : String}
    {e : Failure} (h : p.passed i c = .error e) : ∃ reason, e = .rejected reason := by
  unfold passed at h
  split at h
  · exact validate _ _ _ h
  · split at h
    · exact ⟨_, (Except.error.inj h).symm⟩
    · cases h

theorem stepOn_status (validate : ∀ key c e, p.validate key c = .error e → ∃ reason, e = .rejected reason)
    (ready : i.step ≠ .conflict → Ready x i) (h : p.stepOn x i = (.ok o, x')) :
    o.status = p.statusOf (fun s => (x s).get? i.key) i := by
  unfold statusOf
  obtain ⟨conflict, noted⟩ | ⟨conflict, skipped, noted⟩ | ⟨conflict, executable, carried⟩ :=
    p.stepOn_cases x i
  · obtain ⟨rfl, -⟩ := by simpa using noted.symm.trans h
    simp [conflict]
  · obtain ⟨rfl, -⟩ := by simpa using noted.symm.trans h
    simp [conflict, skipped]
  · obtain ⟨outcome, -⟩ := Prod.mk.inj (carried.symm.trans h)
    have ready := ready conflict
    rw [if_neg (by simpa using conflict), if_neg (by simp [executable])]
    by_cases step : i.step = .delete
    · rw [ready.carryOn_delete step] at outcome
      rw [if_pos (by simp [step]), ← Except.ok.inj outcome]
    · obtain ⟨c, there⟩ := ready.source step
      rw [ready.carryOn_write step there] at outcome
      rw [if_neg (by simpa using step)]
      dsimp only
      rw [there, Option.map_some]
      cases passed : p.passed i c with
      | error e =>
        obtain ⟨reason, rejected⟩ := passed_eq_error validate passed
        rw [passed] at outcome
        exact (outcomeOf_error outcome).2.2 reason rejected
      | ok c' =>
        rw [passed, ok_bind] at outcome
        cases stored : Digest.blob c' with
        | error e =>
          rw [stored, Digest.blob_eq_error stored] at outcome
          cases outcome
        | ok b =>
          rw [stored] at outcome
          exact (Except.ok.inj outcome) ▸ rfl

theorem applyAllOn_status {items : List PlanItem} {outcomes : List Outcome}
    (validate : ∀ key c e, p.validate key c = .error e → ∃ reason, e = .rejected reason)
    (nodup : (items.map (·.key)).Nodup)
    (ready : ∀ i ∈ items, i.step ≠ .unchanged → i.step ≠ .conflict → Ready x i)
    (h : p.applyAllOn items x = (.ok outcomes, x')) :
    ∀ o ∈ outcomes, o.status = p.statusOf (fun s => (x s).get? o.item.key) o.item := by
  induction items generalizing x outcomes with
  | nil =>
    obtain ⟨rfl, -⟩ := by simpa [applyAllOn] using h
    simp
  | cons i rest ih =>
    obtain ⟨fresh, nodup⟩ := nodup_cons.1 nodup
    have apart : ∀ j ∈ rest, j.key ≠ i.key := fun j hj eq => fresh (mem_map.2 ⟨j, hj, eq⟩)
    by_cases unchanged : i.step = .unchanged
    · rw [applyAllOn, if_pos (by simp [unchanged])] at h
      exact ih nodup (fun j hj => ready j (.tail _ hj)) h
    · obtain ⟨o, os, x₁, stepped, later, rfl⟩ := applyAllOn_cons_eq_ok unchanged h
      obtain ⟨item, -, others⟩ := stepOn_effect unchanged stepped
      have works : ∀ s, (x₁ s).writable = (x s).writable ∧ (x₁ s).check = (x s).check := by
        intro s
        obtain ⟨-, noted⟩ | ⟨-, -, noted⟩ | ⟨-, -, carried⟩ := p.stepOn_cases x i
        · obtain ⟨-, rfl⟩ := Prod.mk.inj (noted.symm.trans stepped)
          exact ⟨rfl, rfl⟩
        · obtain ⟨-, rfl⟩ := Prod.mk.inj (noted.symm.trans stepped)
          exact ⟨rfl, rfl⟩
        · obtain ⟨-, rfl⟩ := Prod.mk.inj (carried.symm.trans stepped)
          exact works_carryOn p x i s
      have statuses := ih nodup (fun j hj step conflict =>
        (ready j (.tail _ hj) step conflict).congr (others _ (apart j hj))
          (fun s => (works s).1) fun s => (works s).2) later
      intro o' ho'
      rcases mem_cons.1 ho' with rfl | ho'
      · rw [item]
        exact stepOn_status validate (ready i (.head _) unchanged) stepped
      · have mem : o'.item ∈ rest := by
          have mem : o'.item ∈ os.map (·.item) := mem_map_of_mem ho'
          rw [(applyAllOn_effect nodup later).1] at mem
          exact (mem_filter.1 mem).1
        rw [statuses o' ho']
        congr 1
        funext s
        exact others _ (apart _ mem) s

theorem Premise.ready {d : Direction} {m : Mode} (h : Premise x d m i)
    (answers : ∀ s, s ≠ .registry → (x s).check = .ok ())
    (writable : ∀ s, s ≠ .registry → (x s).writable = true) (unchanged : i.step ≠ .unchanged)
    (conflict : i.step ≠ .conflict) : Ready x i := by
  refine ⟨writable _ (endsOf_ne_registry i.flow).2, answers, fun delete => ?_, fun delete => ?_⟩
  · cases h with
    | create _ source _ => exact ⟨_, source⟩
    | update _ source _ _ _ => exact ⟨_, source⟩
    | delete step => exact absurd step delete
    | unchanged step => exact absurd step unchanged
    | conflict step => exact absurd step conflict
  · unfold Shelf.checkWrite
    cases h with
    | create _ _ target => rw [target]
    | update step _ target stored expected =>
      rw [target, step, expected]
      simp [stored, ok_bind, pure, Except.pure, Value.same, Value.within, Value.sameScalar, Value.magnitude?]
    | delete step => exact absurd step delete
    | unchanged step => exact absurd step unchanged
    | conflict step => exact absurd step conflict

end Statuses

theorem syncOn_eq_finished {d : Direction} {m : Mode} {force confirm : Bool} {r : SyncReport}
    (h : (p.syncOn x d m false force confirm).1 = .ok (.finished r))
    (settled : r.requiresConfirmation = false) : planOn x d m = .ok r.plan ∧
      p.applyAllOn r.plan.items x = (.ok r.outcomes, (p.syncOn x d m false force confirm).2) := by
  unfold syncOn at h ⊢
  rw [if_neg (by simp)] at h ⊢
  cases admitted : checkBulk p.settings.sync (Plan.effective d m) with
  | error e =>
    rw [admitted] at h
    cases h
  | ok _ =>
    rw [admitted, ok_bind] at h
    rw [ok_bind]
    cases planned : planOn x d m with
    | error e =>
      rw [planned] at h
      cases h
    | ok plan =>
      rw [planned] at h
      dsimp only at h ⊢
      split at h
      · have whole := SyncResult.finished.inj (Except.ok.inj h)
        subst whole
        cases settled
      · next unasked =>
        rw [if_neg unasked]
        rcases applied : p.applyAllOn plan.items x with ⟨e | outcomes, x'⟩
        · rw [applied] at h
          cases h
        · rw [applied] at h
          have whole := SyncResult.finished.inj (Except.ok.inj h)
          subst whole
          exact ⟨rfl, applied⟩

section Worlds

variable {w w' : World}

/-- A sync has one outcome for each item of the plan that is not unchanged, in its order, and changes each
element as its outcome says and no other. Stores that can be written to take every item whose content is not
rejected. -/
theorem sync_effect {d : Direction} {m : Mode} {force confirm : Bool} {r : SyncReport}
    (shelved : w.Shelved (· ≠ .registry))
    (validate : ∀ key c e, p.validate key c = .error e → ∃ reason, e = .rejected reason)
    (ended : (p.sync d m false force confirm).ends w = (.ok (.finished r), w'))
    (settled : r.requiresConfirmation = false) : ((plan d m).ends w).1 = .ok r.plan ∧
      r.outcomes.map (·.item) = r.plan.items.filter (·.step != .unchanged) ∧
      (∀ o ∈ r.outcomes, Effect p o (w.held · o.item.key) (w'.held · o.item.key)) ∧
      (∀ k, (∀ o ∈ r.outcomes, o.item.key ≠ k) → ∀ s, s ≠ .registry → w'.held s k = w.held s k) ∧
      ((∀ s y, s ≠ .registry → (w.store s).backing = .shelf y → y.writable = true) →
        ∀ o ∈ r.outcomes, o.status = p.statusOf (w.held · o.item.key) o.item) := by
  obtain ⟨x, h, shelves⟩ := shelved.exists_agrees
  obtain ⟨w₁, synced, h', -⟩ :=
    ends_sync (fun _ hs => hs) h (shelved.coherent (fun _ hs => hs) p) d m false force confirm
  obtain ⟨result, rfl⟩ := Prod.mk.inj (ended.symm.trans synced)
  obtain ⟨planned, applied⟩ := syncOn_eq_finished result.symm settled
  obtain ⟨w₂, listed, -⟩ := ends_plan (fun _ hs => hs) h d m
  have nodup : (r.plan.items.map (·.key)).Nodup := by
    obtain ⟨here, there, -, -, built⟩ := planOn_eq_ok planned
    rw [built]
    exact nodup_items here there d m
  obtain ⟨items, effects, others⟩ := applyAllOn_effect nodup applied
  refine ⟨by rw [listed, planned], items, fun o ho => ?_, fun k hk s hs => ?_, fun writable o ho => ?_⟩
  · exact (effects o ho).congr (fun s hs => h.held hs _) fun s hs => h'.held hs _
  · rw [h.held hs, h'.held hs]
    exact others k hk s
  · have tidy : ∀ s, s ≠ .registry → (x s).Tidy := fun s hs => (shelves s hs).2
    have answers : ∀ s, s ≠ .registry → (x s).check = .ok () := by
      obtain ⟨here, there, hhere, hthere, -⟩ := planOn_eq_ok planned
      intro s hs
      cases s with
      | home => exact (entries_eq_ok hhere).1
      | remote => exact (entries_eq_ok hthere).1
      | registry => exact absurd rfl hs
    have ready : ∀ i ∈ r.plan.items, i.step ≠ .unchanged → i.step ≠ .conflict → Ready x i :=
      fun i hi => (premise_of_planOn planned tidy hi).ready answers fun s hs =>
        writable s (x s) hs (by rw [(shelves s hs).1])
    rw [applyAllOn_status validate nodup ready applied o ho]
    exact statusOf_congr fun s hs => (h.held hs _).symm

/-- Three stores in memory before the first call. -/
def worldOn (x : Source → Shelf) : World :=
  { home := { backing := .shelf (x .home) }
    remote := { backing := .shelf (x .remote) }
    registry := { backing := .shelf (x .registry) }
    results := { name := .text "search", maxEntries := .whole 1, maxMemory := .whole 1, ttl := none } }

theorem worldOn_shelved (tidy : ∀ s, (x s).Tidy) : (worldOn x).Shelved (· ≠ .registry) := by
  intro s hs
  cases s with
  | home => exact ⟨_, rfl, tidy _⟩
  | remote => exact ⟨_, rfl, tidy _⟩
  | registry => exact absurd rfl hs

theorem worldOn_agrees (D : Source → Prop) (K : Source → String → Option Kind → Prop) (x : Source → Shelf) :
    Agrees D K x (worldOn x) := by
  refine ⟨fun s _ => ?_, fun s _ cached => ?_, fun _ _ _ _ _ => nofun, fun _ => rfl⟩
  · cases s <;> rfl
  · cases s <;> cases cached

def crossedShelves : Source → Shelf
  | .home => { source := .home, writable := true, contents := [(⟨.persona, "a"⟩, "x")] }
  | .remote => { source := .remote, writable := true, contents := [(⟨.persona, "b"⟩, "y")] }
  | .registry => { source := .registry, writable := false }

def crossed : World := worldOn crossedShelves

theorem crossed_shelved : crossed.Shelved (· ≠ .registry) :=
  worldOn_shelved fun s => by cases s <;> exact ⟨by decide, by decide⟩

theorem crossed_agrees : Agrees (· ≠ .registry) (fun _ _ _ => False) crossedShelves crossed := worldOn_agrees ..

def entryFor (key : Key) (content : String) : Entry :=
  (Shelf.entryOf (key, content)).toOption.getD default

theorem entries_of_sorted {y : Shelf} (sorted : y.contents.Pairwise fun a b => a.1.le b.1 = true)
    (answers : y.check = .ok ()) (sound : ∀ kc ∈ y.contents, (Shelf.entryOf kc).toOption.isSome = true) :
    y.entries none = .ok (y.contents.map fun kc => entryFor kc.1 kc.2) := by
  have made : ∀ kcs : List (Key × String), (∀ kc ∈ kcs, (Shelf.entryOf kc).toOption.isSome = true) →
      kcs.mapM Shelf.entryOf = .ok (kcs.map fun kc => entryFor kc.1 kc.2) := by
    intro kcs sound
    induction kcs with
    | nil => rfl
    | cons kc kcs ih =>
      obtain ⟨first, rest⟩ := forall_mem_cons.1 sound
      obtain ⟨e, made⟩ := Option.isSome_iff_exists.1 first
      rw [mapM_cons, ih rest, map_cons, entryFor, made, eq_ok_of_toOption made]
      rfl
  rw [Shelf.entries, answers, Shelf.sorted, mergeSort_of_pairwise sorted, ← made _ sound]
  simp [ok_bind]

theorem planOn_of_sorted {d : Direction} {m : Mode} {here there : List Entry} {k : List Key}
    (hhere : (x .home).entries none = .ok here) (hthere : (x .remote).entries none = .ok there)
    (listed : ((here ++ there).map (·.key)).eraseDups = k) (sorted : k.Pairwise fun a b => a.le b = true)
    (comparable : ∀ a ∈ k.filter (!Plan.isPrivate here ·),
      Plan.checkPair (Plan.effective d m) m ⟨Plan.lastWith a here, Plan.lastWith a there⟩ = .ok ()) :
    ∃ plan, planOn x d m = .ok plan ∧ plan.items = (k.filter (!Plan.isPrivate here ·)).map fun a =>
      Plan.item (Plan.effective d m) m a ⟨Plan.lastWith a here, Plan.lastWith a there⟩ := by
  have all : Plan.keysOf here there = k := by rw [Plan.keysOf, listed, mergeSort_of_pairwise sorted]
  refine ⟨Plan.build here there d m, ?_, by rw [Plan.build, all]⟩
  rw [planOn, hhere, ok_bind, hthere, ok_bind, Plan.make_eq_ok_iff, Plan.check, all]
  exact ⟨forM_eq_ok_iff.2 comparable, rfl⟩

theorem crossed_planOn : ∃ plan, planOn crossedShelves .push .mirror = .ok plan ∧
    plan.items = [Plan.item .push .mirror ⟨.persona, "a"⟩ ⟨some (entryFor ⟨.persona, "a"⟩ "x"), none⟩,
      Plan.item .push .mirror ⟨.persona, "b"⟩ ⟨none, some (entryFor ⟨.persona, "b"⟩ "y")⟩] :=
  planOn_of_sorted (entries_of_sorted (by decide) rfl (by decide +kernel))
    (entries_of_sorted (by decide) rfl (by decide +kernel)) (k := [⟨.persona, "a"⟩, ⟨.persona, "b"⟩])
    (by decide +kernel) (by decide) (by decide +kernel)

theorem ends_sync_crossed : ∃ r w',
    (sync { home := default } .push .mirror false false true).ends crossed = (.ok (.finished r), w') ∧
      r.requiresConfirmation = false ∧ r.outcomes.map (·.status) = [.applied, .applied] ∧
      w'.held .remote ⟨.persona, "b"⟩ = none := by
  obtain ⟨plan, planned, items⟩ := crossed_planOn
  have gone : ((applyAllOn { home := default } plan.items crossedShelves).2 .remote).get?
      ⟨.persona, "b"⟩ = none := by
    rw [items]
    decide +kernel
  have done : ((applyAllOn { home := default } plan.items crossedShelves).1.toOption.map
      (·.map (·.status))) = some [.applied, .applied] := by
    rw [items]
    decide +kernel
  have admitted : checkBulk {} (Plan.effective .push .mirror) = .ok () := rfl
  rcases applied : applyAllOn { home := default } plan.items crossedShelves with ⟨e | outcomes, x'⟩
  · rw [applied] at done
    cases done
  · have synced : syncOn { home := default } crossedShelves .push .mirror false false true =
        (.ok (.finished { plan, outcomes }), x') := by
      simp [syncOn, admitted, planned, ok_bind, needsConfirmation, applied, Except.map]
    obtain ⟨w', ended, h, -⟩ := ends_sync (p := { home := default }) (fun _ hs => hs) crossed_agrees
      (crossed_shelved.coherent (fun _ hs => hs) _) .push .mirror false false true
    rw [synced] at ended h
    rw [applied] at gone
    exact ⟨{ plan, outcomes }, w', ended, rfl, by simpa [applied, Except.toOption] using done,
      by rw [h.held (by decide), gone]⟩

/-- The mirror push of stores with nothing in common applies both items. -/
theorem sync_effect_crossed : ∃ r w',
    (sync { home := default } .push .mirror false false true).ends crossed = (.ok (.finished r), w') ∧
      r.outcomes.map (·.status) = [.applied, .applied] ∧
      r.outcomes.map (·.item) = r.plan.items.filter (·.step != .unchanged) ∧
      ∀ o ∈ r.outcomes, Effect { home := default } o (crossed.held · o.item.key)
        (w'.held · o.item.key) := by
  obtain ⟨r, w', ended, settled, statuses, -⟩ := ends_sync_crossed
  obtain ⟨-, items, effects, -⟩ := sync_effect (p := { home := default }) crossed_shelved
    (fun _ _ _ h => nomatch h) ended settled
  exact ⟨r, w', ended, statuses, items, effects⟩

end Worlds

end Portfolio

end TriStore
