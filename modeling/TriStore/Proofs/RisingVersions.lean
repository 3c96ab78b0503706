import TriStore.Proofs.Deletion
import TriStore.Proofs.PlannedCopies
import TriStore.Proofs.Syncing

/-!
Along additive syncs no later version gives way to an earlier one, nor to one it cannot be compared with.
-/
namespace TriStore
open List

/-- The order of versions by their numbers, the major one first. -/
def Version.Before (a b : Version) : Prop :=
  a.major < b.major ∨ a.major = b.major ∧ (a.minor < b.minor ∨ a.minor = b.minor ∧ a.patch < b.patch)

theorem Version.Before.trans {a b c : Version} (h : a.Before b) (h' : b.Before c) : a.Before c := by
  unfold Before at h h' ⊢
  omega

theorem Version.compare_eq_gt_iff {a b : Version} : a.compare b = .gt ↔ b.Before a := by
  simp only [compare, Before, Ordering.then_eq_gt, Nat.compare_eq_gt, Nat.compare_eq_eq]
  omega

theorem isNewer_iff {s t : String} : isNewer s t = true ↔
    ∃ a b, Version.parse? s = some a ∧ Version.parse? t = some b ∧ b.Before a := by
  unfold isNewer
  cases Version.parse? s with
  | none => simp
  | some a =>
    cases Version.parse? t with
    | none => simp
    | some b => simp [Version.compare_eq_gt_iff]

def Header.version? (content : String) : Option Version :=
  (Header.fields content).toOption.bind fun fields =>
    Version.parse? (Entry.textOf (fields.field? "version"))

/-- The second content has a later version than the first. -/
def Supersedes (old new : String) : Prop :=
  ∃ a b, Header.version? old = some a ∧ Header.version? new = some b ∧ a.Before b

theorem Supersedes.trans {c c' c'' : String} (h : Supersedes c c') (h' : Supersedes c' c'') : Supersedes c c'' := by
  obtain ⟨a, b, ha, hb, before⟩ := h
  obtain ⟨b', d, hb', hd, before'⟩ := h'
  obtain rfl : b = b' := Option.some.inj (hb.symm.trans hb')
  exact ⟨a, d, ha, hd, before.trans before'⟩

theorem Entry.eq_of_writtenText {v : Option Value} {s : String} (h : writtenText v = .ok s) : s = textOf v := by
  cases v with
  | none => exact (Except.ok.inj h).symm
  | some v =>
    obtain ⟨_, -, text⟩ := bind_eq_ok.1 h
    exact (Except.ok.inj text).symm

theorem Shelf.parse?_version {k : Key} {c : String} {e : Entry} (h : entryOf (k, c) = .ok e) :
    Version.parse? e.version = Header.version? c := by
  simp only [entryOf, Entry.ofContent, bind_eq_ok] at h
  obtain ⟨fields, read, version, text, _, -, _, -, _, -, _, -, _, -, made⟩ := h
  have whole := Except.ok.inj made
  subst whole
  rw [Entry.eq_of_writtenText text, Header.version?, read]
  rfl

namespace Plan

variable {p : Pair}

/-- What a verdict to replace content rests on, unless a backup is made. -/
def Newer (p : Pair) (v : Verdict) : Prop :=
  v.step = .update → v.flow ≠ .both ∧ ∃ source target, sides v.flow p = (some source, some target) ∧
    isNewer source.version target.version = true

theorem twoWay_newer (p : Pair) : Newer p (twoWay p) := by
  unfold twoWay Newer
  split
  · simp
  · simp
  · next here there =>
    split
    · simp
    · split
      · next newer => exact fun _ => ⟨by simp, here, there, rfl, newer⟩
      · split
        · next newer => exact fun _ => ⟨by simp, there, here, rfl, newer⟩
        · simp

theorem oneWay_newer {flow : Direction} {m : Mode} (way : flow ≠ .both) (mode : m ≠ .backup) (p : Pair) :
    Newer p (oneWay flow m p) := by
  unfold oneWay Newer
  dsimp only
  split
  · simp
  · split <;> simp
  · next source target both =>
    split
    · simp
    · rw [if_neg (by simpa using mode)]
      split
      · next newer => exact fun _ => ⟨way, source, target, both, newer⟩
      · split <;> simp

theorem verdict_newer {m : Mode} (mode : m ≠ .backup) (d : Direction) (p : Pair) : Newer p (verdict d m p) := by
  cases d with
  | push => exact oneWay_newer (by decide) mode p
  | pull => exact oneWay_newer (by decide) mode p
  | both => exact twoWay_newer p

end Plan

/-- Every element here and in the remote store kept its content, or content of a later version took its place.
-/
def Rises (before after : Source → Key → Option String) : Prop :=
  ∀ s, s ≠ .registry → ∀ k c, before s k = some c → ∃ c', after s k = some c' ∧ (c' = c ∨ Supersedes c c')

namespace Rises

variable {f g h : Source → Key → Option String}

theorem refl (f : Source → Key → Option String) : Rises f f := fun _ _ _ c held => ⟨c, held, .inl rfl⟩

theorem trans (hfg : Rises f g) (hgh : Rises g h) : Rises f h := by
  intro s hs k c held
  obtain ⟨c', held', first⟩ := hfg s hs k c held
  obtain ⟨c'', held'', second⟩ := hgh s hs k c' held'
  refine ⟨c'', held'', ?_⟩
  rcases first with rfl | first
  · exact second
  · rcases second with rfl | second
    · exact .inr first
    · exact .inr (first.trans second)

theorem congr {f' g' : Source → Key → Option String} (hfg : Rises f g)
    (hf : ∀ s, s ≠ .registry → ∀ k, f' s k = f s k) (hg : ∀ s, s ≠ .registry → ∀ k, g' s k = g s k) :
    Rises f' g' := by
  intro s hs k c held
  rw [hf s hs] at held
  rw [hg s hs]
  exact hfg s hs k c held

theorem version (hfg : Rises f g) {s : Source} (hs : s ≠ .registry) {k : Key} {c : String}
    (held : f s k = some c) {a : Version} (known : Header.version? c = some a) :
    ∃ c' b, g s k = some c' ∧ Header.version? c' = some b ∧ (b = a ∨ a.Before b) := by
  obtain ⟨c', held', rfl | ⟨a', b, old, new, before⟩⟩ := hfg s hs k c held
  · exact ⟨c', a, held', known, .inl rfl⟩
  · obtain rfl : a = a' := Option.some.inj (known.symm.trans old)
    exact ⟨c', b, held', new, .inr before⟩

end Rises

def Call.IsAdditive (c : Call) : Prop :=
  ∃ d dryRun force confirm, c = .sync d .additive dryRun force confirm

namespace Portfolio

open TriStore.Action

variable {p : Portfolio} {x x' : Source → Shelf} {i : PlanItem} {items done : List PlanItem}

def heldOn (x : Source → Shelf) (s : Source) (k : Key) : Option String := (x s).get? k

/-- An item finds nothing at its target, or content that its source supersedes; or it is not carried out. -/
inductive Lifts (x : Source → Shelf) (i : PlanItem) : Prop where
  | create (step : i.step ≠ .delete) (target : (x (endsOf i.flow).2).get? i.key = none)
  | update (step : i.step ≠ .delete) {c c' : String} (source : (x (endsOf i.flow).1).get? i.key = some c)
    (target : (x (endsOf i.flow).2).get? i.key = some c') (later : Supersedes c' c)
  | noted (skipped : i.step = .unchanged ∨ i.step = .conflict ∨ i.executable = false)

theorem Lifts.congr (h : Lifts x i) (same : ∀ s, (x' s).get? i.key = (x s).get? i.key) : Lifts x' i := by
  cases h with
  | create step target => exact .create step (by rw [same, target])
  | update step source target later =>
    exact .update step (by rw [same, source]) (by rw [same, target]) later
  | noted skipped => exact .noted skipped

theorem Lifts.of_carried (h : Lifts x i) (unchanged : i.step ≠ .unchanged) (conflict : i.step ≠ .conflict)
    (executable : i.executable = true) :
    i.step ≠ .delete ∧ ∀ c c', (x (endsOf i.flow).1).get? i.key = some c →
      (x (endsOf i.flow).2).get? i.key = some c' → Supersedes c' c := by
  cases h with
  | create step target =>
    refine ⟨step, fun c c' _ held => ?_⟩
    rw [target] at held
    cases held
  | update step source target later =>
    refine ⟨step, fun c c' there held => ?_⟩
    obtain rfl := Option.some.inj (source.symm.trans there)
    obtain rfl := Option.some.inj (target.symm.trans held)
    exact later
  | noted skipped =>
    rcases skipped with step | step | skipped
    · exact absurd step unchanged
    · exact absurd step conflict
    · rw [skipped] at executable
      cases executable

theorem rises_replace {t : Source} {y : Shelf} (h : ∀ k c, (x t).get? k = some c →
    ∃ c', y.get? k = some c' ∧ (c' = c ∨ Supersedes c c')) : Rises (heldOn x) (heldOn (replace x t y)) := by
  intro s _ k c held
  unfold heldOn at held ⊢
  by_cases store : s = t
  · subst store
    rw [replace_self]
    exact h k c held
  · rw [replace_ne x store]
    exact ⟨c, held, .inl rfl⟩

theorem carryOn_rises (identity : ∀ key c, p.validate key c = .ok c) (h : Lifts x i)
    (unchanged : i.step ≠ .unchanged) (conflict : i.step ≠ .conflict) (executable : i.executable = true) :
    Rises (heldOn x) (heldOn (replace x (endsOf i.flow).2 (p.carryOn x i).2)) := by
  obtain ⟨write, later⟩ := h.of_carried unchanged conflict executable
  refine rises_replace fun k c held => ?_
  obtain ⟨calls, ⟨e, fails⟩ | ⟨delete, -⟩ | ⟨new, -, content, puts⟩⟩ := p.carryOn_cases x i
  · rw [fails]
    exact ⟨c, held, .inl rfl⟩
  · exact absurd delete write
  · rw [puts]
    by_cases key : k = i.key
    · subst key
      have there := get?_of_contentOn identity content
      exact ⟨new, Shelf.get?_put_self _ _ _, .inr (later new c there held)⟩
    · exact ⟨c, (Shelf.get?_put_ne _ key new).trans held, .inl rfl⟩

theorem stepOn_rises (identity : ∀ key c, p.validate key c = .ok c) (h : Lifts x i)
    (unchanged : i.step ≠ .unchanged) : Rises (heldOn x) (heldOn (p.stepOn x i).2) := by
  obtain ⟨-, noted⟩ | ⟨-, -, noted⟩ | ⟨conflict, executable, carried⟩ := p.stepOn_cases x i
  · rw [noted]
    exact .refl _
  · rw [noted]
    exact .refl _
  · rw [carried]
    exact carryOn_rises identity h unchanged conflict executable

theorem get?_stepOn_ne (p : Portfolio) (x : Source → Shelf) {k : Key} (ne : k ≠ i.key) (s : Source) :
    ((p.stepOn x i).2 s).get? k = (x s).get? k := by
  obtain ⟨-, noted⟩ | ⟨-, -, noted⟩ | ⟨-, -, carried⟩ := p.stepOn_cases x i
  · rw [noted]
  · rw [noted]
  · rw [carried]
    exact get?_carryOn_ne p x i ne s

theorem applyAllOn_rises (identity : ∀ key c, p.validate key c = .ok c)
    (nodup : (items.map (·.key)).Nodup) (lifts : ∀ i ∈ items, Lifts x i) (front : done <+: items) :
    Rises (heldOn (p.applyAllOn done x).2) (heldOn (p.applyAllOn items x).2) := by
  induction items generalizing x done with
  | nil =>
    rw [prefix_nil.1 front]
    exact .refl _
  | cons i rest ih =>
    obtain ⟨fresh, nodup⟩ := nodup_cons.1 nodup
    have lifts' : ∀ j ∈ rest, Lifts x j := fun j hj => lifts j (.tail _ hj)
    -- The item leaves those after it as the plan found them.
    have others : ∀ j ∈ rest, Lifts (p.stepOn x i).2 j := by
      intro j hj
      have ne : j.key ≠ i.key := fun eq => fresh (mem_map.2 ⟨j, hj, eq⟩)
      exact (lifts' j hj).congr (p.get?_stepOn_ne x ne)
    rcases prefix_cons_iff.1 front with rfl | ⟨done', rfl, front'⟩
    · have start : ∀ x, (p.applyAllOn [] x).2 = x := fun _ => rfl
      rw [start, applyAllOn]
      split
      · exact ih nodup lifts' nil_prefix
      · next unchanged =>
        have first := stepOn_rises identity (lifts i (.head _)) (by simpa using unchanged)
        rcases stepped : p.stepOn x i with ⟨e | o, x₁⟩
        · rw [stepped] at first
          exact first
        · rw [stepped] at first others
          exact first.trans (ih nodup others nil_prefix)
    · rw [applyAllOn, applyAllOn]
      split
      · exact ih nodup lifts' front'
      · rcases stepped : p.stepOn x i with ⟨e | o, x₁⟩
        · exact .refl _
        · rw [stepped] at others
          exact ih nodup others front'

section Plans

variable {d : Direction} {plan : Plan} (tidy : ∀ s, s ≠ .registry → (x s).Tidy)
  (planned : planOn x d .additive = .ok plan)

include tidy planned

theorem supersedes_of_update (hi : i ∈ plan.items) (step : i.step = .update) :
    ∃ c c', (x (endsOf i.flow).1).get? i.key = some c ∧ (x (endsOf i.flow).2).get? i.key = some c' ∧
      Supersedes c' c := by
  obtain ⟨-, made⟩ := ((of_planOn tidy planned).2.mem_iff i).1 hi
  let v := Plan.verdict (Plan.effective d .additive) .additive (pairOn x i.key)
  have flow : v.flow = i.flow := by
    rw [made]
    rfl
  have updates : v.step = .update := by
    rw [← step, made]
    rfl
  obtain ⟨way, source, target, both, newer⟩ := Plan.verdict_newer (by decide) _ _ updates
  rw [flow] at way both
  obtain ⟨found, found'⟩ := Prod.mk.inj ((sides_pairOn way x i.key).symm.trans both)
  obtain ⟨c, held, entry⟩ := Shelf.get?_of_copy found
  obtain ⟨c', held', entry'⟩ := Shelf.get?_of_copy found'
  obtain ⟨a, b, new, old, before⟩ := isNewer_iff.1 newer
  exact ⟨c, c', held, held', b, a, (Shelf.parse?_version entry').symm.trans old,
    (Shelf.parse?_version entry).symm.trans new, before⟩

theorem lifts_of_planOn (hi : i ∈ plan.items) : Lifts x i := by
  cases premise_of_planOn planned tidy hi with
  | create step _ target => exact .create (by rw [step]; decide) target
  | update step _ _ _ _ =>
    obtain ⟨c, c', source, target, later⟩ := supersedes_of_update tidy planned hi step
    exact .update (by rw [step]; decide) source target later
  | delete _ _ _ _ mirror =>
    refine .noted (.inr (.inr ?_))
    cases executable : i.executable with
    | false => rfl
    | true => cases mirror executable
  | unchanged step => exact .noted (.inl step)
  | conflict step => exact .noted (.inr (.inl step))

end Plans

section Worlds

variable {w w' : World} {d : Direction} (shelved : w.Shelved (· ≠ .registry))
  (identity : ∀ key c, p.validate key c = .ok c)

include shelved identity

theorem stages_rise {made : Plan} (planned : (plan d .additive).ends w = (.ok made, w'))
    {done later : List PlanItem} (front : done <+: later) (part : later <+: made.items) :
    Rises ((p.applyAll done).ends w').2.held ((p.applyAll later).ends w').2.held := by
  obtain ⟨x, h, shelves⟩ := shelved.exists_agrees
  have tidy : ∀ s, s ≠ .registry → (x s).Tidy := fun s hs => (shelves s hs).2
  obtain ⟨w₁, listed, h₁⟩ := ends_plan (fun _ hs => hs) h d .additive
  obtain ⟨plannedOn, rfl⟩ := Prod.mk.inj (planned.symm.trans listed)
  have frame := plan_frame d .additive w
  rw [planned] at frame
  have keeps : KeepsUp p (fun _ _ _ => False) x w' := by
    refine .uncached (fun _ _ _ h => h) fun s hs => ?_
    rw [frame.cached s, (shelves s hs).1]
  obtain ⟨w₂, ended, h₂, -⟩ := ends_applyAll (fun _ hs => hs) done h₁ keeps
  obtain ⟨w₃, ended', h₃, -⟩ := ends_applyAll (fun _ hs => hs) later h₁ keeps
  have nodup : (later.map (·.key)).Nodup :=
    (of_planOn tidy plannedOn.symm).2.nodup.sublist (part.sublist.map _)
  have lifts : ∀ i ∈ later, Lifts x i := fun i hi =>
    lifts_of_planOn tidy plannedOn.symm (part.subset hi)
  rw [ended, ended']
  exact (applyAllOn_rises identity nodup lifts front).congr (fun s hs k => h₂.held hs k)
    fun s hs k => h₃.held hs k

theorem sync_rises (d : Direction) (dryRun force confirm : Bool) :
    Rises w.held ((p.sync d .additive dryRun force confirm).ends w).2.held := by
  refine sync_keeps (I := fun w' => Rises w.held w'.held) (fun frame h => ?_) (.refl _)
    (fun made w₁ planned => ?_) dryRun force confirm
  · exact h.congr (fun _ _ _ => rfl) fun s _ k => frame.held s k
  · have read := plan_frame d .additive w
    rw [planned] at read
    exact (stages_rise shelved identity planned nil_prefix prefix_rfl).congr
      (fun s _ k => (read.held s k).symm) fun _ _ _ => rfl

theorem run_rises {calls : List Call} (additive : ∀ c ∈ calls, c.IsAdditive) :
    Rises w.held (p.run calls w).held := by
  induction calls generalizing w with
  | nil => exact .refl _
  | cons c calls ih =>
    obtain ⟨d, dryRun, force, confirm, rfl⟩ := additive c (.head _)
    have first := sync_rises shelved identity d dryRun force confirm
    rw [← after_sync] at first
    exact first.trans (ih (shelved_after shelved trivial) fun c' hc' => additive c' (.tail _ hc'))

end Worlds

/-- Along every run of additive syncs between stores in memory, content is replaced only by content whose
header gives a later version: from each call to every later one, and within a sync from each item to every
later one. So the version of an element never falls. -/
theorem additive_syncs_rise {p : Portfolio} {w : World} (shelved : w.Shelved (· ≠ .registry))
    (identity : ∀ key c, p.validate key c = .ok c) {calls : List Call}
    (additive : ∀ c ∈ calls, c.IsAdditive) :
    (∀ front back, calls = front ++ back → Rises (p.run front w).held (p.run calls w).held) ∧
    (∀ d made w', (plan d .additive).ends (p.run calls w) = (.ok made, w') →
      ∀ done later, done <+: later → later <+: made.items →
        Rises ((p.applyAll done).ends w').2.held ((p.applyAll later).ends w').2.held) ∧
    ∀ front back, calls = front ++ back → ∀ s, s ≠ .registry → ∀ k c a,
      (p.run front w).held s k = some c → Header.version? c = some a →
        ∃ c' b, (p.run calls w).held s k = some c' ∧ Header.version? c' = some b ∧ (b = a ∨ a.Before b) := by
  have reached : ∀ calls, (∀ c ∈ calls, c.IsAdditive) → (p.run calls w).Shelved (· ≠ .registry) := by
    intro calls additive
    refine run_keeps (I := World.Shelved (· ≠ .registry)) (fun c hc w shelved => ?_) shelved
    obtain ⟨d, dryRun, force, confirm, rfl⟩ := additive c hc
    exact shelved_after shelved trivial
  have rises : ∀ front back, calls = front ++ back → Rises (p.run front w).held (p.run calls w).held := by
    rintro front back rfl
    rw [run_append]
    exact run_rises (reached front fun c hc => additive c (mem_append_left _ hc)) identity
      fun c hc => additive c (mem_append_right _ hc)
  refine ⟨rises, fun d made w' planned done later front part => ?_,
    fun front back split s hs k c a held known => ?_⟩
  · exact stages_rise (reached calls additive) identity planned front part
  · exact (rises front back split).version hs held known

def laterContent : String := "---\nversion: 1.10.0\n---\n"

def earlierContent : String := "---\nversion: 1.9.0\n---\n"

def outdatedShelves : Source → Shelf
  | .home => { source := .home, writable := true, contents := [(⟨.persona, "a"⟩, laterContent)] }
  | .remote => { source := .remote, writable := true, contents := [(⟨.persona, "a"⟩, earlierContent)] }
  | .registry => { source := .registry, writable := false }

def outdated : World := worldOn outdatedShelves

theorem outdated_shelved : outdated.Shelved (· ≠ .registry) :=
  worldOn_shelved fun s => by cases s <;> exact ⟨by decide, by decide⟩

theorem outdated_agrees : Agrees (· ≠ .registry) (fun _ _ _ => False) outdatedShelves outdated := worldOn_agrees ..

theorem outdated_planOn : ∃ plan, planOn outdatedShelves .both .additive = .ok plan ∧
    plan.items = [Plan.item .both .additive ⟨.persona, "a"⟩
      ⟨some (entryFor ⟨.persona, "a"⟩ laterContent), some (entryFor ⟨.persona, "a"⟩ earlierContent)⟩] := by
  obtain ⟨plan, planned, items⟩ := planOn_of_sorted (x := outdatedShelves) (d := .both) (m := .additive)
    (entries_of_sorted (by decide) rfl (by decide +kernel)) (entries_of_sorted (by decide) rfl (by decide +kernel))
    (k := [⟨.persona, "a"⟩]) (by decide +kernel) (by decide) (by decide +kernel)
  have plain : (entryFor ⟨.persona, "a"⟩ laterContent).localOnly = false := by decide +kernel
  have here : (entryFor ⟨.persona, "a"⟩ laterContent).key = ⟨.persona, "a"⟩ := by decide +kernel
  have there : (entryFor ⟨.persona, "a"⟩ earlierContent).key = ⟨.persona, "a"⟩ := by decide +kernel
  exact ⟨plan, planned, by simp [items, outdatedShelves, Plan.isPrivate, Plan.lastWith, here, there, plain, Plan.effective]⟩

/-- A sync both ways puts the later of two copies in the place of the other one. -/
theorem additive_syncs_rise_outdated : outdated.held .remote ⟨.persona, "a"⟩ = some earlierContent ∧
      (run { home := default } [.sync .both .additive false false false] outdated).held .remote
        ⟨.persona, "a"⟩ = some laterContent ∧
      Rises outdated.held
        (run { home := default } [.sync .both .additive false false false] outdated).held := by
  refine ⟨by decide, ?_, ?_⟩
  · obtain ⟨plan, planned, items⟩ := outdated_planOn
    have written : ((applyAllOn { home := default } plan.items outdatedShelves).2 .remote).get?
        ⟨.persona, "a"⟩ = some laterContent := by
      rw [items]
      decide +kernel
    have mode : plan.mode = .additive := by
      obtain ⟨here, there, -, -, rfl⟩ := planOn_eq_ok planned
      rfl
    have admitted : checkBulk {} (Plan.effective .both .additive) = .ok () := rfl
    obtain ⟨w', ended, h, -⟩ := ends_sync (p := { home := default }) (fun _ hs => hs) outdated_agrees
      (outdated_shelved.coherent (fun _ hs => hs) _) .both .additive false false false
    rw [run_cons, run_nil, after_sync, ended, h.held (by decide)]
    simpa [syncOn, admitted, planned, ok_bind, needsConfirmation, mode] using written
  · refine (additive_syncs_rise outdated_shelved (fun _ _ => rfl) fun c hc => ?_).1 [] _ rfl
    exact ⟨.both, false, false, false, mem_singleton.1 hc⟩

end Portfolio

end TriStore
