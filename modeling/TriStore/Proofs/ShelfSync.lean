import TriStore.Proofs.Invalidation

/-!
A sync between stores in memory as a function of their shelves, and that it does what the function says.
-/
namespace TriStore.Portfolio
open TriStore.Shelf

open TriStore.Action

def passed (p : Portfolio) (i : PlanItem) (content : String) : Except Failure String :=
  if i.flow == .pull then p.validate i.key content
  else if p.settings.sync.scanForSecrets && !(findSecrets content).isEmpty then
    .error (.rejected ("potential secret detected in " ++ i.key.label))
  else .ok content

def contentOn (p : Portfolio) (x : Source → Shelf) (i : PlanItem) : Except Failure String := do
  p.passed i (← (x (endsOf i.flow).1).content i.key)

/-- How carrying out an item ends, and what it makes of the shelf it writes to. -/
def carryOn (p : Portfolio) (x : Source → Shelf) (i : PlanItem) : Except Failure Unit × Shelf :=
  let target := x (endsOf i.flow).2
  if i.step == .delete then target.delete i.key
  else match p.contentOn x i with
    | .error e => (.error e, target)
    | .ok content =>
      let written := target.write i.key content (if i.step == .update then expectedOf i else none)
      (written.1.map fun _ => (), written.2)

def outcomeOf (i : PlanItem) : Except Failure Unit → Except Failure Outcome
  | .ok _ => .ok ⟨i, .applied, i.reason⟩
  | .error (.conflict _ reason) => .ok ⟨i, .conflict, reason⟩
  | .error e => if !e.isRecoverable then .error e else .ok ⟨i, .failed, e.message⟩

/-- What is noted of an item that is not unchanged, and the shelves after it. -/
def stepOn (p : Portfolio) (x : Source → Shelf) (i : PlanItem) : Except Failure Outcome × (Source → Shelf) :=
  if i.step == .conflict then (.ok ⟨i, .conflict, i.reason⟩, x)
  else if !i.executable then (.ok ⟨i, .skipped, i.reason⟩, x)
  else (outcomeOf i (p.carryOn x i).1, replace x (endsOf i.flow).2 (p.carryOn x i).2)

def applyAllOn (p : Portfolio) : List PlanItem → (Source → Shelf) → Except Failure (List Outcome) × (Source → Shelf)
  | [], x => (.ok [], x)
  | i :: rest, x =>
    if i.step == .unchanged then applyAllOn p rest x
    else match p.stepOn x i with
      | (.error e, x) => (.error e, x)
      | (.ok outcome, x) =>
        let later := applyAllOn p rest x
        (later.1.map (outcome :: ·), later.2)

def planOn (x : Source → Shelf) (d : Direction) (m : Mode) : Except Failure Plan := do
  let here ← (x .home).entries none
  let there ← (x .remote).entries none
  Plan.make here there d m

def syncOn (p : Portfolio) (x : Source → Shelf) (d : Direction) (m : Mode)
    (dryRun force confirm : Bool) : Except Failure SyncResult × (Source → Shelf) :=
  if dryRun then ((planOn x d m).map .planned, x)
  else match (do checkBulk p.settings.sync (Plan.effective d m); planOn x d m) with
    | .error e => (.error e, x)
    | .ok plan =>
      if needsConfirmation plan force confirm then
        (.ok (.finished { plan, requiresConfirmation := true }), x)
      else
        let done := p.applyAllOn plan.items x
        (done.1.map fun outcomes => .finished { plan, outcomes }, done.2)

/-- Why writes here and to the remote store leave no cache behind: no listing of the two is kept and no search
is to be answered, or a write drops the hits kept for its store, and validated content can still be encoded.
-/
inductive Coherent (p : Portfolio) (K : Source → String → Option Kind → Prop) (w : World) : Prop where
  | uncached (none : ∀ s query kind, ¬K s query kind)
    (cached : ∀ s, s ≠ .registry → (w.store s).cached = false)
  | dropping (drops : p.dropsResults = true)
    (validate : ∀ key c c', Digest.Encodes c → p.validate key c = .ok c' → Digest.Encodes c')

/-- The same while a plan is carried out; in the second case all contents can be encoded, so that a failed
write changes nothing. -/
inductive KeepsUp (p : Portfolio) (K : Source → String → Option Kind → Prop) (x : Source → Shelf)
    (w : World) : Prop where
  | uncached (none : ∀ s query kind, ¬K s query kind)
    (cached : ∀ s, s ≠ .registry → (w.store s).cached = false)
  | encodes (drops : p.dropsResults = true)
    (validate : ∀ key c c', Digest.Encodes c → p.validate key c = .ok c' → Digest.Encodes c')
    (contents : ∀ s, s ≠ .registry → ∀ kc ∈ (x s).contents, Digest.Encodes kc.2)

variable {D : Source → Prop} {K : Source → String → Option Kind → Prop} {x : Source → Shelf}
  {w : World} {p : Portfolio} {i : PlanItem} {s : Source}

theorem Coherent.mono (h : Coherent p K w) {w' : World}
    (cached : ∀ s, (w'.store s).cached = (w.store s).cached) : Coherent p K w' := by
  cases h with
  | uncached none free => exact .uncached none fun s hs => (cached s).trans (free s hs)
  | dropping drops validate => exact .dropping drops validate

theorem Coherent.keepsUp (h : Coherent p K w)
    (contents : ∀ s, s ≠ .registry → ∀ kc ∈ (x s).contents, Digest.Encodes kc.2) : KeepsUp p K x w := by
  cases h with
  | uncached none free => exact .uncached none free
  | dropping drops validate => exact .encodes drops validate contents

theorem Coherent.drops (h : Coherent p K w) : p.dropsResults = true ∨ ∀ t q k, ¬K t q k := by
  cases h with
  | uncached none _ => exact .inr none
  | dropping drops _ => exact .inl drops

theorem endsOf_ne_registry (d : Direction) : (endsOf d).1 ≠ .registry ∧ (endsOf d).2 ≠ .registry := by
  cases d <;> simp [endsOf]

theorem eq_of_passed (identity : ∀ key c, p.validate key c = .ok c) {c c' : String}
    (h : p.passed i c = .ok c') : c = c' := by
  unfold passed at h
  split at h
  · exact Except.ok.inj ((identity _ _).symm.trans h)
  · split at h
    · cases h
    · exact Except.ok.inj h

theorem get?_of_contentOn (identity : ∀ key c, p.validate key c = .ok c) {c : String}
    (h : p.contentOn x i = .ok c) : (x (endsOf i.flow).1).get? i.key = some c := by
  obtain ⟨c₀, fetched, passed⟩ := bind_eq_ok.1 h
  exact eq_of_passed identity passed ▸ (content_eq_ok_iff.1 fetched).2

theorem ends_contentFor (hD : ∀ s, s ≠ .registry → D s) (h : Agrees D K x w) (p : Portfolio) (i : PlanItem) :
    ∃ w', (p.contentFor i).ends w = (p.contentOn x i, w') ∧ World.Steady w w' ∧ Agrees D K x w' := by
  obtain ⟨w', fetched, steady, h'⟩ := h.ends_fetch (hD _ (endsOf_ne_registry i.flow).1) i.key
  refine ⟨w', ?_, steady, h'⟩
  rw [contentFor, ends_bind, fetched, contentOn]
  cases (x (endsOf i.flow).1).content i.key with
  | error e => rfl
  | ok content =>
    rw [ok_bind, passed]
    dsimp only
    split
    · exact ends_liftExcept _ _
    · split <;> rfl

theorem encodes_contentOn (validate : ∀ key c c', Digest.Encodes c → p.validate key c = .ok c' → Digest.Encodes c')
    (contents : ∀ s, s ≠ .registry → ∀ kc ∈ (x s).contents, Digest.Encodes kc.2) {content : String}
    (h : p.contentOn x i = .ok content) : Digest.Encodes content := by
  simp only [contentOn, bind_eq_ok] at h
  obtain ⟨c, fetched, checked⟩ := h
  have encodes : Digest.Encodes c :=
    contents _ (endsOf_ne_registry i.flow).1 _ (mem_of_get? (content_eq_ok_iff.1 fetched).2)
  unfold passed at checked
  split at checked
  · exact validate i.key c content encodes checked
  · split at checked
    · cases checked
    · exact Except.ok.inj checked ▸ encodes

theorem ends_carryOut (hD : ∀ s, s ≠ .registry → D s) (h : Agrees D K x w) (keeps : KeepsUp p K x w)
    (i : PlanItem) : ∃ w', (p.carryOut i).ends w = ((p.carryOn x i).1, w') ∧ World.Steady w w' ∧
      (∀ e, (p.carryOn x i).1 = .error e → Agrees D K (replace x (endsOf i.flow).2 (p.carryOn x i).2) w') ∧
      ((p.carryOn x i).1 = .ok () → Agrees D (fun t q k => t ≠ (endsOf i.flow).2 ∧ K t q k)
        (replace x (endsOf i.flow).2 (p.carryOn x i).2) w') := by
  have target := (endsOf_ne_registry i.flow).2
  unfold carryOut carryOn
  split
  · obtain ⟨w', ended, steady, failed, done⟩ := h.ends_delete (hD _ target) i.key (expectedOf i)
    exact ⟨w', ended, steady, failed, done ()⟩
  · obtain ⟨w₁, found, steady₁, h₁⟩ := ends_contentFor hD h p i
    cases content : p.contentOn x i with
    | error e =>
      rw [content] at found
      refine ⟨w₁, ends_bind_of_error found _, steady₁, fun _ _ => h₁.congr fun s => ?_, nofun⟩
      by_cases eq : s = (endsOf i.flow).2
      · rw [eq, replace_self]
      · rw [replace_ne x eq]
    | ok c =>
      rw [content] at found
      have safe : ((∀ t q k, ¬K t q k) ∧ (w₁.store (endsOf i.flow).2).cached = false) ∨ Digest.Encodes c := by
        cases keeps with
        | uncached none cached => exact .inl ⟨none, (steady₁.cached _).trans (cached _ target)⟩
        | encodes drops validate contents => exact .inr (encodes_contentOn validate contents content)
      obtain ⟨w₂, ended, steady₂, failed, done⟩ := h₁.ends_write (hD _ target) i.key
        (if i.step == .update then expectedOf i else none) safe
      refine ⟨w₂, ?_, steady₁.trans steady₂, fun e error => failed e (map_eq_error.1 error), fun ok => ?_⟩
      · rw [ends_bind_of_ok found, ends_bind, ended]
        dsimp only
        cases ((x (endsOf i.flow).2).write i.key c _).1 <;> rfl
      · obtain ⟨v, written⟩ := map_eq_ok.1 ok
        exact done v written

theorem ends_written (h : Agrees D (fun t q k => t ≠ s ∧ K t q k) x w)
    (drops : p.dropsResults = true ∨ ∀ t q k, ¬K t q k) (idle : (∃ t q k, K t q k) → w.running = []) :
    ∃ w', (p.written s).ends w = (.ok (), w') ∧ Agrees D K x w' := by
  unfold written
  split
  · obtain ⟨n, w', ended, h'⟩ := h.ends_forgetAll p idle
    exact ⟨w', ends_bind_of_ok ended _, h'⟩
  · next kept =>
    have none := drops.resolve_left kept
    exact ⟨w, rfl, h.weaken fun t q k hk => absurd hk (none t q k)⟩

theorem carryOn_cases (p : Portfolio) (x : Source → Shelf) (i : PlanItem) :
    ∃ calls, (∃ e, p.carryOn x i = (.error e, { x (endsOf i.flow).2 with calls })) ∨ i.step = .delete ∧
        p.carryOn x i = (.ok (), { (x (endsOf i.flow).2).erase i.key with calls }) ∨
      ∃ c, i.step ≠ .delete ∧ p.contentOn x i = .ok c ∧ p.carryOn x i = ((Digest.blob c).map fun _ => (),
          { (x (endsOf i.flow).2).put i.key c with calls }) := by
  unfold carryOn
  split
  · next step =>
    obtain ⟨calls, ⟨e, fails⟩ | ⟨-, -, erases⟩⟩ := (x (endsOf i.flow).2).delete_cases i.key
    · exact ⟨calls, .inl ⟨e, fails⟩⟩
    · exact ⟨calls, .inr (.inl ⟨by simpa using step, erases⟩)⟩
  · next step =>
    cases p.contentOn x i with
    | error e => exact ⟨(x (endsOf i.flow).2).calls, .inl ⟨e, rfl⟩⟩
    | ok c =>
      obtain ⟨calls, ⟨e, fails⟩ | ⟨-, -, -, puts⟩⟩ := (x (endsOf i.flow).2).write_cases i.key c
        (if i.step == .update then expectedOf i else none)
      · exact ⟨calls, .inl ⟨e, by dsimp only; rw [fails]; rfl⟩⟩
      · refine ⟨calls, .inr (.inr ⟨c, by simpa using step, rfl, ?_⟩)⟩
        dsimp only
        rw [puts]
        cases Digest.blob c <;> rfl

theorem stepOn_cases (p : Portfolio) (x : Source → Shelf) (i : PlanItem) :
    i.step = .conflict ∧ p.stepOn x i = (.ok ⟨i, .conflict, i.reason⟩, x) ∨
      i.step ≠ .conflict ∧ i.executable = false ∧ p.stepOn x i = (.ok ⟨i, .skipped, i.reason⟩, x) ∨
      i.step ≠ .conflict ∧ i.executable = true ∧ p.stepOn x i =
        (outcomeOf i (p.carryOn x i).1, replace x (endsOf i.flow).2 (p.carryOn x i).2) := by
  unfold stepOn
  by_cases conflict : i.step = .conflict
  · exact .inl ⟨conflict, by simp [conflict]⟩
  · cases executable : i.executable with
    | false => exact .inr (.inl ⟨conflict, rfl, by simp [conflict]⟩)
    | true => exact .inr (.inr ⟨conflict, rfl, by simp [conflict]⟩)

theorem applyAllOn_keeps {R : (Source → Shelf) → (Source → Shelf) → Prop} [Std.Refl R] [Trans R R R]
    {items : List PlanItem} (step : ∀ i ∈ items, i.executable = true → ∀ x,
      R x (replace x (endsOf i.flow).2 (p.carryOn x i).2)) (x : Source → Shelf) :
    R x (p.applyAllOn items x).2 := by
  induction items generalizing x with
  | nil => exact Std.Refl.refl x
  | cons i rest ih =>
    have later := ih fun j hj => step j (.tail _ hj)
    have first : R x (p.stepOn x i).2 := by
      obtain ⟨-, noted⟩ | ⟨-, -, noted⟩ | ⟨-, executable, carried⟩ := p.stepOn_cases x i
      · rw [noted]
        exact Std.Refl.refl x
      · rw [noted]
        exact Std.Refl.refl x
      · rw [carried]
        exact step i (.head _) executable x
    unfold applyAllOn
    split
    · exact later x
    · rcases stepped : p.stepOn x i with ⟨e | o, x'⟩
      · rw [stepped] at first
        exact first
      · rw [stepped] at first
        exact Trans.trans first (later x')

theorem encodes_carryOn (validate : ∀ key c c', Digest.Encodes c → p.validate key c = .ok c' → Digest.Encodes c')
    (contents : ∀ s, s ≠ .registry → ∀ kc ∈ (x s).contents, Digest.Encodes kc.2) (i : PlanItem) :
    ∀ kc ∈ (p.carryOn x i).2.contents, Digest.Encodes kc.2 := by
  have old := contents _ (endsOf_ne_registry i.flow).2
  obtain ⟨calls, ⟨e, fails⟩ | ⟨-, erases⟩ | ⟨c, -, content, puts⟩⟩ := p.carryOn_cases x i
  · rw [fails]
    exact old
  · rw [erases]
    exact fun kc hkc => old kc (List.mem_filter.1 hkc).1
  · rw [puts]
    intro kc hkc
    rcases mem_putIn hkc with rfl | hkc
    · exact encodes_contentOn validate contents content
    · exact old kc hkc

theorem KeepsUp.carryOn (keeps : KeepsUp p K x w) {w' : World}
    (cached : ∀ s, (w'.store s).cached = (w.store s).cached) (i : PlanItem) :
    KeepsUp p K (replace x (endsOf i.flow).2 (p.carryOn x i).2) w' := by
  cases keeps with
  | uncached none free => exact .uncached none fun s hs => (cached s).trans (free s hs)
  | encodes drops validate contents =>
    refine .encodes drops validate fun s hs => ?_
    by_cases eq : s = (endsOf i.flow).2
    · rw [eq, replace_self]
      exact encodes_carryOn validate contents i
    · rw [replace_ne x eq]
      exact contents s hs

theorem ends_apply (hD : ∀ s, s ≠ .registry → D s) (h : Agrees D K x w) (keeps : KeepsUp p K x w)
    (i : PlanItem) : ∃ w', (p.apply i).ends w = (outcomeOf i (p.carryOn x i).1, w') ∧
      Agrees D K (replace x (endsOf i.flow).2 (p.carryOn x i).2) w' ∧
      ∀ s, (w'.store s).cached = (w.store s).cached := by
  obtain ⟨w₁, ended, steady, failed, done⟩ := ends_carryOut hD h keeps i
  have attempted : (attempt (p.carryOut i)).ends w = (.ok (p.carryOn x i).1, w₁) := by
    rw [ends_attempt, ended]
  rw [apply, ends_bind_of_ok attempted]
  cases result : (p.carryOn x i).1 with
  | ok _ =>
    have drops : p.dropsResults = true ∨ ∀ t q k, ¬K t q k := by
      cases keeps with
      | uncached none _ => exact .inr none
      | encodes drops _ _ => exact .inl drops
    have frame := written_frame p (endsOf i.flow).2 w₁
    obtain ⟨w₂, written, h₂⟩ := ends_written (done result) drops fun some =>
      steady.running.trans (h.idle some)
    rw [written] at frame
    refine ⟨w₂, ?_, h₂, fun s => (frame.cached s).trans (steady.cached s)⟩
    rw [ends_bind_of_ok written]
    rfl
  | error e =>
    have h₁ := failed e result
    have other : ∃ w', Action.ends (do
        if !e.isRecoverable then throw e
        report ("Failed to " ++ i.step.label ++ " " ++ i.key.label ++ ": " ++ e.message)
        return (⟨i, .failed, e.message⟩ : Outcome)) w₁ =
          (if !e.isRecoverable then .error e else .ok ⟨i, .failed, e.message⟩, w') ∧
        Agrees D K (replace x (endsOf i.flow).2 (p.carryOn x i).2) w' ∧
        ∀ s, (w'.store s).cached = (w.store s).cached := by
      split
      · exact ⟨w₁, rfl, h₁, steady.cached⟩
      · have settles := report_settles
          ("Failed to " ++ i.step.label ++ " " ++ i.key.label ++ ": " ++ e.message) w₁
        exact ⟨_, rfl, h₁.settles settles, (steady.trans (.of_settles settles)).cached⟩
    cases e with
    | conflict k reason =>
      have settles := warn_settles ("Conflict on " ++ i.key.label ++ ": " ++ reason) w₁
      exact ⟨_, rfl, h₁.settles settles, (steady.trans (.of_settles settles)).cached⟩
    | _ => exact other

theorem ends_applyAll (hD : ∀ s, s ≠ .registry → D s) (items : List PlanItem) (h : Agrees D K x w)
    (keeps : KeepsUp p K x w) : ∃ w', (p.applyAll items).ends w = ((p.applyAllOn items x).1, w') ∧
      Agrees D K (p.applyAllOn items x).2 w' ∧ ∀ s, (w'.store s).cached = (w.store s).cached := by
  induction items generalizing x w with
  | nil => exact ⟨w, rfl, h, fun _ => rfl⟩
  | cons i rest ih =>
    have later : ∀ (outcome : Outcome) {x : Source → Shelf} {w : World}, Agrees D K x w → KeepsUp p K x w → ∃ w',
          ends (do return outcome :: (← p.applyAll rest)) w = ((p.applyAllOn rest x).1.map (outcome :: ·), w') ∧
          Agrees D K (p.applyAllOn rest x).2 w' ∧
          ∀ s, (w'.store s).cached = (w.store s).cached := by
      intro outcome x w h keeps
      obtain ⟨w', ended, h'⟩ := ih h keeps
      refine ⟨w', ?_, h'⟩
      rw [ends_bind, ended]
      cases (p.applyAllOn rest x).1 <;> rfl
    unfold applyAll applyAllOn stepOn
    split
    · exact ih h keeps
    · by_cases conflict : (i.step == .conflict) = true
      · rw [if_pos conflict, if_pos conflict]
        exact later _ h keeps
      · rw [if_neg conflict, if_neg conflict]
        by_cases skipped : (!i.executable) = true
        · rw [if_pos skipped, if_pos skipped]
          exact later _ h keeps
        · rw [if_neg skipped, if_neg skipped]
          obtain ⟨w₁, applied, h₁, cached⟩ := ends_apply hD h keeps i
          cases outcome : outcomeOf i (p.carryOn x i).1 with
          | error e =>
            rw [outcome] at applied
            exact ⟨w₁, ends_bind_of_error applied _, h₁, cached⟩
          | ok o =>
            rw [outcome] at applied
            rw [ends_bind_of_ok applied]
            obtain ⟨w₂, ended, h₂, cached₂⟩ := later o h₁ (keeps.carryOn cached i)
            exact ⟨w₂, ended, h₂, fun s => (cached₂ s).trans (cached s)⟩

theorem ends_plan (hD : ∀ s, s ≠ .registry → D s) (h : Agrees D K x w) (d : Direction) (m : Mode) :
    ∃ w', (plan d m).ends w = (planOn x d m, w') ∧ Agrees D K x w' := by
  obtain ⟨w₁, here, h₁, -⟩ := h.ends_listEntries (hD .home (by decide)) none
  obtain ⟨w₂, there, h₂, -⟩ := h₁.ends_listEntries (hD .remote (by decide)) none
  obtain ⟨w₃, warned, settles⟩ := ends_warnAll (Plan.directionWarning d m) w₂
  rw [plan, ends_bind, here, planOn]
  cases (x .home).entries none with
  | error e => exact ⟨w₁, rfl, h₁⟩
  | ok es =>
    rw [ok_bind]
    dsimp only
    rw [ends_bind, there]
    cases (x .remote).entries none with
    | error e => exact ⟨w₂, rfl, h₂⟩
    | ok es' =>
      rw [ok_bind]
      dsimp only
      rw [ends_bind_of_ok warned, ends_liftExcept]
      exact ⟨w₃, rfl, h₂.settles settles⟩

theorem encodes_of_entries {y : Shelf} {es : List Entry} (h : y.entries none = .ok es) :
    ∀ kc ∈ y.contents, Digest.Encodes kc.2 := by
  intro kc hkc
  obtain ⟨-, there, -⟩ := entries_eq_ok h
  obtain ⟨e, -, made⟩ := there kc hkc rfl
  obtain ⟨-, ⟨b, hb, -⟩, -⟩ := entryOf_eq_ok made
  exact Digest.blob_eq_ok_iff.1 ⟨b, hb⟩

theorem planOn_eq_ok {d : Direction} {m : Mode} {plan : Plan} (h : planOn x d m = .ok plan) :
    ∃ here there, (x .home).entries none = .ok here ∧ (x .remote).entries none = .ok there ∧
      plan = Plan.build here there d m := by
  simp only [planOn, bind_eq_ok] at h
  obtain ⟨here, hhere, there, hthere, made⟩ := h
  exact ⟨here, there, hhere, hthere, (Plan.make_eq_ok_iff.1 made).2.symm⟩

theorem ends_sync (hD : ∀ s, s ≠ .registry → D s) (h : Agrees D K x w) (coherent : Coherent p K w)
    (d : Direction) (m : Mode) (dryRun force confirm : Bool) :
    ∃ w', (p.sync d m dryRun force confirm).ends w = ((p.syncOn x d m dryRun force confirm).1, w') ∧
      Agrees D K (p.syncOn x d m dryRun force confirm).2 w' ∧
      ∀ s, (w'.store s).cached = (w.store s).cached := by
  obtain ⟨w₁, planned, h₁⟩ := ends_plan hD h d m
  have frame := plan_frame d m w
  rw [planned] at frame
  unfold sync syncOn
  cases dryRun with
  | true =>
    refine ⟨w₁, ?_, h₁, frame.cached⟩
    simp only [Bool.not_true, Bool.false_eq_true, if_false, if_true]
    rw [ends_bind, planned]
    cases planOn x d m <;> rfl
  | false =>
    simp only [Bool.not_false, Bool.false_eq_true, if_false, if_true]
    rw [ends_bind, ends_liftExcept]
    cases checkBulk p.settings.sync (Plan.effective d m) with
    | error e => exact ⟨w, rfl, h, fun _ => rfl⟩
    | ok _ =>
      rw [ok_bind]
      dsimp only
      rw [ends_bind, planned]
      cases made : planOn x d m with
      | error e => exact ⟨w₁, rfl, h₁, frame.cached⟩
      | ok plan =>
        dsimp only
        split
        · have settles := warn_settles ("Mirror sync would delete " ++
            Text.ofNat plan.deletions.length ++ " element(s); confirmation required") w₁
          exact ⟨_, rfl, h₁.settles settles, (frame.trans settles.frame).cached⟩
        · obtain ⟨here, there, hhere, hthere, -⟩ := planOn_eq_ok made
          have encodes : ∀ s, s ≠ .registry → ∀ kc ∈ (x s).contents, Digest.Encodes kc.2 := by
            intro s hs
            cases s with
            | home => exact encodes_of_entries hhere
            | remote => exact encodes_of_entries hthere
            | registry => exact absurd rfl hs
          obtain ⟨w₂, applied, h₂, cached⟩ :=
            ends_applyAll hD plan.items h₁ ((coherent.mono frame.cached).keepsUp encodes)
          refine ⟨w₂, ?_, h₂, fun s => (cached s).trans (frame.cached s)⟩
          rw [ends_bind, applied]
          cases (p.applyAllOn plan.items x).1 <;> rfl

end TriStore.Portfolio
