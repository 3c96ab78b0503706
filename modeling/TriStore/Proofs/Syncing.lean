import TriStore.Proofs.Offers
import TriStore.Proofs.ShelfSync

/-!
A sync item by item, whatever the stores rest on: what each item keeps for those after it, a sync keeps.
-/
namespace TriStore.Portfolio

variable {I : World → Prop} {items : List PlanItem} {d : Direction} {m : Mode}

open TriStore.Action
open World (Frame)

variable {p : Portfolio} {w w' : World}

theorem ends_contentFor_eq (p : Portfolio) (i : PlanItem) (w : World) :
    (p.contentFor i).ends w = (((fetch (endsOf i.flow).1 i.key).ends w).1 >>= p.passed i,
      ((fetch (endsOf i.flow).1 i.key).ends w).2) := by
  rw [contentFor, ends_bind]
  rcases (fetch (endsOf i.flow).1 i.key).ends w with ⟨e | content, w'⟩
  · rfl
  · rw [ok_bind, passed]
    dsimp only
    split
    · exact ends_liftExcept _ _
    · split <;> rfl

theorem exists_ends_forgetAll (p : Portfolio) (ss : List Source) (w : World) :
    ∃ n w', (p.forgetAll ss).ends w = (.ok n, w') := by
  induction ss generalizing w with
  | nil => exact ⟨0, w, rfl⟩
  | cons s rest ih =>
    rw [forgetAll, ends_bind_of_ok (ends_get w)]
    rw [ends_bind_of_ok (ends_set w _)]
    split
    · obtain ⟨n, w₁, dropped⟩ := exists_ends_dropListings s
        { w with results := (w.results.invalidatePrefix s.keyFront).2 }
      obtain ⟨m, w₂, later⟩ := ih w₁
      rw [ends_bind_of_ok dropped, ends_bind_of_ok later]
      exact ⟨_, _, rfl⟩
    · obtain ⟨m, w₂, later⟩ := ih { w with results := (w.results.invalidatePrefix s.keyFront).2 }
      rw [ends_bind_of_ok (ends_pure 0 _), ends_bind_of_ok later]
      exact ⟨_, _, rfl⟩

theorem exists_ends_written (p : Portfolio) (s : Source) (w : World) :
    ∃ w', (p.written s).ends w = (.ok (), w') := by
  unfold written
  split
  · obtain ⟨n, w', ended⟩ := p.exists_ends_forgetAll [s] w
    exact ⟨w', ends_bind_of_ok ended _⟩
  · exact ⟨w, rfl⟩

theorem carryOut_leads {i : PlanItem} (read : ∀ w', Frame w w' → I w')
    (delete : i.step = .delete → I ((delete (endsOf i.flow).2 i.key (expectedOf i)).ends w).2)
    (write : i.step ≠ .delete → ∀ content w₁, (p.contentFor i).ends w = (.ok content, w₁) → Frame w w₁ →
      ∀ expected, I ((write (endsOf i.flow).2 i.key content expected).ends w₁).2) :
    I ((p.carryOut i).ends w).2 := by
  have frame := p.contentFor_frame i w
  unfold carryOut
  split
  · next step => exact delete (by simpa using step)
  · next step =>
    rw [ends_bind]
    rcases got : (p.contentFor i).ends w with ⟨e | content, w₁⟩
    · rw [got] at frame
      exact read w₁ frame
    · rw [got] at frame
      rw [snd_ends_discard]
      exact write (by simpa using step) content w₁ got frame _

theorem apply_sends (p : Portfolio) (i : PlanItem) (w : World) :
    World.Sends (fun _ => True) w ((p.apply i).ends w).2 := by
  refine World.Sends.trans ?_ (p.apply_frame i w).sends
  refine carryOut_leads (fun w' frame => frame.sends)
    (fun _ => (delete_sends (endsOf i.flow).2 i.key (expectedOf i) w).1)
    fun _ content w₁ _ frame expected => ?_
  exact frame.sends.trans ((write_sends _ i.key content expected w₁).1.mono fun _ _ => trivial)

theorem fst_ends_apply (p : Portfolio) (i : PlanItem) (w : World) :
    ((p.apply i).ends w).1 = outcomeOf i ((p.carryOut i).ends w).1 := by
  rw [apply, ends_bind_of_ok (ends_attempt (p.carryOut i) w)]
  generalize ((p.carryOut i).ends w).2 = w₁
  cases ((p.carryOut i).ends w).1 with
  | ok u =>
    obtain ⟨w₂, written⟩ := p.exists_ends_written (endsOf i.flow).2 w₁
    rw [ends_bind_of_ok written]
    rfl
  | error e =>
    have other : (ends (do
        if !e.isRecoverable then throw e
        report ("Failed to " ++ i.step.label ++ " " ++ i.key.label ++ ": " ++ e.message)
        return (⟨i, .failed, e.message⟩ : Outcome)) w₁).1 =
        if !e.isRecoverable then .error e else .ok ⟨i, .failed, e.message⟩ := by
      split <;> rfl
    cases e with
    | conflict k reason => rfl
    | _ => exact other

theorem applyAll_keeps {I : List PlanItem → World → Prop} (skip : ∀ i rest w, I (i :: rest) w → I rest w)
    (step : ∀ i rest w, I (i :: rest) w → i.step ≠ .unchanged → i.step ≠ .conflict →
      I rest ((p.apply i).ends w).2) (h : I items w) : ∃ rest, I rest ((p.applyAll items).ends w).2 := by
  induction items generalizing w with
  | nil => exact ⟨[], h⟩
  | cons i rest ih =>
    -- Whatever is noted of this item, the rest starts from where it ended.
    have later : ∀ (outcome : Outcome) {w : World}, I rest w →
        ∃ rest', I rest' (ends (do return outcome :: (← p.applyAll rest)) w).2 := by
      intro outcome w h
      obtain ⟨rest', h'⟩ := ih h
      refine ⟨rest', ?_⟩
      rw [ends_bind]
      rcases ended : (p.applyAll rest).ends w with ⟨e | outcomes, w'⟩
      · rw [ended] at h'
        exact h'
      · rw [ended] at h'
        exact h'
    unfold applyAll
    split
    · exact ih (skip i rest w h)
    · next unchanged =>
      split
      · exact later _ (skip i rest w h)
      · next conflict =>
        split
        · exact later _ (skip i rest w h)
        · have next := step i rest w h (by simpa using unchanged) (by simpa using conflict)
          rw [ends_bind]
          rcases ended : (p.apply i).ends w with ⟨e | outcome, w'⟩
          · rw [ended] at next
            exact ⟨rest, next⟩
          · rw [ended] at next
            exact later outcome next

theorem applyAll_keeps_of_mem
    (step : ∀ i ∈ items, i.step ≠ .unchanged → i.step ≠ .conflict → ∀ w, I w → I ((p.apply i).ends w).2)
    (h : I w) : I ((p.applyAll items).ends w).2 := by
  have kept : ∃ rest, (∀ i ∈ rest, i ∈ items) ∧ I ((p.applyAll items).ends w).2 :=
    applyAll_keeps (I := fun rest w => (∀ i ∈ rest, i ∈ items) ∧ I w)
      (fun i rest w ⟨sub, h⟩ => ⟨fun j hj => sub j (.tail _ hj), h⟩)
      (fun i rest w ⟨sub, h⟩ unchanged conflict => ⟨fun j hj => sub j (.tail _ hj),
        step i (sub i (.head _)) unchanged conflict w h⟩)
      ⟨fun _ hi => hi, h⟩
  obtain ⟨-, -, h'⟩ := kept
  exact h'

theorem exists_of_plan {plan : Plan} (h : (Portfolio.plan d m).ends w = (.ok plan, w')) :
    ∃ here there w₁, (listEntries .home none).ends w = (.ok here, w₁) ∧ plan = Plan.build here there d m := by
  obtain ⟨here, w₁, listed, h⟩ := ends_bind_eq_ok.1 h
  obtain ⟨there, w₂, -, h⟩ := ends_bind_eq_ok.1 h
  obtain ⟨-, w₃, -, h⟩ := ends_bind_eq_ok.1 h
  rw [ends_liftExcept] at h
  exact ⟨here, there, w₁, listed, (Plan.make_eq_ok_iff.1 (Prod.mk.inj h).1).2.symm⟩

theorem sync_keeps (frame : ∀ {w w'}, Frame w w' → I w → I w') (h : I w)
    (planned : ∀ plan w₁, (Portfolio.plan d m).ends w = (.ok plan, w₁) → I ((p.applyAll plan.items).ends w₁).2)
    (dryRun force confirm : Bool) : I ((p.sync d m dryRun force confirm).ends w).2 := by
  have read := plan_frame d m w
  have rest : I (ends (do
      let plan ← Portfolio.plan d m
      if dryRun then return SyncResult.planned plan
      if needsConfirmation plan force confirm then
        Action.warn ("Mirror sync would delete " ++ Text.ofNat plan.deletions.length ++
          " element(s); confirmation required")
        return .finished { plan, requiresConfirmation := true }
      return .finished { plan, outcomes := ← p.applyAll plan.items }) w).2 := by
    rw [ends_bind]
    rcases made : (Portfolio.plan d m).ends w with ⟨e | plan, w₁⟩
    · rw [made] at read
      exact frame read h
    · rw [made] at read
      dsimp only
      split
      · exact frame read h
      · split
        · exact frame (read.trans ((warn_frame _).bind (fun _ => Moves.pure _) w₁)) h
        · have done := planned plan w₁ made
          rw [ends_bind]
          rcases applied : (p.applyAll plan.items).ends w₁ with ⟨e | outcomes, w₂⟩
          · rw [applied] at done
            exact done
          · rw [applied] at done
            exact done
  unfold sync
  cases dryRun with
  | true => exact rest
  | false =>
    simp only [Bool.not_false, if_true]
    cases checkBulk p.settings.sync (Plan.effective d m) with
    | error e => exact h
    | ok _ => exact rest

end TriStore.Portfolio
