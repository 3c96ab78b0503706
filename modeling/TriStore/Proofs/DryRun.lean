import TriStore.Proofs.Convergence
import TriStore.Proofs.ItemIsolation
import TriStore.Proofs.MemoryStores
import TriStore.Proofs.PlanCoverage

/-!
A dry run changes no store and leaves true listings in the caches, so the sync after it makes the same plan.
-/
namespace TriStore
open List TriStore.Shelf Digest

theorem Shelf.isNoted_of_checkWrite {y : Shelf} {key : Key} {expected : Option Value} {e : Failure}
    (encodes : ∀ kc ∈ y.contents, Digest.Encodes kc.2) (h : y.checkWrite key expected = .error e) :
    e.isNoted = true := by
  unfold checkWrite at h
  split at h
  · cases h
  · obtain rfl := Except.error.inj h
    rfl
  · next c r found =>
    obtain ⟨b, stored⟩ := blob_eq_ok_iff.2 (encodes _ (mem_of_get? found))
    rw [stored, ok_bind] at h
    split at h
    · obtain rfl := Except.error.inj h
      rfl
    · cases h

namespace Portfolio

open TriStore.Action
open World (Frame)

/-- What the plan says came true: a conflict is told, a deletion not to be carried out is skipped, and a write
is tried. -/
structure Foretold (i : PlanItem) (o : Outcome) : Prop where
  item : o.item = i
  status : i.step = .conflict ∧ o.status = .conflict ∨
    i.step = .delete ∧ i.executable = false ∧ o.status = .skipped ∨
    i.isWrite = true ∧ o.status ≠ .skipped

/-- What ends a sync between shelves that answer: a store that cannot be written to, or a check that fails
unnoted or gives what cannot be encoded. -/
inductive Spoils (p : Portfolio) (x : Source → Shelf) : Failure → Prop where
  | readOnly {s : Source} (named : s ≠ .registry) (closed : (x s).writable = false) :
    Spoils p x (.readOnly (x s).source)
  | unchecked {key : Key} {c : String} {e : Failure} (failed : p.validate key c = .error e)
    (unnoted : e.isNoted = false) : Spoils p x e
  | unencodable {key : Key} {c c' : String} (checked : p.validate key c = .ok c')
    (lost : ¬Digest.Encodes c') : Spoils p x .unencodable

/-- How a sync ends after a dry run with this plan: it asks for a confirmation of deletions, or reports what
was foretold, or fails. -/
inductive Follows (p : Portfolio) (x : Source → Shelf) (plan : Plan) (asks : Prop) (w : World)
    (ended : Except Failure SyncResult × World) : Prop where
  | asked (needed : asks) (result : ended.1 = .ok (.finished { plan, requiresConfirmation := true }))
    (same : Frame w ended.2)
  | acted (free : ¬asks) (outcomes : List Outcome) (result : ended.1 = .ok (.finished { plan, outcomes }))
    (foretold : List.Forall₂ Foretold (plan.items.filter (·.step != .unchanged)) outcomes)
  | spoilt (free : ¬asks) (e : Failure) (result : ended.1 = .error e) (spoils : Spoils p x e)

variable {p : Portfolio} {D : Source → Prop} {x y : Source → Shelf} {w : World} {i : PlanItem} {e : Failure}
  {items : List PlanItem} {d : Direction} {m : Mode}

section Outcomes

theorem noted_of_mem_items {here there : List Entry} (hi : i ∈ (Plan.build here there d m).items)
    (held : i.executable = false) : i.step = .conflict ∨ i.step = .delete := by
  obtain ⟨k, -, rfl⟩ := mem_map.1 hi
  exact (Plan.verdict_reasons _ _ _).noted held

theorem applyAll_foretold (noted : ∀ i ∈ items, i.executable = false → i.step = .conflict ∨ i.step = .delete)
    {outcomes : List Outcome} (h : ((p.applyAll items).ends w).1 = .ok outcomes) :
    List.Forall₂ Foretold (items.filter (·.step != .unchanged)) outcomes := by
  induction items generalizing w outcomes with
  | nil =>
    obtain rfl := Except.ok.inj h
    exact .nil
  | cons i rest ih =>
    have later : ∀ {w : World} {outcomes : List Outcome}, ((p.applyAll rest).ends w).1 = .ok outcomes →
        List.Forall₂ Foretold (rest.filter (·.step != .unchanged)) outcomes :=
      ih fun j hj => noted j (mem_cons_of_mem i hj)
    -- what is noted of the first item stands before what the rest comes to
    have first : ∀ {o : Outcome} {w' : World}, Foretold i o → i.step ≠ .unchanged →
        (ends (do return o :: (← p.applyAll rest)) w').1 = .ok outcomes →
        List.Forall₂ Foretold ((i :: rest).filter (·.step != .unchanged)) outcomes := by
      intro o w' foretold changed h
      rw [fst_ends_cons] at h
      rw [filter_cons_of_pos (by simpa using changed)]
      cases ended : ((p.applyAll rest).ends w').1 with
      | error e =>
        rw [ended] at h
        cases h
      | ok os =>
        rw [ended] at h
        obtain rfl := Except.ok.inj h
        exact .cons foretold (later ended)
    unfold applyAll at h
    split at h
    · next unchanged =>
      rw [filter_cons_of_neg (by simpa using unchanged)]
      exact later h
    · next changed =>
      have changed : i.step ≠ .unchanged := by simpa using changed
      by_cases conflict : i.step = .conflict
      · rw [if_pos (by simpa using conflict), ends_bind_of_ok (ends_pure _ w)] at h
        exact first ⟨rfl, .inl ⟨conflict, rfl⟩⟩ changed h
      · rw [if_neg (by simpa using conflict)] at h
        cases executable : i.executable with
        | false =>
          rw [if_pos (by simp [executable]), ends_bind_of_ok (ends_pure _ w)] at h
          have delete := (noted i (.head _) executable).resolve_left conflict
          exact first ⟨rfl, .inr (.inl ⟨delete, executable, rfl⟩)⟩ changed h
        | true =>
          rw [if_neg (by simp [executable]), ends_bind] at h
          have outcome := p.fst_ends_apply i w
          rcases applied : (p.apply i).ends w with ⟨e | o, w'⟩
          · simp [applied] at h
          · rw [applied] at h outcome
            obtain ⟨o', told, item⟩ | ⟨_, -, -, lost⟩ := outcomeOf_cases i ((p.carryOut i).ends w).1
            · obtain rfl := Except.ok.inj (outcome.trans told)
              refine first ⟨item, .inr (.inr ⟨?_, outcomeOf_ne_skipped told⟩)⟩ changed h
              cases step : i.step <;> simp_all [PlanItem.isWrite, Step.isChange]
            · cases outcome.trans lost

end Outcomes

section Failures

def Encoded (x : Source → Shelf) : Prop :=
  ∀ s, s ≠ .registry → ∀ kc ∈ (x s).contents, Digest.Encodes kc.2

theorem contentOn_spoils (answers : ∀ s, s ≠ .registry → (x s).check = .ok ())
    (failed : p.contentOn x i = .error e) (unnoted : e.isNoted = false) : Spoils p x e := by
  unfold contentOn Shelf.content at failed
  rw [answers _ (endsOf_ne_registry i.flow).1, ok_bind] at failed
  cases found : (x (endsOf i.flow).1).get? i.key with
  | none =>
    rw [found] at failed
    obtain rfl := Except.error.inj failed
    cases unnoted
  | some c =>
    rw [found] at failed
    change p.passed i c = .error e at failed
    unfold passed at failed
    split at failed
    · exact .unchecked failed unnoted
    · split at failed
      · obtain rfl := Except.error.inj failed
        cases unnoted
      · cases failed

theorem validated_of_contentOn (encoded : Encoded x) {c : String} (content : p.contentOn x i = .ok c)
    (lost : ¬Digest.Encodes c) : ∃ key c₀, p.validate key c₀ = .ok c := by
  obtain ⟨c₀, fetched, passed⟩ := bind_eq_ok.1 content
  unfold Portfolio.passed at passed
  split at passed
  · exact ⟨_, _, passed⟩
  · split at passed
    · cases passed
    · obtain rfl := Except.ok.inj passed
      have found := (content_eq_ok_iff.1 fetched).2
      exact absurd (encoded _ (endsOf_ne_registry i.flow).1 _ (mem_of_get? found)) lost

theorem carryOn_spoils (answers : ∀ s, s ≠ .registry → (x s).check = .ok ()) (encoded : Encoded x)
    (failed : (p.carryOn x i).1 = .error e) (unnoted : e.isNoted = false) : Spoils p x e := by
  have target := (endsOf_ne_registry i.flow).2
  unfold carryOn at failed
  split at failed
  · rw [delete_eq, answers _ target] at failed
    split at failed
    · next closed =>
      obtain rfl := Except.error.inj failed
      exact .readOnly target (by simpa using closed)
    · cases failed
  · cases content : p.contentOn x i with
    | error e' =>
      rw [content] at failed
      obtain rfl := Except.error.inj failed
      exact contentOn_spoils answers content unnoted
    | ok c =>
      rw [content] at failed
      have written := map_eq_error.1 failed
      rw [write_eq, answers _ target] at written
      split at written
      · next closed =>
        obtain rfl := Except.error.inj written
        exact .readOnly target (by simpa using closed)
      · cases free : (x (endsOf i.flow).2).checkWrite i.key
            (if i.step == .update then expectedOf i else none) with
        | error e' =>
          rw [free] at written
          obtain rfl := Except.error.inj written
          rw [isNoted_of_checkWrite (encoded _ target) free] at unnoted
          cases unnoted
        | ok _ =>
          rw [free] at written
          have stored := map_eq_error.1 written
          obtain rfl := blob_eq_error stored
          have lost := not_encodes_of_blob stored
          obtain ⟨key, c₀, checked⟩ := validated_of_contentOn encoded content lost
          exact .unencodable checked lost

theorem encoded_carryOn (encoded : Encoded x) {o : Outcome} (h : outcomeOf i (p.carryOn x i).1 = .ok o) :
    Encoded (replace x (endsOf i.flow).2 (p.carryOn x i).2) := by
  intro s hs
  by_cases eq : s = (endsOf i.flow).2
  · rw [eq, replace_self]
    have old := encoded _ (endsOf_ne_registry i.flow).2
    obtain ⟨calls, ⟨e, fails⟩ | ⟨-, erases⟩ | ⟨c, -, -, puts⟩⟩ := p.carryOn_cases x i
    · rw [fails]
      exact old
    · rw [erases]
      exact fun kc hkc => old kc (mem_filter.1 hkc).1
    · rw [puts] at h ⊢
      intro kc hkc
      rcases mem_putIn hkc with rfl | hkc
      · cases stored : Digest.blob c with
        | error e =>
          obtain rfl := blob_eq_error stored
          rw [stored] at h
          cases h
        | ok b => exact blob_eq_ok_iff.1 ⟨b, stored⟩
      · exact old kc hkc
  · rw [replace_ne x eq]
    exact encoded s hs

theorem carries_have (hD : ∀ s, s ≠ .registry → D s) (h : w.Has D x) (encoded : Encoded x) :
    ∀ c ∈ p.carries items w, ∃ y, c.2.Has D y ∧ Akin x y ∧ Encoded y := by
  induction items generalizing w x with
  | nil => simp [carries]
  | cons i rest ih =>
    rw [carries]
    split
    · refine forall_mem_cons.2 ⟨⟨x, h, Std.Refl.refl x, encoded⟩, ?_⟩
      obtain ⟨w₁, carried, h₁⟩ := h.ends_carryOut hD p i
      have frame := p.apply_frame i w
      have outcome := p.fst_ends_apply i w
      rw [carried] at frame outcome
      rcases applied : (p.apply i).ends w with ⟨e | o, w₂⟩
      · simp
      · rw [applied] at frame outcome
        intro c hc
        obtain ⟨y, holds, akin, encoded'⟩ :=
          ih (frame.has h₁) (encoded_carryOn encoded outcome.symm) c hc
        exact ⟨y, holds, Trans.trans (akin_carryOn p x i) akin, encoded'⟩
    · exact ih h encoded

theorem Spoils.congr (h : Spoils p y e) (akin : Akin x y) : Spoils p x e := by
  cases h with
  | @readOnly s named closed =>
    rw [source_congr (akin s)]
    exact .readOnly named ((writable_congr (akin s)).symm.trans closed)
  | unchecked failed unnoted => exact .unchecked failed unnoted
  | unencodable checked lost => exact .unencodable checked lost

theorem applyAll_spoils (hD : ∀ s, s ≠ .registry → D s) (h : w.Has D x)
    (answers : ∀ s, s ≠ .registry → (x s).check = .ok ()) (encoded : Encoded x)
    (failed : ((p.applyAll items).ends w).1 = .error e) : Spoils p x e := by
  have ends := p.applyAll_itemsEnd items w
  rw [failed] at ends
  cases ends with
  | lost c _ last failed unnoted =>
    obtain ⟨y, holds, akin, encoded'⟩ := carries_have hD h encoded c (mem_of_getLast? last)
    obtain ⟨_, carried, -⟩ := holds.ends_carryOut hD p c.1
    rw [carried] at failed
    refine (carryOn_spoils (fun s hs => ?_) encoded' failed unnoted).congr akin
    exact (check_congr (akin s)).trans (answers s hs)

end Failures

theorem exists_planOn_of_describable (fair : ∀ s, s ≠ .registry →
    (x s).check = .ok () ∧ ∀ kc ∈ (x s).contents, Describable kc.2) (d : Direction) (m : Mode) :
    ∃ plan, planOn x d m = .ok plan := by
  have listed := fun s hs => entries_sound (fair s hs).1 (fair s hs).2 none
  obtain ⟨here, hhere, soundHere⟩ := listed .home (by decide)
  obtain ⟨there, hthere, soundThere⟩ := listed .remote (by decide)
  have checked : Plan.check here there d m = .ok () := by
    refine Plan.check_eq_ok (fun e he => ?_) d m
    exact (mem_append.1 he).elim (fun he => (soundHere e he).version) fun he =>
      (soundThere e he).version
  refine ⟨Plan.build here there d m, ?_⟩
  rw [planOn, hhere, ok_bind, hthere, ok_bind, Plan.make_eq_ok_iff.2 ⟨checked, rfl⟩]

theorem follows_of_planOn (h : Agrees (· ≠ .registry) (fun _ _ _ => False) x w) {plan : Plan}
    (allowed : checkBulk p.settings.sync (Plan.effective d m) = .ok ())
    (planned : planOn x d m = .ok plan) (force confirm : Bool) :
    Follows p x plan (m = .mirror ∧ plan.deletions ≠ [] ∧ force = false ∧ confirm = false) w
      ((p.sync d m false force confirm).ends w) := by
  obtain ⟨here, there, hhere, hthere, rfl⟩ := planOn_eq_ok planned
  generalize built : Plan.build here there d m = plan at planned
  have needed : needsConfirmation plan force confirm = true ↔
      m = .mirror ∧ plan.deletions ≠ [] ∧ force = false ∧ confirm = false := by
    have mode : plan.mode = m := built ▸ rfl
    simp [needsConfirmation, mode, and_assoc]
  obtain ⟨w₁, ended, h₁⟩ := ends_plan (fun _ hs => hs) h d m
  have frame := plan_frame d m w
  rw [planned] at ended
  rw [ended] at frame
  cases asks : needsConfirmation plan force confirm with
  | true =>
    have warned : (p.sync d m false force confirm).ends w = ends (do
        warn ("Mirror sync would delete " ++ Text.ofNat plan.deletions.length ++
          " element(s); confirmation required")
        return .finished { plan, requiresConfirmation := true }) w₁ := by
      unfold sync
      simp only [Bool.not_false, if_true]
      rw [ends_bind_of_ok ((ends_liftExcept _ w).trans (congrArg (·, w) allowed)), ends_bind_of_ok ended]
      simp only [asks, Bool.false_eq_true, if_false, if_true]
    rw [warned]
    exact .asked (needed.1 asks) rfl (frame.trans (warn_frame _ w₁))
  | false =>
    have free : ¬(m = .mirror ∧ plan.deletions ≠ [] ∧ force = false ∧ confirm = false) := by
      rw [← needed, asks]
      exact Bool.false_ne_true
    have done := fst_ends_sync allowed ended asks
    cases applied : ((p.applyAll plan.items).ends w₁).1 with
    | ok outcomes =>
      rw [applied] at done
      refine .acted free outcomes done (applyAll_foretold (fun i hi => ?_) applied)
      exact noted_of_mem_items (built ▸ hi)
    | error e =>
      rw [applied] at done
      have listed : ∀ s, s ≠ .registry → ∃ es, (x s).entries none = .ok es := by
        intro s hs
        cases s with
        | home => exact ⟨here, hhere⟩
        | remote => exact ⟨there, hthere⟩
        | registry => exact absurd rfl hs
      refine .spoilt free e done (applyAll_spoils (fun _ hs => hs) h₁.holds (fun s hs => ?_)
        (fun s hs => ?_) applied)
      · obtain ⟨es, entries⟩ := listed s hs
        exact (entries_eq_ok entries).1
      · obtain ⟨es, entries⟩ := listed s hs
        exact encodes_of_entries entries

/-- A dry run tells the truth. It changes no store, and has a plan if the stores answer with describable
contents. The same sync, made next, has the same plan and does what it says. -/
theorem dry_run_foretells (h : Agrees (· ≠ .registry) (fun _ _ _ => False) x w)
    (allowed : checkBulk p.settings.sync (Plan.effective d m) = .ok ()) (force confirm : Bool) :
    Frame w ((p.sync d m true force confirm).ends w).2 ∧
      ((∀ s, s ≠ .registry → (x s).check = .ok () ∧ ∀ kc ∈ (x s).contents, Describable kc.2) →
        ∃ plan, ((p.sync d m true force confirm).ends w).1 = .ok (.planned plan)) ∧
      ∀ plan, ((p.sync d m true force confirm).ends w).1 = .ok (.planned plan) →
        Follows p x plan (m = .mirror ∧ plan.deletions ≠ [] ∧ force = false ∧ confirm = false)
          ((p.sync d m true force confirm).ends w).2
          ((p.sync d m false force confirm).ends ((p.sync d m true force confirm).ends w).2) := by
  obtain ⟨w₁, ended, h₁⟩ := ends_plan (fun _ hs => hs) h d m
  have frame := plan_frame d m w
  have dry : (p.sync d m true force confirm).ends w = ((planOn x d m).map .planned, w₁) := by
    unfold sync
    simp only [Bool.not_true, Bool.false_eq_true, if_false, if_true]
    rw [ends_bind, ended]
    cases planOn x d m <;> rfl
  rw [ended] at frame
  rw [dry]
  refine ⟨frame, fun fair => ?_, fun plan planned => ?_⟩
  · obtain ⟨plan, planned⟩ := exists_planOn_of_describable fair d m
    exact ⟨plan, by rw [planned]; rfl⟩
  · cases made : planOn x d m with
    | error e =>
      rw [made] at planned
      cases planned
    | ok plan' =>
      rw [made] at planned
      obtain rfl := SyncResult.planned.inj (Except.ok.inj planned)
      exact follows_of_planOn h₁ allowed made force confirm

/-- The dry run of a mirror push between stores with nothing in common shows a deletion, and the push asks for
a confirmation. -/
theorem dry_run_foretells_crossed : ∃ plan w₁,
    (sync { home := default } .push .mirror true false false).ends crossed = (.ok (.planned plan), w₁) ∧
      plan.deletions ≠ [] ∧
      Follows { home := default } crossedShelves plan
        (Mode.mirror = .mirror ∧ plan.deletions ≠ [] ∧ false = false ∧ false = false) w₁
        ((sync { home := default } .push .mirror false false false).ends w₁) := by
  obtain ⟨plan, planned, items⟩ := crossed_planOn
  obtain ⟨w₁, ended, -⟩ := ends_sync (p := { home := default }) (fun _ hs => hs) crossed_agrees
    (crossed_shelved.coherent (fun _ hs => hs) _) .push .mirror true false false
  rw [syncOn, if_pos rfl, planned] at ended
  refine ⟨plan, w₁, ended, ?_, ?_⟩
  · rw [Plan.deletions, items]
    decide +kernel
  · have follows := (dry_run_foretells (p := { home := default }) (d := .push) (m := .mirror)
      crossed_agrees rfl false false).2.2 plan
    rw [ended] at follows
    exact follows rfl

def lone (content : String) (writable : Bool) : World :=
  { crossed with
    home := { backing := .shelf { crossedShelves .home with contents := [(⟨.persona, "a"⟩, content)] } }
    remote := { backing := .shelf { crossedShelves .remote with contents := [], writable } } }

/-- A push that was shown ends without a report if the remote store cannot be written to, and a header with a
month that there is not leaves a dry run without a plan. -/
theorem dry_run_misleads : ((sync { home := default } .push .additive true false false).ends
        (lone "x" false)).1.toOption.isSome = true ∧
      ((sync { home := default } .push .additive false false false).ends
        ((sync { home := default } .push .additive true false false).ends
          (lone "x" false)).2).1.toOption.isNone = true ∧
      ((sync { home := default } .push .additive true false false).ends
        (lone "---\nversion: 2024-13-45\n---\n" true)).1.toOption.isNone = true :=
  ⟨by decide +kernel, by decide +kernel, by decide +kernel⟩

end Portfolio

end TriStore
