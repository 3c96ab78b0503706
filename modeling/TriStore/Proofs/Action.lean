import TriStore.Portfolio.Copy

/-!
How actions end. `Moves` says that an action leads from every world to one in a given relation to it,
however it ends.
-/
namespace TriStore

variable {α β ε : Type}

theorem ok_bind (a : α) (f : α → Except ε β) : (Except.ok a >>= f) = f a := rfl

theorem error_bind (e : ε) (f : α → Except ε β) : (Except.error e >>= f) = .error e := rfl

theorem bind_eq_ok {x : Except ε α} {f : α → Except ε β} {b : β} :
    (x >>= f) = .ok b ↔ ∃ a, x = .ok a ∧ f a = .ok b := by
  cases x <;> simp [bind, Except.bind]

theorem forM_eq_ok_iff {f : α → Except ε Unit} {l : List α} : l.forM f = .ok () ↔ ∀ a ∈ l, f a = .ok () := by
  induction l with
  | nil => simp [List.forM, pure, Except.pure]
  | cons a l ih =>
    show (f a >>= fun _ => l.forM f) = _ ↔ _
    rw [bind_eq_ok, List.forall_mem_cons, ih]
    exact ⟨fun ⟨_, first, rest⟩ => ⟨first, rest⟩, fun ⟨first, rest⟩ => ⟨(), first, rest⟩⟩

theorem eq_ok_of_toOption {x : Except ε α} {a : α} (h : x.toOption = some a) : x = .ok a := by
  cases x with
  | error e => cases h
  | ok b => rw [Option.some.inj h]

def errorOf? : Except ε α → Option ε
  | .ok _ => none
  | .error e => some e

theorem eq_error_of_errorOf? {x : Except ε α} {e : ε} (h : errorOf? x = some e) : x = .error e := by
  cases x with
  | error e' => rw [Option.some.inj h]
  | ok a => cases h

instance decidableOk (x : Except ε α) : Decidable (∃ a, x = .ok a) :=
  decidable_of_iff (x.toOption.isSome = true) (by cases x <;> simp [Except.toOption])

instance decidableOkAnd (x : Except ε α) (p : α → Prop) [DecidablePred p] : Decidable (∃ a, x = .ok a ∧ p a) :=
  decidable_of_iff (x.toOption.any (p ·) = true) (by cases x <;> simp [Except.toOption])

section Staying

variable {σ : Type} {I : σ → Prop}

/-- What holds of the one holds of the other. -/
def Stays (I : σ → Prop) (a b : σ) : Prop := I a → I b

instance : Std.Refl (Stays I) := ⟨fun _ h => h⟩

instance : Trans (Stays I) (Stays I) (Stays I) := ⟨fun h h' => h' ∘ h⟩

end Staying

namespace Action

variable {α β : Type}

/-- How an action ends when it starts from a world: its result and the world after it. -/
def ends (act : Action α) (w : World) : Except Failure α × World := act.run w

@[simp] theorem ends_pure (a : α) (w : World) : ends (pure a) w = (.ok a, w) := rfl

@[simp] theorem ends_throw (e : Failure) (w : World) : ends (throw e : Action α) w = (.error e, w) := rfl

@[simp] theorem ends_get (w : World) : ends get w = (.ok w, w) := rfl

@[simp] theorem ends_set (w w' : World) : ends (set w') w = (.ok ⟨⟩, w') := rfl

@[simp] theorem ends_modify (f : World → World) (w : World) : ends (modify f) w = (.ok ⟨⟩, f w) := rfl

@[simp] theorem ends_liftExcept (r : Except Failure α) (w : World) : ends (liftExcept r) w = (r, w) := by
  cases r <;> rfl

theorem ends_bind (act : Action α) (f : α → Action β) (w : World) : ends (act >>= f) w = match act.ends w with
      | (.ok a, w') => (f a).ends w'
      | (.error e, w') => (.error e, w') := by
  have unfolded : ends (act >>= f) w = ExceptT.bindCont f (act.ends w).1 (act.ends w).2 := rfl
  rw [unfolded]
  rcases act.ends w with ⟨_ | _, _⟩ <;> rfl

theorem ends_map (f : α → β) (act : Action α) (w : World) :
    ends (f <$> act) w = ((act.ends w).1.map f, (act.ends w).2) := by
  rw [← bind_pure_comp, ends_bind]
  rcases act.ends w with ⟨_ | _, _⟩ <;> rfl

theorem ends_tryCatch (act : Action α) (handle : Failure → Action α) (w : World) :
    ends (tryCatch act handle) w = match act.ends w with
      | (.ok a, w') => (.ok a, w')
      | (.error e, w') => (handle e).ends w' := by
  simp only [ends, tryCatch, tryCatchThe, MonadExceptOf.tryCatch, ExceptT.tryCatch, ExceptT.run,
    ExceptT.mk, bind, StateT.bind]
  rcases act w with ⟨_ | _, _⟩ <;> rfl

@[simp] theorem ends_attempt (act : Action α) (w : World) :
    ends (attempt act) w = (.ok (act.ends w).1, (act.ends w).2) := rfl

theorem exists_log_warnAll (lines : List String) (w : World) :
    ∃ log, ends (warnAll lines) w = (.ok ⟨⟩, { w with log }) := by
  induction lines generalizing w with
  | nil => exact ⟨w.log, rfl⟩
  | cons line lines ih => exact ih (w.note .warning line)

theorem ends_bind_of_ok {act : Action α} {w w' : World} {a : α} (h : act.ends w = (.ok a, w'))
    (f : α → Action β) : ends (act >>= f) w = (f a).ends w' := by
  rw [ends_bind, h]

theorem ends_onDisk (x : Disk → Except Failure α × Disk) (w : World) :
    ∃ log, ends (onDisk x) w = ((x w.disk).1, { w with disk := (x w.disk).2, log }) := by
  rw [onDisk, ends_bind_of_ok (ends_get w)]
  rcases x w.disk with ⟨r, disk⟩
  rw [ends_bind_of_ok (ends_set w _)]
  split
  · exact ⟨_, rfl⟩
  · exact ⟨w.log, ends_liftExcept _ _⟩

theorem ends_bind_of_error {act : Action α} {w w' : World} {e : Failure}
    (h : act.ends w = (.error e, w')) (f : α → Action β) : ends (act >>= f) w = (.error e, w') := by
  rw [ends_bind, h]

theorem ends_bind_eq_ok {act : Action α} {f : α → Action β} {w w'' : World} {b : β} :
    ends (act >>= f) w = (.ok b, w'') ↔ ∃ a w', act.ends w = (.ok a, w') ∧ (f a).ends w' = (.ok b, w'') := by
  rw [ends_bind]
  constructor
  · intro h
    rcases hw : act.ends w with ⟨e | a, w'⟩
    · simp [hw] at h
    · exact ⟨a, w', rfl, by simpa [hw] using h⟩
  · rintro ⟨a, w', hw, h⟩
    simpa [hw] using h

/-- From every world the action leads to one that is in the relation to it. -/
def Moves (R : World → World → Prop) (act : Action α) : Prop := ∀ w, R w (act.ends w).2

namespace Moves

variable {R : World → World → Prop}

theorem mono {R' : World → World → Prop} {act : Action α} (h : act.Moves R)
    (le : ∀ w w', R w w' → R' w w') : act.Moves R' :=
  fun w => le w _ (h w)

theorem attempt {act : Action α} (h : act.Moves R) : Moves R (attempt act) := h

theorem get_bind {f : World → Action β} (h : ∀ w, R w ((f w).ends w).2) : Moves R (get >>= f) := by
  intro w
  exact h w

section

variable [Std.Refl R]

theorem pure (a : α) : Moves R (Pure.pure a : Action α) := fun w => Std.Refl.refl w

theorem throw (e : Failure) : Moves R (MonadExcept.throw e : Action α) := fun w => Std.Refl.refl w

theorem liftExcept (r : Except Failure α) : Moves R (liftExcept r : Action α) := by
  intro w
  rw [ends_liftExcept]
  exact Std.Refl.refl w

end

section

variable [Trans R R R]

theorem bind {act : Action α} {f : α → Action β} (h : act.Moves R) (hf : ∀ a, (f a).Moves R) :
    Moves R (act >>= f) := by
  intro w
  have first := h w
  rw [ends_bind]
  rcases hw : act.ends w with ⟨e | a, w'⟩
  · rw [hw] at first
    exact first
  · rw [hw] at first
    exact Trans.trans first (hf a w')

theorem tryCatch {act : Action α} {handle : Failure → Action α} (h : act.Moves R)
    (hf : ∀ e, (handle e).Moves R) : Moves R (tryCatch act handle) := by
  intro w
  have first := h w
  rw [ends_tryCatch]
  rcases hw : act.ends w with ⟨e | a, w'⟩
  · rw [hw] at first
    exact Trans.trans first (hf e w')
  · rw [hw] at first
    exact first

theorem forM [Std.Refl R] {act : α → Action PUnit} (h : ∀ a, (act a).Moves R) (l : List α) :
    Moves R (l.forM act) := by
  induction l with
  | nil => exact Moves.pure _
  | cons a l ih => exact (h a).bind fun _ => ih

end

end Moves

end Action

end TriStore
