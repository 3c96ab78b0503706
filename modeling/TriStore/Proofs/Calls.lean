import TriStore.Proofs.Reading

/-!
Runs of a portfolio, call after call, while time goes by. A call that fails leaves the world it got to.
-/
namespace TriStore
open TriStore.Action

inductive Call where
  | search (query : String) (options : SearchOptions)
  | sync (direction : Direction) (mode : Mode) (dryRun force confirm : Bool)
  | manage (operation : Operation) (request : Portfolio.ElementRequest)
  | advance (seconds : Value)

namespace Portfolio

def advance (seconds : Value) : Action Unit := do
  let now ← liftExcept (Cache.later (← get).clock seconds)
  modify fun w => { w with clock := now }

def perform (p : Portfolio) : Call → Action Unit
  | .search query o => do let _ ← p.search query o
  | .sync d m dryRun force confirm => do let _ ← p.sync d m dryRun force confirm
  | .manage operation r => do let _ ← p.manage operation r
  | .advance seconds => advance seconds

def after (p : Portfolio) (w : World) (c : Call) : World := ((p.perform c).ends w).2

section

variable (p : Portfolio) (w : World)

theorem snd_ends_discard {α : Type} (act : Action α) : (Action.ends (do let _ ← act) w).2 = (act.ends w).2 := by
  rw [ends_bind]
  rcases act.ends w with ⟨_ | _, _⟩ <;> rfl

theorem error_of_discard {α : Type} {act : Action α} {e : Failure}
    (h : (Action.ends (do let _ ← act) w).1 = .error e) : (act.ends w).1 = .error e := by
  rw [ends_bind] at h
  rcases ended : act.ends w with ⟨e' | a, w'⟩
  · rw [ended] at h
    cases h
    rfl
  · rw [ended] at h
    cases h

theorem after_search (query : String) (o : SearchOptions) :
    p.after w (.search query o) = ((p.search query o).ends w).2 := snd_ends_discard w _

theorem after_sync (d : Direction) (m : Mode) (dryRun force confirm : Bool) :
    p.after w (.sync d m dryRun force confirm) = ((p.sync d m dryRun force confirm).ends w).2 :=
  snd_ends_discard w _

theorem after_manage (operation : Operation) (r : ElementRequest) :
    p.after w (.manage operation r) = ((p.manage operation r).ends w).2 := snd_ends_discard w _

theorem after_advance (seconds : Value) : ∃ now, p.after w (.advance seconds) = { w with clock := now } := by
  unfold after perform advance
  rw [ends_bind_of_ok (ends_get w), ends_bind, ends_liftExcept]
  cases Cache.later w.clock seconds with
  | error e => exact ⟨w.clock, rfl⟩
  | ok now => exact ⟨now, rfl⟩

end

def run (p : Portfolio) (calls : List Call) (w : World) : World := calls.foldl p.after w

@[simp] theorem run_nil (p : Portfolio) (w : World) : p.run [] w = w := rfl

@[simp] theorem run_cons (p : Portfolio) (c : Call) (calls : List Call) (w : World) :
    p.run (c :: calls) w = p.run calls (p.after w c) := rfl

theorem run_append (p : Portfolio) (front back : List Call) (w : World) :
    p.run (front ++ back) w = p.run back (p.run front w) := List.foldl_append

/-- Each call is as it should be in the world in which it is made. -/
def Along (p : Portfolio) (P : World → Call → Prop) : List Call → World → Prop
  | [], _ => True
  | c :: calls, w => P w c ∧ p.Along P calls (p.after w c)

theorem run_keeps_along {p : Portfolio} {P : World → Call → Prop} {I : World → Prop}
    (step : ∀ c w, P w c → I w → I (p.after w c)) {calls : List Call} {w : World} (along : p.Along P calls w) (h : I w) :
    I (p.run calls w) := by
  induction calls generalizing w with
  | nil => exact h
  | cons c calls ih => exact ih along.2 (step c w along.1 h)

theorem run_keeps {p : Portfolio} {I : World → Prop} {calls : List Call}
    (step : ∀ c ∈ calls, ∀ w, I w → I (p.after w c)) {w : World} (h : I w) : I (p.run calls w) := by
  induction calls generalizing w with
  | nil => exact h
  | cons c calls ih =>
    have first := step c (.head _) w h
    exact ih (fun d hd => step d (.tail _ hd)) first

end Portfolio

end TriStore
