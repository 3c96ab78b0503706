import TriStore.Proofs.SyncEffect
import TriStore.Proofs.Syncing

/-!
Content is looked through for credentials right before it is sent to the remote store, so none goes out.
-/
namespace TriStore

/-- An offer that does not ask the remote store to write what seems to be credentials. -/
def Offer.IsClean (o : Offer) : Prop := o.store = .remote → findSecrets o.content = []

/-- Somebody changes anything but the record of what was sent, or the portfolio is asked for something. -/
inductive Turn where
  | meddle (change : World → World)
  | call (c : Call)

namespace Portfolio

open TriStore.Action
open World (Frame Sends)

variable {p : Portfolio} {i : PlanItem} {w w' : World} {c c' : String}

def turn (p : Portfolio) (w : World) : Turn → World
  | .meddle change => { change w with offers := w.offers }
  | .call c => p.after w c

def history (p : Portfolio) (turns : List Turn) (w : World) : World := turns.foldl p.turn w

theorem write_clean {s : Source} (clean : s = .remote → findSecrets c = []) (key : Key)
    (expected : Option Value) : (write s key c expected).Moves (Sends Offer.IsClean) := by
  intro w
  refine (write_sends s key c expected w).1.mono fun o ho remote => ?_
  rw [ho] at remote ⊢
  exact clean remote

section

variable (scan : p.settings.sync.scanForSecrets = true)

include scan

theorem passed_push (push : i.flow ≠ .pull) (c : String) : p.passed i c = if findSecrets c = [] then .ok c
      else .error (.rejected ("potential secret detected in " ++ i.key.label)) := by
  rw [passed, if_neg (by simpa using push), scan]
  by_cases free : findSecrets c = []
  · simp [free]
  · simp [free]

theorem carryOut_clean (i : PlanItem) : (p.carryOut i).Moves (Sends Offer.IsClean) := by
  intro w
  refine carryOut_leads (fun w' frame => frame.sends)
    (fun _ => (delete_sends (endsOf i.flow).2 i.key (expectedOf i) w).1)
    fun _ content w₁ got frame expected => ?_
  refine frame.sends.trans (write_clean (fun remote => ?_) i.key expected w₁)
  have push : i.flow ≠ .pull := by
    intro pull
    rw [pull] at remote
    cases remote
  -- What is written is what was looked through, not what a listing said of it.
  rw [ends_contentFor_eq] at got
  obtain ⟨c, -, passed⟩ := bind_eq_ok.1 (Prod.mk.inj got).1
  rw [passed_push scan push] at passed
  split at passed
  · next free => rw [← Except.ok.inj passed, free]
  · cases passed

theorem apply_clean (i : PlanItem) : (p.apply i).Moves (Sends Offer.IsClean) := fun w =>
  (carryOut_clean scan i w).trans (p.apply_frame i w).sends

theorem sync_clean (d : Direction) (m : Mode) (dryRun force confirm : Bool) :
    (p.sync d m dryRun force confirm).Moves (Sends Offer.IsClean) := by
  intro w
  have frame := plan_frame d m w
  refine sync_keeps (I := Sends Offer.IsClean w) (fun frame h => h.trans frame.sends) (.refl w)
    (fun plan w₁ planned => ?_) dryRun force confirm
  rw [planned] at frame
  exact applyAll_keeps_of_mem (fun i _ _ _ w₂ h => h.trans (apply_clean scan i w₂)) frame.sends

theorem upload_clean (name : String) (kind : Option Kind) (force confirm : Bool) :
    (p.upload name kind force confirm).Moves (Sends Offer.IsClean) := by
  intro w
  rw [ends_upload]
  split
  · exact .refl w
  · have read : ∀ w w', Frame w w' → Sends Offer.IsClean w w' := fun _ _ => Frame.sends
    refine ((resolveIn_frame .home name "local portfolio" kind).mono read).bind
      (fun entry => ((fetch_frame .home entry.key).mono read).bind fun content => ?_) w
    refine p.uploadOf_moves read (fun free expected => ?_) force confirm
    refine write_clean (fun _ => ?_) entry.key expected
    unfold uploadObjections at free
    rw [scan, if_pos rfl] at free
    by_cases none : findSecrets content = []
    · exact none
    · simp [none] at free

theorem after_clean (w : World) (call : Call) : Sends Offer.IsClean w (p.after w call) := by
  cases call with
  | search query o =>
    rw [after_search]
    exact (p.search_frame query o w).sends
  | advance seconds =>
    obtain ⟨now, later⟩ := p.after_advance w seconds
    rw [later]
    exact Frame.sends (.of_eq rfl rfl rfl rfl rfl)
  | sync d m dryRun force confirm =>
    rw [after_sync]
    exact sync_clean scan d m dryRun force confirm w
  | manage operation r =>
    rw [after_manage]
    cases operation with
    | listRemote => exact (listRemote_frame r.kind w).sends
    | compare => exact (compare_frame r.name r.kind r.showDiff w).sends
    | download =>
      have write : ∀ key c expected, (write .home key c expected).Moves (Sends Offer.IsClean) :=
        fun key c => write_clean (s := .home) (fun remote => nomatch remote) key
      exact p.download_moves (fun _ _ => Frame.sends) write r.name r.kind r.source r.force r.confirm w
    | upload => exact upload_clean scan r.name r.kind r.force r.confirm w

theorem history_clean (turns : List Turn) (w : World) :
    ∃ more, (p.history turns w).offers = w.offers ++ more ∧ ∀ o ∈ more, o.IsClean := by
  induction turns generalizing w with
  | nil => exact ⟨[], (List.append_nil _).symm, nofun⟩
  | cons t turns ih =>
    obtain ⟨later, offers, clean⟩ := ih (p.turn w t)
    cases t with
    -- Meddling leaves the record of what was sent as it is.
    | meddle change => exact ⟨later, offers, clean⟩
    | call call =>
      obtain ⟨first, offers', clean'⟩ := (after_clean scan w call).offers
      refine ⟨first ++ later, ?_, fun o ho => (List.mem_append.1 ho).elim (clean' o) (clean o)⟩
      rw [← List.append_assoc, ← offers']
      exact offers

theorem offers_apply (push : i.flow ≠ .pull) (step : i.step ≠ .delete)
    (fetched : (fetch .home i.key).ends w = (.ok c, w')) : ((p.apply i).ends w).2.offers =
      w.offers ++ if findSecrets c = [] then [⟨.remote, i.key, c⟩] else [] := by
  have way : endsOf i.flow = (.home, .remote) := by
    cases flow : i.flow with
    | pull => exact absurd flow push
    | _ => rfl
  have frame := fetch_frame .home i.key w
  rw [fetched] at frame
  have content := p.ends_contentFor_eq i w
  rw [way, fetched, ok_bind, passed_push scan push] at content
  rw [(p.apply_frame i w).offers, ← frame.offers, carryOut, way]
  rw [if_neg (by simpa using step)]
  by_cases free : findSecrets c = []
  · rw [if_pos free] at content ⊢
    rw [ends_bind_of_ok content, snd_ends_discard, offers_write]
  · rw [if_neg free] at content ⊢
    rw [ends_bind_of_error content, List.append_nil]

end

/-- As long as the settings ask for it, no content that seems to give credentials away is ever sent, whatever
happens to the stores and caches; and an item that goes out sends exactly what it finds if that is free of
them. -/
theorem no_credentials_sent (scan : p.settings.sync.scanForSecrets = true) :
    (∀ turns w, ∃ more, (p.history turns w).offers = w.offers ++ more ∧
      ∀ o ∈ more, o.store = .remote → findSecrets o.content = []) ∧
    ∀ i w c w', i.flow ≠ .pull → i.step ≠ .delete → (fetch .home i.key).ends w = (.ok c, w') →
      ((p.apply i).ends w).2.offers = w.offers ++ if findSecrets c = [] then [⟨.remote, i.key, c⟩] else [] :=
  ⟨history_clean scan, fun _ _ _ _ push step fetched => offers_apply scan push step fetched⟩

/-- A password that comes here after a push is kept out of a forced push and of an upload. -/
theorem no_credentials_sent_password : (findSecrets "password = 'x'").isEmpty = false ∧
      ⟨.remote, ⟨.persona, "a"⟩, "password = 'x'"⟩ ∉ (history { home := default } [
        .call (.sync .push .additive false false false),
        .meddle fun w => w.setShelf .home ((crossedShelves .home).put ⟨.persona, "a"⟩ "password = 'x'"),
        .call (.sync .push .mirror false true true),
        .call (.manage .upload { name := "a", force := true, confirm := true })] crossed).offers := by
  have found : (findSecrets "password = 'x'").isEmpty = false := by decide +kernel
  refine ⟨found, fun sent => ?_⟩
  have runs := (no_credentials_sent (p := { home := default }) rfl).1
  rw [(runs _ crossed).choose_spec.1] at sent
  have none := (runs _ crossed).choose_spec.2 _ sent rfl
  rw [none] at found
  cases found

end Portfolio

end TriStore
