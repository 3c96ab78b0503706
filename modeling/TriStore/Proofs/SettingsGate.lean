import TriStore.Proofs.SyncEffect
import TriStore.Proofs.Syncing

/-!
No item of a sync writes to a store that the switches of the settings keep closed, whatever direction it
has.
-/
namespace TriStore

namespace World

/-- Between the two worlds the store did not change, and nothing was offered to it. -/
structure Spares (t : Source) (w w' : World) : Prop where
  backing : (w'.store t).backing.still = (w.store t).backing.still
  offers : ∃ more, w'.offers = w.offers ++ more ∧ ∀ o ∈ more, o.store ≠ t

variable {t : Source} {w w' w'' : World}

namespace Spares

theorem refl (w : World) : Spares t w w := ⟨rfl, [], (List.append_nil _).symm, by simp⟩

theorem trans (h : Spares t w w') (h' : Spares t w' w'') : Spares t w w'' where
  backing := h'.backing.trans h.backing
  offers := by
    obtain ⟨first, offers, others⟩ := h.offers
    obtain ⟨second, offers', others'⟩ := h'.offers
    refine ⟨first ++ second, ?_, fun o ho => (List.mem_append.1 ho).elim (others o) (others' o)⟩
    rw [offers', offers, List.append_assoc]

instance : Std.Refl (Spares t) := ⟨refl⟩

instance : Trans (Spares t) (Spares t) (Spares t) := ⟨trans⟩

theorem held (h : Spares t w w') (k : Key) : w'.held t k = w.held t k := by
  rw [World.held, ← Backing.held_still, h.backing, Backing.held_still, World.held]

end Spares

theorem Frame.spares (h : Frame w w') (t : Source) : Spares t w w' :=
  ⟨h.backing t, [], by rw [h.offers, List.append_nil], by simp⟩

end World

namespace Action

open World (Frame Spares)

variable {s t : Source}

theorem backing_writeThrough_ne (ne : t ≠ s) (key : Key) (content : String) (expected : Option Value)
    (w : World) : (((writeThrough s key content expected).ends w).2.store t).backing.still =
      (w.store t).backing.still := by
  cases found : (w.store s).backing with
  | shelf x =>
    obtain ⟨w', ended, -, others, -⟩ := onShelf_world s x (x.write key content expected) w
    rw [ends_writeThrough_shelf key content expected found, ended, others t ne]
  | folder f =>
    obtain ⟨log, ended⟩ := ends_writeThrough_folder key content expected found
    rw [ended]
    cases t <;> rfl
  | repository r =>
    rw [writeThrough, ends_bind_of_ok (ends_get w), found]
    have frame : Frame w _ := (getEntry_frame s key).bind
      (fun entry => onWeb_frame (r.write key entry content expected)) w
    exact frame.backing t
  | catalog c =>
    rw [writeThrough, ends_bind_of_ok (ends_get w), found]
    rfl

theorem backing_deleteThrough_ne (ne : t ≠ s) (key : Key) (expected : Option Value) (w : World) :
    (((deleteThrough s key expected).ends w).2.store t).backing.still = (w.store t).backing.still := by
  cases found : (w.store s).backing with
  | shelf x =>
    obtain ⟨w', ended, -, others, -⟩ := onShelf_world s x (x.delete key) w
    rw [ends_deleteThrough_shelf key expected found, ended, others t ne]
  | folder f =>
    obtain ⟨log, ended⟩ := ends_deleteThrough_folder key expected found
    rw [ended]
    cases t <;> rfl
  | repository r =>
    rw [deleteThrough, ends_bind_of_ok (ends_get w), found]
    refine Frame.backing (Moves.bind (getEntry_frame s key) (fun entry => ?_) w) t
    cases entry with
    | some entry => exact onWeb_frame _
    | none => exact Moves.pure _
  | catalog c =>
    rw [deleteThrough, ends_bind_of_ok (ends_get w), found]
    rfl

theorem write_spares (ne : t ≠ s) (key : Key) (content : String) (expected : Option Value) :
    (write s key content expected).Moves (Spares t) := by
  intro w
  refine ⟨?_, [⟨s, key, content⟩], offers_write s key content expected w, ?_⟩
  · obtain ⟨w', ended, frame⟩ := ends_write s key content expected w
    rw [ended, frame.backing t, backing_writeThrough_ne ne]
    cases t <;> rfl
  · rintro o ho rfl
    rw [List.mem_singleton.1 ho] at ne
    exact ne rfl

theorem delete_spares (ne : t ≠ s) (key : Key) (expected : Option Value) :
    (delete s key expected).Moves (Spares t) := by
  intro w
  obtain ⟨more, offers, others⟩ := (delete_sends (P := fun _ => False) s key expected w).1.offers
  refine ⟨?_, more, offers, fun o ho => (others o ho).elim⟩
  obtain ⟨w', ended, frame⟩ := ends_delete s key expected w
  rw [ended, frame.backing t, backing_deleteThrough_ne ne]

end Action

/-- Whether the switches let a sync write to a store. -/
def SyncSettings.opens (s : SyncSettings) : Source → Bool
  | .home => s.enabled && s.bulkDownload
  | .remote => s.enabled && s.bulkUpload
  | .registry => false

namespace Portfolio

open TriStore.Action
open World (Frame Spares)

variable {p : Portfolio} {t : Source} {d : Direction} {m : Mode}

theorem checkBulk_eq_ok {s : SyncSettings} (h : checkBulk s d = .ok ()) :
    s.enabled = true ∧ (d ≠ .push → s.opens .home = true) ∧ (d ≠ .pull → s.opens .remote = true) := by
  obtain ⟨enabled, download, upload, _, _⟩ := s
  cases enabled <;> cases download <;> cases upload <;> cases d <;>
    simp_all [checkBulk, SyncSettings.opens, disabled, throw, throwThe, MonadExceptOf.throw, bind,
      Except.bind, pure, Except.pure]

theorem target_opens {s : SyncSettings} {here there : List Entry} {i : PlanItem}
    (allowed : checkBulk s (Plan.effective d m) = .ok ())
    (hi : i ∈ (Plan.build here there d m).items) : s.opens (endsOf i.flow).2 = true := by
  obtain ⟨-, home, remote⟩ := checkBulk_eq_ok allowed
  by_cases both : Plan.effective d m = .both
  · rw [both] at home remote
    cases i.flow with
    | pull => exact home (by decide)
    | push | both => exact remote (by decide)
  · rw [Plan.flow_of_mem_items hi both]
    cases way : Plan.effective d m with
    | pull => exact home (by rw [way]; decide)
    | push => exact remote (by rw [way]; decide)
    | both => exact absurd way both

theorem apply_spares (p : Portfolio) {i : PlanItem} (ne : t ≠ (endsOf i.flow).2) :
    (p.apply i).Moves (Spares t) := by
  intro w
  refine Spares.trans ?_ ((p.apply_frame i w).spares t)
  exact carryOut_leads (fun w' frame => frame.spares t)
    (fun _ => delete_spares ne i.key (expectedOf i) w)
    fun _ content w₁ _ frame expected =>
      (frame.spares t).trans (write_spares ne i.key content expected w₁)

theorem sync_frame {dryRun : Bool}
    (idle : dryRun = true ∨ ∃ e, checkBulk p.settings.sync (Plan.effective d m) = .error e)
    (force confirm : Bool) : (p.sync d m dryRun force confirm).Moves Frame := by
  unfold sync
  cases dryRun with
  | true => exact (plan_frame d m).bind fun plan => Moves.pure _
  | false =>
    obtain ⟨e, refused⟩ := idle.resolve_left (by decide)
    intro w
    have first : (liftExcept (checkBulk p.settings.sync (Plan.effective d m)) : Action Unit).ends w =
        (.error e, w) := by
      rw [ends_liftExcept, refused]
    simp only [Bool.not_false, if_true]
    rw [ends_bind_of_error first]
    exact Frame.refl w

theorem sync_spares (closed : p.settings.sync.opens t = false) (d : Direction) (m : Mode)
    (dryRun force confirm : Bool) : (p.sync d m dryRun force confirm).Moves (Spares t) := by
  intro w
  cases allowed : checkBulk p.settings.sync (Plan.effective d m) with
  | error e => exact (sync_frame (.inr ⟨e, allowed⟩) force confirm w).spares t
  | ok _ =>
    refine sync_keeps (I := Spares t w) (fun frame h => h.trans (frame.spares t)) (.refl w)
      (fun plan w₁ made => ?_) dryRun force confirm
    have read := plan_frame d m w
    rw [made] at read
    obtain ⟨here, there, -, -, rfl⟩ := exists_of_plan made
    refine applyAll_keeps_of_mem (fun i hi _ _ w₂ h => h.trans (p.apply_spares ?_ w₂)) (read.spares t)
    rintro rfl
    rw [target_opens allowed hi] at closed
    cases closed

section Disabled

variable (off : p.settings.sync.enabled = false)

include off

theorem download_frame (name : String) (kind : Option Kind) (s : Source) (force confirm : Bool) :
    (p.download name kind s force confirm).Moves Frame := by
  intro w
  rw [ends_download, if_pos (by rw [off]; rfl)]
  exact Frame.refl w

theorem upload_frame (name : String) (kind : Option Kind) (force confirm : Bool) :
    (p.upload name kind force confirm).Moves Frame := by
  intro w
  rw [ends_upload, if_pos (by rw [off]; rfl)]
  exact Frame.refl w

theorem after_frame (c : Call) (w : World) : Frame w (p.after w c) := by
  cases c with
  | search query o =>
    rw [after_search]
    exact p.search_frame query o w
  | advance seconds =>
    obtain ⟨now, later⟩ := p.after_advance w seconds
    rw [later]
    exact .of_eq rfl rfl rfl rfl rfl
  | sync d m dryRun force confirm =>
    rw [after_sync]
    refine sync_frame (.inr ⟨disabled, ?_⟩) force confirm w
    rw [checkBulk, off]
    rfl
  | manage operation r =>
    rw [after_manage]
    cases operation with
    | listRemote => exact listRemote_frame r.kind w
    | compare => exact compare_frame r.name r.kind r.showDiff w
    | download => exact download_frame off r.name r.kind r.source r.force r.confirm w
    | upload => exact upload_frame off r.name r.kind r.force r.confirm w

theorem run_frame (calls : List Call) (w : World) : Frame w (p.run calls w) :=
  run_keeps (I := Frame w) (fun c _ w' h => h.trans (after_frame off c w')) (.refl w)

end Disabled

/-- With syncs disabled no run of calls changes a store or a file or offers a store anything, nor does a
download or an upload on its own. Without bulk uploads no sync changes the remote store, and without bulk
downloads none changes the store here. -/
theorem closed_switch_spares_store (p : Portfolio) (calls : List Call) (w : World) :
    (p.settings.sync.enabled = false → Frame w (p.run calls w) ∧ (∀ name kind s force confirm,
        Frame w ((p.download name kind s force confirm).ends (p.run calls w)).2) ∧
      ∀ name kind force confirm, Frame w ((p.upload name kind force confirm).ends (p.run calls w)).2) ∧
    ∀ d m dryRun force confirm, (p.settings.sync.bulkUpload = false →
        Spares .remote (p.run calls w) (p.run (calls ++ [.sync d m dryRun force confirm]) w)) ∧
      (p.settings.sync.bulkDownload = false →
        Spares .home (p.run calls w) (p.run (calls ++ [.sync d m dryRun force confirm]) w)) := by
  refine ⟨fun off => ?_, fun d m dryRun force confirm => ?_⟩
  · have ran := run_frame off calls w
    exact ⟨ran, fun name kind s force confirm => ran.trans (download_frame off name kind s force confirm _),
      fun name kind force confirm => ran.trans (upload_frame off name kind force confirm _)⟩
  · rw [run_append, run_cons, run_nil, after_sync]
    constructor
    · intro off
      exact sync_spares (by simp [SyncSettings.opens, off]) d m dryRun force confirm _
    · intro off
      exact sync_spares (by simp [SyncSettings.opens, off]) d m dryRun force confirm _

/-- A mirror push takes an element of the remote store away; with bulk uploads off it stays. -/
theorem closed_switch_spares_crossed :
    (run { home := default } [.sync .push .mirror false false true] crossed).held .remote
        ⟨.persona, "b"⟩ = none ∧
      (run { home := default, settings.sync.bulkUpload := false }
        [.sync .push .mirror false false true] crossed).held .remote ⟨.persona, "b"⟩ = some "y" := by
  constructor
  · obtain ⟨r, w', ended, -, -, gone⟩ := ends_sync_crossed
    rw [run_cons, run_nil, after_sync, ended, gone]
  · have spared := (closed_switch_spares_store
      { home := default, settings.sync.bulkUpload := false } [] crossed).2 .push .mirror false false true
    exact ((spared.1 rfl).held ⟨.persona, "b"⟩).trans (by decide)

end Portfolio

end TriStore
