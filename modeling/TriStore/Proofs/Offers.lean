import TriStore.Proofs.Copying

/-!
What stores are asked to write, and that the disk changes only when a store in a folder is written to.
-/
namespace TriStore
open List

def Backing.folder? : Backing → Option Folder
  | .folder f => some f
  | _ => none

theorem Backing.folder?_still (b : Backing) : b.still.folder? = b.folder? := by cases b <;> rfl

theorem Backing.folder?_eq_some {b : Backing} {f : Folder} (h : b.folder? = some f) : b = .folder f := by
  cases b with
  | folder g => rw [Option.some.inj h]
  | _ => cases h

namespace World

/-- Stores were asked to write such content only, and the same stores lie in folders. -/
structure Sends (P : Offer → Prop) (w w' : World) : Prop where
  folder : ∀ s, (w'.store s).backing.folder? = (w.store s).backing.folder?
  cached : ∀ s, (w'.store s).cached = (w.store s).cached
  offers : ∃ more, w'.offers = w.offers ++ more ∧ ∀ o ∈ more, P o

variable {P Q : Offer → Prop} {w w' w'' : World}

theorem backing_offer (w : World) (o : Offer) (s : Source) :
    ((w.offer o).store s).backing = (w.store s).backing := by
  cases s <;> rfl

namespace Sends

theorem refl (w : World) : Sends P w w :=
  ⟨fun _ => rfl, fun _ => rfl, [], (append_nil _).symm, nofun⟩

theorem trans (h : Sends P w w') (h' : Sends P w' w'') : Sends P w w'' where
  folder s := (h'.folder s).trans (h.folder s)
  cached s := (h'.cached s).trans (h.cached s)
  offers := by
    obtain ⟨first, offers, all⟩ := h.offers
    obtain ⟨second, offers', all'⟩ := h'.offers
    refine ⟨first ++ second, ?_, fun o ho => (mem_append.1 ho).elim (all o) (all' o)⟩
    rw [offers', offers, append_assoc]

instance : Std.Refl (Sends P) := ⟨refl⟩

instance : Trans (Sends P) (Sends P) (Sends P) := ⟨trans⟩

theorem mono (h : Sends P w w') (le : ∀ o, P o → Q o) : Sends Q w w' :=
  ⟨h.folder, h.cached, h.offers.imp fun _ ⟨offers, all⟩ => ⟨offers, fun o ho => le o (all o ho)⟩⟩

theorem forall_offers (h : Sends P w w') (all : ∀ o ∈ w.offers, P o) : ∀ o ∈ w'.offers, P o := by
  obtain ⟨more, offers, new⟩ := h.offers
  rw [offers]
  exact fun o ho => (mem_append.1 ho).elim (all o) (new o)

theorem of_still (still : ∀ s, (w'.store s).backing.folder? = (w.store s).backing.folder? ∧
    (w'.store s).cached = (w.store s).cached) (offers : w'.offers = w.offers) : Sends P w w' :=
  ⟨fun s => (still s).1, fun s => (still s).2, [], by rw [offers, append_nil], nofun⟩

end Sends

theorem Frame.sends (h : Frame w w') : Sends P w w' := by
  refine Sends.of_still (fun s => ⟨?_, h.cached s⟩) h.offers
  rw [← Backing.folder?_still, h.backing s, Backing.folder?_still]

theorem sends_setShelf {s : Source} {x : Shelf} (found : (w.store s).backing = .shelf x) (y : Shelf)
    (elapsed : Rat) : Sends P w { w.setShelf s y with elapsed } := by
  refine Sends.of_still (fun t => ?_) (by cases s <;> rfl)
  have store : ({ w.setShelf s y with elapsed } : World).store t = (w.setShelf s y).store t := by
    cases t <;> rfl
  rw [store]
  by_cases eq : t = s
  · subst eq
    rw [setShelf, store_setStore, found]
    exact ⟨rfl, rfl⟩
  · rw [setShelf, store_setStore_ne _ _ eq]
    exact ⟨rfl, rfl⟩

theorem disk_setShelf (w : World) (s : Source) (y : Shelf) : (w.setShelf s y).disk = w.disk := by
  cases s <;> rfl

end World

namespace Action

open World (Frame Sends)

variable {P : Offer → Prop} (s : Source) (key : Key) (content : String) (expected : Option Value)
  (w : World)

/-- What a write leads to on the disk. -/
def diskAfter : Disk :=
  match (w.store s).backing.folder? with
  | some f => (f.write w.disk key content expected).2
  | none => w.disk

theorem writeThrough_sends : Sends P w ((writeThrough s key content expected).ends w).2 ∧
      ((writeThrough s key content expected).ends w).2.disk = diskAfter s key content expected w := by
  unfold writeThrough diskAfter
  rw [ends_bind_of_ok (ends_get w)]
  cases found : (w.store s).backing with
  | shelf x =>
    rw [ends_onShelf]
    exact ⟨World.sends_setShelf found _ _, World.disk_setShelf w s _⟩
  | folder f =>
    obtain ⟨log, ended⟩ := ends_onDisk (f.write · key content expected) w
    rw [ended]
    refine ⟨Sends.of_still (fun t => ?_) rfl, rfl⟩
    cases t <;> exact ⟨rfl, rfl⟩
  | repository r =>
    have frame : Frame w _ := (getEntry_frame s key).bind
      (fun entry => onWeb_frame (r.write key entry content expected)) w
    exact ⟨frame.sends, frame.disk⟩
  | catalog c => exact ⟨Sends.refl w, rfl⟩

theorem exists_ends_dropListings : ∃ n w', (dropListings s).ends w = (.ok n, w') := by
  rw [dropListings, ends_bind_of_ok (ends_get w)]
  split <;> exact ⟨_, _, rfl⟩

theorem ends_bind_dropListings {α : Type} (act : Action α) : ∃ w', ends (do
      let a ← act
      let _ ← dropListings s
      return a) w = ((act.ends w).1, w') ∧ Frame (act.ends w).2 w' := by
  rw [ends_bind]
  rcases act.ends w with ⟨e | a, w₁⟩
  · exact ⟨w₁, rfl, .refl w₁⟩
  · have frame := dropListings_frame s w₁
    obtain ⟨n, w₂, dropped⟩ := exists_ends_dropListings s w₁
    rw [dropped] at frame
    exact ⟨w₂, ends_bind_of_ok dropped _, frame⟩

theorem ends_write : ∃ w', (write s key content expected).ends w =
    (((writeThrough s key content expected).ends (w.offer ⟨s, key, content⟩)).1, w') ∧
      Frame ((writeThrough s key content expected).ends (w.offer ⟨s, key, content⟩)).2 w' :=
  ends_bind_dropListings s (w.offer ⟨s, key, content⟩) (writeThrough s key content expected)

theorem ends_delete : ∃ w', (delete s key expected).ends w = (((deleteThrough s key expected).ends w).1, w') ∧
      Frame ((deleteThrough s key expected).ends w).2 w' :=
  ends_bind_dropListings s w (deleteThrough s key expected)

theorem offers_write : ((write s key content expected).ends w).2.offers = w.offers ++ [⟨s, key, content⟩] := by
  obtain ⟨w', ended, frame⟩ := ends_write s key content expected w
  obtain ⟨more, offers, none⟩ := (writeThrough_sends (P := fun _ => False) s key content expected
    (w.offer ⟨s, key, content⟩)).1.offers
  rw [ended, frame.offers, offers, eq_nil_iff_forall_not_mem.2 none, append_nil]
  rfl

theorem write_sends : Sends (· = ⟨s, key, content⟩) w ((write s key content expected).ends w).2 ∧
      ⟨s, key, content⟩ ∈ ((write s key content expected).ends w).2.offers ∧
      ((write s key content expected).ends w).2.disk = diskAfter s key content expected w := by
  have offered : Sends (· = ⟨s, key, content⟩) w (w.offer ⟨s, key, content⟩) :=
    ⟨fun t => by cases t <;> rfl, fun t => by cases t <;> rfl, [⟨s, key, content⟩], rfl,
      fun o ho => mem_singleton.1 ho⟩
  have same : diskAfter s key content expected (w.offer ⟨s, key, content⟩) =
      diskAfter s key content expected w := by
    cases s <;> rfl
  obtain ⟨sends, disk⟩ := writeThrough_sends (P := (· = ⟨s, key, content⟩)) s key content expected
    (w.offer ⟨s, key, content⟩)
  have known := offers_write s key content expected w
  obtain ⟨w', ended, frame⟩ := ends_write s key content expected w
  rw [ended] at known ⊢
  refine ⟨(offered.trans sends).trans frame.sends, ?_, frame.disk.trans (disk.trans same)⟩
  rw [known]
  exact mem_append_right _ (mem_singleton.2 rfl)

theorem delete_sends : Sends P w ((delete s key expected).ends w).2 ∧
      ((w.store s).backing.folder? = none → ((delete s key expected).ends w).2.disk = w.disk) := by
  have through : Sends P w ((deleteThrough s key expected).ends w).2 ∧ ((w.store s).backing.folder? = none →
        ((deleteThrough s key expected).ends w).2.disk = w.disk) := by
    unfold deleteThrough
    rw [ends_bind_of_ok (ends_get w)]
    cases found : (w.store s).backing with
    | shelf x =>
      rw [ends_onShelf]
      exact ⟨World.sends_setShelf found _ _, fun _ => World.disk_setShelf w s _⟩
    | folder f =>
      obtain ⟨log, ended⟩ := ends_onDisk (f.delete · key expected) w
      rw [ended]
      refine ⟨Sends.of_still (fun t => ?_) rfl, nofun⟩
      cases t <;> exact ⟨rfl, rfl⟩
    | repository r =>
      suffices frame : Frame w _ from ⟨frame.sends, fun _ => frame.disk⟩
      refine (getEntry_frame s key).bind (fun found => ?_) w
      cases found with
      | some entry => exact onWeb_frame _
      | none => exact Moves.pure _
    | catalog c => exact ⟨Sends.refl w, fun _ => rfl⟩
  obtain ⟨w', ended, frame⟩ := ends_delete s key expected w
  rw [ended]
  exact ⟨through.1.trans frame.sends, fun none => frame.disk.trans (through.2 none)⟩

section Backings

variable {s w} {x : Shelf} {f : Folder}

theorem ends_writeThrough_shelf (backing : (w.store s).backing = .shelf x) :
    (writeThrough s key content expected).ends w = (onShelf s x (x.write key content expected)).ends w := by
  rw [writeThrough, ends_bind_of_ok (ends_get w), backing]

theorem ends_deleteThrough_shelf (backing : (w.store s).backing = .shelf x) :
    (deleteThrough s key expected).ends w = (onShelf s x (x.delete key)).ends w := by
  rw [deleteThrough, ends_bind_of_ok (ends_get w), backing]

theorem ends_writeThrough_folder (backing : (w.store s).backing = .folder f) : ∃ log,
    (writeThrough s key content expected).ends w = ((f.write w.disk key content expected).1,
      { w with disk := (f.write w.disk key content expected).2, log }) := by
  rw [writeThrough, ends_bind_of_ok (ends_get w), backing]
  exact ends_onDisk (f.write · key content expected) w

theorem ends_deleteThrough_folder (backing : (w.store s).backing = .folder f) : ∃ log,
    (deleteThrough s key expected).ends w = ((f.delete w.disk key expected).1,
      { w with disk := (f.delete w.disk key expected).2, log }) := by
  rw [deleteThrough, ends_bind_of_ok (ends_get w), backing]
  exact ends_onDisk (f.delete · key expected) w

theorem ends_write_folder (backing : (w.store s).backing = .folder f) : ∃ w',
    (write s key content expected).ends w = ((f.write w.disk key content expected).1, w') ∧
      Frame { w.offer ⟨s, key, content⟩ with disk := (f.write w.disk key content expected).2 } w' := by
  obtain ⟨w', ended, frame⟩ := ends_write s key content expected w
  obtain ⟨log, through⟩ := ends_writeThrough_folder key content expected ((w.backing_offer _ s).trans backing)
  rw [through] at ended frame
  refine ⟨w', ended, .trans ?_ frame⟩
  exact .of_eq rfl rfl rfl rfl rfl

theorem ends_delete_folder (backing : (w.store s).backing = .folder f) : ∃ w',
    (delete s key expected).ends w = ((f.delete w.disk key expected).1, w') ∧
      Frame { w with disk := (f.delete w.disk key expected).2 } w' := by
  obtain ⟨w', ended, frame⟩ := ends_delete s key expected w
  obtain ⟨log, through⟩ := ends_deleteThrough_folder key expected backing
  rw [through] at ended frame
  refine ⟨w', ended, .trans ?_ frame⟩
  exact .of_eq rfl rfl rfl rfl rfl

end Backings

end Action

namespace Portfolio

open TriStore.Action
open World (Frame)

theorem apply_moves {R : World → World → Prop} [Std.Refl R] [Trans R R R] {p : Portfolio}
    (warns : ∀ text, (warn text).Moves R) (reports : ∀ text, (report text).Moves R)
    (forgets : ∀ s, (p.written s).Moves R) (i : PlanItem) (w : World) :
    R ((p.carryOut i).ends w).2 ((p.apply i).ends w).2 := by
  rw [apply, ends_bind_of_ok (ends_attempt (p.carryOut i) w)]
  generalize ((p.carryOut i).ends w).2 = w'
  cases ((p.carryOut i).ends w).1 with
  | ok u => exact (forgets _).bind (fun _ => Moves.pure _) w'
  | error e =>
    have other : Moves R (do
        if !e.isRecoverable then throw e
        Action.report ("Failed to " ++ i.step.label ++ " " ++ i.key.label ++ ": " ++ e.message)
        return (⟨i, .failed, e.message⟩ : Outcome)) := by
      split
      · exact Moves.throw _
      · exact (reports _).bind fun _ => Moves.pure _
    cases e with
    | conflict k reason => exact (warns _).bind (fun _ => Moves.pure _) w'
    | _ => exact other w'

theorem apply_frame (p : Portfolio) (i : PlanItem) (w : World) :
    Frame ((p.carryOut i).ends w).2 ((p.apply i).ends w).2 :=
  apply_moves warn_frame report_frame p.written_frame i w

end Portfolio

end TriStore
