import TriStore.Proofs.CompareAndSwap
import TriStore.Proofs.Syncing

/-!
Stores in memory behind caches that may hold anything: no fetch, write or delete looks into a cache.
-/
namespace TriStore

open TriStore.Action
open World (Frame)

/-- The stores in question are these shelves, but for the counts of their calls. -/
def World.Has (D : Source → Prop) (x : Source → Shelf) (w : World) : Prop :=
  ∀ s, D s → (w.store s).backing.still = (Backing.shelf (x s)).still

theorem World.Frame.has {D : Source → Prop} {x : Source → Shelf} {w w' : World} (frame : Frame w w')
    (h : w.Has D x) : w'.Has D x :=
  fun s hs => (frame.backing s).trans (h s hs)

namespace World.Has

variable {D : Source → Prop} {x : Source → Shelf} {w : World} {s : Source}

theorem congr {y : Source → Shelf} (h : w.Has D x)
    (same : ∀ s, (Backing.shelf (y s)).still = (Backing.shelf (x s)).still) : w.Has D y :=
  fun s hs => (h s hs).trans (same s).symm

theorem replace_congr {y y' : Shelf} (h : w.Has D (replace x s y))
    (same : (Backing.shelf y').still = (Backing.shelf y).still) : w.Has D (replace x s y') := by
  refine h.congr fun t => ?_
  by_cases eq : t = s
  · rw [eq, replace_self, replace_self, same]
  · rw [replace_ne x eq, replace_ne x eq]

theorem replace_iff {y : Shelf} (same : (Backing.shelf y).still = (Backing.shelf (x s)).still) :
    w.Has D (replace x s y) ↔ w.Has D x := by
  have still : ∀ t, (Backing.shelf (replace x s y t)).still = (Backing.shelf (x t)).still := by
    intro t
    by_cases eq : t = s
    · rw [eq, replace_self, same]
    · rw [replace_ne x eq]
  exact ⟨fun h => h.congr fun t => (still t).symm, fun h => h.congr still⟩

theorem ends_onShelf {α : Type} (h : w.Has D x) (hs : D s) {f : Shelf → Except Failure α × Shelf}
    (fair : ∀ calls, (f { x s with calls }).1 = (f (x s)).1 ∧
      (Backing.shelf (f { x s with calls }).2).still = (Backing.shelf (f (x s)).2).still) :
    ∃ y w', (w.store s).backing = .shelf y ∧ (onShelf s y (f y)).ends w = ((f (x s)).1, w') ∧
      w'.Has D (replace x s (f (x s)).2) := by
  obtain ⟨calls, found⟩ := Backing.exists_of_still (h s hs)
  obtain ⟨result, still⟩ := fair calls
  obtain ⟨w', ended, backing, others, -⟩ := onShelf_world s { x s with calls } (f { x s with calls }) w
  refine ⟨_, w', found, by rw [ended, result], fun t ht => ?_⟩
  by_cases eq : t = s
  · rw [eq, backing, still, replace_self]
  · rw [others t eq, h t ht, replace_ne x eq]

theorem ends_fetch (h : w.Has D x) (hs : D s) (key : Key) :
    ∃ w', (fetch s key).ends w = ((x s).content key, w') ∧ w'.Has D x := by
  obtain ⟨y, w', found, ended, -⟩ := h.ends_onShelf hs (f := (·.fetch key)) fun calls => ⟨rfl, rfl⟩
  have fetched : (fetch s key).ends w = ((x s).content key, w') := by
    rw [fetch, ends_bind_of_ok (ends_get w), found]
    exact ended
  have frame := fetch_frame s key w
  rw [fetched] at frame
  exact ⟨w', fetched, frame.has h⟩

theorem ends_write (h : w.Has D x) (hs : D s) (key : Key) (content : String) (expected : Option Value) :
    ∃ w', (write s key content expected).ends w = (((x s).write key content expected).1, w') ∧
      w'.Has D (replace x s ((x s).write key content expected).2) := by
  have offered : (w.offer ⟨s, key, content⟩).Has D x := fun t ht => by
    rw [World.backing_offer, h t ht]
  obtain ⟨y, w₁, found, ended, h₁⟩ := offered.ends_onShelf hs (f := (·.write key content expected))
    fun calls => (x s).write_calls calls key content expected
  obtain ⟨w₂, written, frame⟩ := Action.ends_write s key content expected w
  rw [ends_writeThrough_shelf key content expected found, ended] at written frame
  exact ⟨w₂, written, frame.has h₁⟩

theorem ends_delete (h : w.Has D x) (hs : D s) (key : Key) (expected : Option Value) :
    ∃ w', (delete s key expected).ends w = (((x s).delete key).1, w') ∧
      w'.Has D (replace x s ((x s).delete key).2) := by
  obtain ⟨y, w₁, found, ended, h₁⟩ := h.ends_onShelf hs (f := (·.delete key))
    fun calls => (x s).delete_calls calls key
  obtain ⟨w₂, deleted, frame⟩ := Action.ends_delete s key expected w
  rw [ends_deleteThrough_shelf key expected found, ended] at deleted frame
  exact ⟨w₂, deleted, frame.has h₁⟩

theorem ends_carryOut (hD : ∀ s, s ≠ .registry → D s) (h : w.Has D x) (p : Portfolio) (i : PlanItem) :
    ∃ w', (p.carryOut i).ends w = ((p.carryOn x i).1, w') ∧
      w'.Has D (replace x (Portfolio.endsOf i.flow).2 (p.carryOn x i).2) := by
  obtain ⟨source, target⟩ := Portfolio.endsOf_ne_registry i.flow
  unfold Portfolio.carryOut Portfolio.carryOn
  split
  · exact h.ends_delete (hD _ target) i.key (Portfolio.expectedOf i)
  · obtain ⟨w₁, fetched, h₁⟩ := h.ends_fetch (hD _ source) i.key
    have found := p.ends_contentFor_eq i w
    rw [fetched] at found
    change _ = (p.contentOn x i, w₁) at found
    cases content : p.contentOn x i with
    | error e =>
      rw [content] at found
      exact ⟨w₁, ends_bind_of_error found _, (replace_iff rfl).2 h₁⟩
    | ok c =>
      rw [content] at found
      obtain ⟨w₂, written, h₂⟩ := h₁.ends_write (hD _ target) i.key c
        (if i.step == .update then Portfolio.expectedOf i else none)
      refine ⟨w₂, ?_, h₂⟩
      rw [ends_bind_of_ok found, ends_bind, written]
      dsimp only
      cases ((x (Portfolio.endsOf i.flow).2).write i.key c _).1 <;> rfl

end World.Has

end TriStore
