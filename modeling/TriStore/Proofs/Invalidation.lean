import TriStore.Proofs.FreshSearch

/-!
Writes and deletes, and what they leave of the caches. A store that changed has none of its listings
kept; the hits kept for it are dropped by the caller.
-/
namespace TriStore

def replace (x : Source → Shelf) (s : Source) (y : Shelf) (t : Source) : Shelf :=
  if t = s then y else x t

@[simp] theorem replace_self (x : Source → Shelf) (s : Source) (y : Shelf) : replace x s y s = y :=
  if_pos rfl

theorem replace_ne (x : Source → Shelf) {s t : Source} (h : t ≠ s) (y : Shelf) : replace x s y t = x t :=
  if_neg h

/-- The stores keep their listings as before, and the same calls are under way. -/
structure World.Steady (w w' : World) : Prop where
  cached : ∀ s, (w'.store s).cached = (w.store s).cached
  running : w'.running = w.running

theorem World.Steady.trans {w w' w'' : World} (h : Steady w w') (h' : Steady w' w'') : Steady w w'' where
  cached s := (h'.cached s).trans (h.cached s)
  running := h'.running.trans h.running

theorem World.Steady.of_settles {w w' : World} (h : Settles w w') : Steady w w' := ⟨h.frame.cached, h.running⟩

namespace Shelf

variable {x : Shelf} {key : Key} {e : Failure}

theorem write_calls (x : Shelf) (calls : Calls) (key : Key) (content : String) (expected : Option Value) :
    (write { x with calls } key content expected).1 = (x.write key content expected).1 ∧
      (Backing.shelf (write { x with calls } key content expected).2).still =
        (Backing.shelf (x.write key content expected).2).still := by
  have check : check { x with calls } = x.check := rfl
  have checkWrite : checkWrite { x with calls } key expected = x.checkWrite key expected := rfl
  rw [write_eq, write_eq, check, checkWrite]
  split
  · exact ⟨rfl, rfl⟩
  · split <;> exact ⟨rfl, rfl⟩

theorem delete_calls (x : Shelf) (calls : Calls) (key : Key) : (delete { x with calls } key).1 = (x.delete key).1 ∧
      (Backing.shelf (delete { x with calls } key).2).still = (Backing.shelf (x.delete key).2).still := by
  have check : check { x with calls } = x.check := rfl
  rw [delete_eq, delete_eq, check]
  split
  · exact ⟨rfl, rfl⟩
  · split <;> exact ⟨rfl, rfl⟩

theorem still_write_of_error {content : String} {expected : Option Value} (encodes : Digest.Encodes content)
    (error : (x.write key content expected).1 = .error e) :
    (Backing.shelf (x.write key content expected).2).still = (Backing.shelf x).still := by
  obtain ⟨calls, ⟨_, fails⟩ | ⟨-, -, -, puts⟩⟩ := x.write_cases key content expected
  · rw [fails]
    rfl
  · obtain ⟨b, hb⟩ := Digest.blob_eq_ok_iff.2 encodes
    rw [puts, hb] at error
    cases error

theorem still_delete_of_error (error : (x.delete key).1 = .error e) :
    (Backing.shelf (x.delete key).2).still = (Backing.shelf x).still := by
  obtain ⟨calls, ⟨_, fails⟩ | ⟨-, -, erases⟩⟩ := x.delete_cases key
  · rw [fails]
    rfl
  · rw [erases] at error
    cases error

end Shelf

namespace Action

open World (Settles)

theorem ends_dropListings (s : Source) (w : World) : ∃ n w', (dropListings s).ends w = (.ok n, w') ∧ Settles w w' ∧
      ((w.store s).cached = true → ∀ i ∈ w'.listings.items, ¬s.keyFront.toList <+: i.key.toList) := by
  unfold dropListings
  rw [ends_bind_of_ok (ends_get w)]
  by_cases cached : (w.store s).cached = true
  · refine ⟨_, _, by simp only [cached]; rfl, ?_, fun _ i hi => ?_⟩
    · exact ⟨.of_eq rfl rfl rfl rfl rfl, fun i hi => (Cache.mem_invalidatePrefix.1 hi).1, fun _ h => h, rfl, rfl⟩
    · exact (Cache.mem_invalidatePrefix.1 hi).2
  · exact ⟨0, w, by simp [cached], .refl w, fun h => absurd h cached⟩

theorem onShelf_world {α : Type} (s : Source) (before : Shelf) (x : Except Failure α × Shelf)
    (w : World) : ∃ w', (onShelf s before x).ends w = (x.1, w') ∧
      (w'.store s).backing = .shelf x.2 ∧ (∀ t, t ≠ s → w'.store t = w.store t) ∧
      World.Steady w w' ∧ w'.listings = w.listings ∧ w'.results = w.results := by
  have store : ∀ t elapsed, ({ w.setShelf s x.2 with elapsed } : World).store t = (w.setShelf s x.2).store t := by
    intro t elapsed
    cases t <;> rfl
  refine ⟨_, ends_onShelf s before x w, ?_, fun t ne => ?_, ⟨fun t => ?_, ?_⟩, ?_, ?_⟩
  · rw [store, World.setShelf, World.store_setStore]
  · rw [store, World.setShelf, World.store_setStore_ne w _ ne]
  · cases s <;> cases t <;> rfl
  all_goals cases s <;> rfl

end Action

namespace Agrees

open TriStore.Action

variable {D : Source → Prop} {K : Source → String → Option Kind → Prop} {x : Source → Shelf}
  {w w' : World} {s : Source}

theorem change (h : Agrees D K x w) {y : Shelf} (changed : (w'.store s).backing.still = (Backing.shelf y).still)
    (others : ∀ t, t ≠ s → (w'.store t).backing.still = (w.store t).backing.still)
    (steady : World.Steady w w') (listings : ∀ i ∈ w'.listings.items, i ∈ w.listings.items)
    (dropped : (w.store s).cached = true → ∀ i ∈ w'.listings.items, ¬s.keyFront.toList <+: i.key.toList)
    (results : ∀ i ∈ w'.results.items, i ∈ w.results.items) :
    Agrees D (fun t q k => t ≠ s ∧ K t q k) (replace x s y) w' where
  holds t ht := by
    by_cases same : t = s
    · subst same
      rw [changed, replace_self]
    · rw [others t same, h.holds t ht, replace_ne x same]
  listings t ht isCached kind i hi key := by
    rw [steady.cached] at isCached
    by_cases same : t = s
    · subst same
      refine absurd ?_ (dropped isCached i hi)
      rw [key, listingKey, String.append_assoc]
      exact Source.keyFront_prefix_iff.2 rfl
    · rw [replace_ne x same]
      exact h.listings t ht isCached kind i (listings i hi) key
  results t query kind hk i hi key := by
    rw [replace_ne x hk.1]
    exact h.results t query kind hk.2 i (results i hi) key
  idle some := by
    obtain ⟨t, query, kind, -, hk⟩ := some
    exact steady.running.trans (h.idle ⟨t, query, kind, hk⟩)

theorem congr {x' : Source → Shelf} (h : Agrees D K x w)
    (same : ∀ s, (Backing.shelf (x' s)).still = (Backing.shelf (x s)).still) : Agrees D K x' w := by
  have counted : ∀ s, ∃ calls, x' s = { x s with calls } := by
    intro s
    obtain ⟨calls, eq⟩ := Backing.exists_of_still (same s)
    exact ⟨calls, Backing.shelf.inj eq⟩
  have entries : ∀ s kind, (x' s).entries kind = (x s).entries kind := by
    intro s kind
    obtain ⟨calls, eq⟩ := counted s
    rw [eq]
    rfl
  refine ⟨fun s hs => (h.holds s hs).trans (same s).symm, ?_, ?_, h.idle⟩
  · intro s hs cached kind i hi key
    rw [entries]
    exact h.listings s hs cached kind i hi key
  · intro s query kind hk i hi key
    rw [Shelf.hits, entries]
    exact h.results s query kind hk i hi key

theorem weaken {K' : Source → String → Option Kind → Prop} (h : Agrees D K x w)
    (le : ∀ s q k, K' s q k → K s q k) : Agrees D K' x w where
  holds := h.holds
  listings := h.listings
  results s q k hk := h.results s q k (le s q k hk)
  idle := fun ⟨s, q, k, hk⟩ => h.idle ⟨s, q, k, le s q k hk⟩

theorem ends_shelfChange {α : Type} (h : Agrees D K x w) (hs : D s) {f : Shelf → Except Failure α × Shelf}
    (fair : ∀ calls, (f { x s with calls }).1 = (f (x s)).1 ∧
      (Backing.shelf (f { x s with calls }).2).still = (Backing.shelf (f (x s)).2).still)
    (safe : ((∀ t q k, ¬K t q k) ∧ (w.store s).cached = false) ∨ ∀ e, (f (x s)).1 = .error e →
      (Backing.shelf (f (x s)).2).still = (Backing.shelf (x s)).still)
    {act : Action α} (onShelf : ∀ y, (w.store s).backing = .shelf y →
      act.ends w = (Action.onShelf s y (f y)).ends w) :
    ∃ w', ends (do let a ← act; let _ ← dropListings s; return a) w = ((f (x s)).1, w') ∧
      World.Steady w w' ∧ (∀ e, (f (x s)).1 = .error e → Agrees D K (replace x s (f (x s)).2) w') ∧
      (∀ a, (f (x s)).1 = .ok a → Agrees D (fun t q k => t ≠ s ∧ K t q k) (replace x s (f (x s)).2) w') := by
  obtain ⟨calls, found⟩ := Backing.exists_of_still (h.holds s hs)
  obtain ⟨result, still⟩ := fair calls
  obtain ⟨w₁, ended, backing, others, steady, listings, results⟩ :=
    onShelf_world s { x s with calls } (f { x s with calls }) w
  rw [← onShelf _ found, result] at ended
  have changed : (w₁.store s).backing.still = (Backing.shelf (f (x s)).2).still := by
    rw [backing, still]
  have others' : ∀ t, t ≠ s → (w₁.store t).backing.still = (w.store t).backing.still := by
    intro t ne
    rw [others t ne]
  cases outcome : (f (x s)).1 with
  | error e =>
    rw [outcome] at ended
    refine ⟨w₁, ends_bind_of_error ended _, steady, fun _ _ => ?_, nofun⟩
    rcases safe with ⟨none, uncached⟩ | same
    · have free := h.change changed others' steady (by rw [listings]; exact fun _ h => h)
        (fun isCached => by simp [uncached] at isCached) (by rw [results]; exact fun _ h => h)
      exact free.weaken fun t q k hk => absurd hk (none t q k)
    · have kept : ∀ t, (Backing.shelf (replace x s (f (x s)).2 t)).still = (Backing.shelf (x t)).still := by
        intro t
        by_cases eq : t = s
        · rw [eq, replace_self, same e outcome]
        · rw [replace_ne x eq]
      refine Agrees.congr ⟨fun t ht => ?_, fun t ht isCached => ?_, ?_, fun some => ?_⟩ kept
      · by_cases eq : t = s
        · subst eq
          rw [changed, same e outcome]
        · rw [others' t eq, h.holds t ht]
      · rw [listings]
        exact h.listings t ht (by rw [← steady.cached, isCached])
      · rw [results]
        exact h.results
      · exact steady.running.trans (h.idle some)
  | ok a =>
    rw [outcome] at ended
    obtain ⟨n, w₂, dropped, settles, gone⟩ := ends_dropListings s w₁
    refine ⟨w₂, ?_, steady.trans (.of_settles settles), nofun, fun _ _ => ?_⟩
    · rw [ends_bind_of_ok ended, ends_bind_of_ok dropped, ends_pure]
    · refine h.change ((settles.frame.backing s).trans changed)
        (fun t ne => (settles.frame.backing t).trans (others' t ne))
        (steady.trans (.of_settles settles)) ?_ ?_ ?_
      · rw [← listings]
        exact settles.listings
      · rw [← steady.cached]
        exact gone
      · rw [← results]
        exact settles.results

theorem ends_write (h : Agrees D K x w) (hs : D s) (key : Key) {content : String} (expected : Option Value)
    (safe : ((∀ t q k, ¬K t q k) ∧ (w.store s).cached = false) ∨ Digest.Encodes content) :
    ∃ w', (write s key content expected).ends w = (((x s).write key content expected).1, w') ∧
      World.Steady w w' ∧ (∀ e, ((x s).write key content expected).1 = .error e →
        Agrees D K (replace x s ((x s).write key content expected).2) w') ∧
      (∀ v, ((x s).write key content expected).1 = .ok v → Agrees D (fun t q k => t ≠ s ∧ K t q k)
        (replace x s ((x s).write key content expected).2) w') := by
  have store : ∀ t, (w.offer ⟨s, key, content⟩).store t = w.store t := by
    intro t
    cases t <;> rfl
  have offered : Agrees D K x (w.offer ⟨s, key, content⟩) :=
    ⟨fun t => by rw [store]; exact h.holds t, fun t => by rw [store]; exact h.listings t, h.results, h.idle⟩
  have through : ∀ y, ((w.offer ⟨s, key, content⟩).store s).backing = .shelf y →
      (writeThrough s key content expected).ends (w.offer ⟨s, key, content⟩) =
        (onShelf s y (y.write key content expected)).ends (w.offer ⟨s, key, content⟩) := by
    intro y found
    simp only [writeThrough, ends_bind, ends_get, found]
  obtain ⟨w', ended, steady, failed, done⟩ := offered.ends_shelfChange hs
    (f := fun y => y.write key content expected)
    (fun calls => (x s).write_calls calls key content expected)
    (by rw [store]; exact safe.imp_right fun encodes _ => Shelf.still_write_of_error encodes) through
  exact ⟨w', ended, ⟨fun t => by rw [steady.cached, store], steady.running⟩, failed, done⟩

theorem ends_delete (h : Agrees D K x w) (hs : D s) (key : Key) (expected : Option Value) :
    ∃ w', (delete s key expected).ends w = (((x s).delete key).1, w') ∧ World.Steady w w' ∧
      (∀ e, ((x s).delete key).1 = .error e → Agrees D K (replace x s ((x s).delete key).2) w') ∧
      (∀ v, ((x s).delete key).1 = .ok v →
        Agrees D (fun t q k => t ≠ s ∧ K t q k) (replace x s ((x s).delete key).2) w') := by
  have through : ∀ y, (w.store s).backing = .shelf y →
      (deleteThrough s key expected).ends w = (onShelf s y (y.delete key)).ends w := by
    intro y found
    simp only [deleteThrough, ends_bind, ends_get, found]
  exact h.ends_shelfChange hs (f := fun y => y.delete key)
    (fun calls => (x s).delete_calls calls key) (.inr fun _ => Shelf.still_delete_of_error) through

theorem ends_fetch (h : Agrees D K x w) (hs : D s) (key : Key) :
    ∃ w', (fetch s key).ends w = ((x s).content key, w') ∧ World.Steady w w' ∧ Agrees D K x w' := by
  obtain ⟨calls, found⟩ := Backing.exists_of_still (h.holds s hs)
  have frame := fetch_frame s key w
  obtain ⟨w', ended, -, -, steady, listings, results⟩ :=
    onShelf_world s { x s with calls } (Shelf.fetch { x s with calls } key) w
  have fetched : (fetch s key).ends w = ((x s).content key, w') := by
    simp only [fetch, ends_bind, ends_get, found]
    exact ended
  rw [fetched] at frame
  refine ⟨w', fetched, steady, h.mono frame ?_ ?_ steady.running⟩
  · rw [listings]
    exact fun _ h => h
  · rw [results]
    exact fun _ h => h

theorem ends_forgetAll (h : Agrees D (fun t q k => t ≠ s ∧ K t q k) x w) (p : Portfolio)
    (idle : (∃ t q k, K t q k) → w.running = []) :
    ∃ n w', (p.forgetAll [s]).ends w = (.ok n, w') ∧ Agrees D K x w' := by
  let w₁ := { w with results := (w.results.invalidatePrefix s.keyFront).2 }
  have h₁ : Agrees D K x w₁ := by
    refine ⟨h.holds, h.listings, fun t query kind hk i hi key => ?_, idle⟩
    obtain ⟨old, other⟩ := Cache.mem_invalidatePrefix.1 hi
    have ne : t ≠ s := by
      rintro rfl
      obtain ⟨bs, -, made⟩ := Portfolio.resultsKey_eq_ok.1 key
      rw [made] at other
      exact other (Source.keyFront_prefix_iff.2 rfl)
    exact h.results t query kind ⟨ne, hk⟩ i old key
  obtain ⟨n, w₂, dropped, settles, -⟩ := ends_dropListings s w₁
  rw [Portfolio.forgetAll, ends_bind_of_ok (ends_get w)]
  rw [ends_bind_of_ok (ends_set w w₁)]
  split
  · rw [ends_bind_of_ok dropped]
    exact ⟨_, w₂, rfl, h₁.settles settles⟩
  · exact ⟨_, w₁, rfl, h₁⟩

end Agrees

end TriStore
