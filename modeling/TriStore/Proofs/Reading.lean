import TriStore.Proofs.Action

/-!
Listing, fetching, searching and planning change counts, caches, times and the log, but no store and no
file.
-/
namespace TriStore

/-- What a store rests on, without the counts of its calls. -/
def Backing.still : Backing → Backing
  | .shelf x => .shelf { x with calls := {} }
  | b => b

namespace World

/-- Between the two worlds no store changed, no file, and nothing was offered to a store. -/
structure Frame (w w' : World) : Prop where
  backing : ∀ s, (w'.store s).backing.still = (w.store s).backing.still
  cached : ∀ s, (w'.store s).cached = (w.store s).cached
  disk : w'.disk = w.disk
  offers : w'.offers = w.offers

namespace Frame

theorem refl (w : World) : Frame w w := ⟨fun _ => rfl, fun _ => rfl, rfl, rfl⟩

theorem trans {w w' w'' : World} (h : Frame w w') (h' : Frame w' w'') : Frame w w'' where
  backing s := (h'.backing s).trans (h.backing s)
  cached s := (h'.cached s).trans (h.cached s)
  disk := h'.disk.trans h.disk
  offers := h'.offers.trans h.offers

instance : Std.Refl Frame := ⟨refl⟩

instance : Trans Frame Frame Frame := ⟨trans⟩

theorem of_eq {w w' : World} (home : w'.home = w.home) (remote : w'.remote = w.remote)
    (registry : w'.registry = w.registry) (disk : w'.disk = w.disk) (offers : w'.offers = w.offers) :
    Frame w w' := by
  have store : ∀ s, w'.store s = w.store s := by
    intro s
    cases s <;> assumption
  exact ⟨fun s => by rw [store], fun s => by rw [store], disk, offers⟩

end Frame

end World

namespace Action

open World (Frame)

variable {α β : Type}

theorem moves_modify_frame {f : World → World} (h : ∀ w, Frame w (f w)) : Moves Frame (modify f : Action PUnit) := h

theorem warn_frame (text : String) : (warn text).Moves Frame :=
  moves_modify_frame fun _ => .of_eq rfl rfl rfl rfl rfl

theorem report_frame (text : String) : (report text).Moves Frame :=
  moves_modify_frame fun _ => .of_eq rfl rfl rfl rfl rfl

theorem warnAll_frame (lines : List String) : (warnAll lines).Moves Frame := Moves.forM warn_frame lines

theorem reportReset_frame {κ : Type} (c : Cache κ α) (e : Option Cache.Corruption) :
    (reportReset c e).Moves Frame := by
  cases e with
  | none => exact Moves.pure _
  | some e => exact report_frame _

theorem ends_onWeb (x : Exchange α) (w : World) :
    (onWeb x).ends w = ((x.run w.web).1, { w with web := (x.run w.web).2 }) := by
  have whole : (onWeb x).ends w =
      (liftExcept (x.run w.web).1 : Action α).ends { w with web := (x.run w.web).2 } := rfl
  rw [whole, ends_liftExcept]

theorem onWeb_frame (x : Exchange α) : (onWeb x).Moves Frame := by
  intro w
  rw [ends_onWeb]
  exact .of_eq rfl rfl rfl rfl rfl

theorem ends_onShelf (s : Source) (before : Shelf) (x : Except Failure α × Shelf) (w : World) :
    (onShelf s before x).ends w = (x.1, { w.setShelf s x.2 with
      elapsed := w.elapsed + if before.calls == x.2.calls then 0 else before.delay.toOption.getD 0 }) := by
  simp only [onShelf, ends_bind, ends_modify, ends_liftExcept]

theorem onShelf_frame {s : Source} {before : Shelf} {x : Except Failure α × Shelf} {w : World}
    (found : (w.store s).backing = .shelf before)
    (same : (Backing.shelf x.2).still = (Backing.shelf before).still) :
    Frame w ((onShelf s before x).ends w).2 := by
  rw [ends_onShelf]
  have other : Frame (w.setShelf s x.2) { w.setShelf s x.2 with
      elapsed := w.elapsed + if before.calls == x.2.calls then 0 else before.delay.toOption.getD 0 } :=
    .of_eq rfl rfl rfl rfl rfl
  refine Frame.trans ⟨fun t => ?_, fun t => ?_, ?_, ?_⟩ other
  · by_cases h : t = s
    · subst h
      simp only [World.setShelf, World.store_setStore, same, found]
    · simp only [World.setShelf, World.store_setStore_ne _ _ h]
  · by_cases h : t = s
    · subst h
      simp only [World.setShelf, World.store_setStore]
    · simp only [World.setShelf, World.store_setStore_ne _ _ h]
  · cases s <;> rfl
  · cases s <;> rfl

theorem loadEntries_frame (s : Source) (kind : Option Kind) : (loadEntries s kind).Moves Frame := by
  apply Moves.get_bind
  intro w
  cases found : (w.store s).backing with
  | shelf x => exact onShelf_frame found rfl
  | folder f =>
    exact (warnAll_frame _).bind (fun _ => Moves.liftExcept _) w
  | repository r => exact onWeb_frame _ w
  | catalog c => exact onWeb_frame _ w

theorem cachedListing_frame (s : Source) (kind : Option Kind) : (cachedListing s kind).Moves Frame := by
  apply Moves.get_bind
  intro w
  have step : Frame w { w with listings := (w.listings.get w.clock (listingKey s kind)).2.2 } :=
    .of_eq rfl rfl rfl rfl rfl
  exact Frame.trans step ((reportReset_frame _ _).bind (fun _ => Moves.pure _) _)

theorem keepListing_frame (s : Source) (kind : Option Kind) (entries : List Entry) :
    (keepListing s kind entries).Moves Frame := by
  apply Moves.get_bind
  intro w
  have step : Frame w { w with listings := (w.listings.set w.clock (listingKey s kind) entries
      (Footprint.estimate (Footprint.ofEntries entries))).2.2 } :=
    .of_eq rfl rfl rfl rfl rfl
  exact Frame.trans step (reportReset_frame _ _ _)

theorem listEntries_frame (s : Source) (kind : Option Kind) : (listEntries s kind).Moves Frame := by
  apply Moves.get_bind
  intro w
  split
  · exact loadEntries_frame s kind w
  · refine (cachedListing_frame s kind).bind (fun found => ?_) w
    cases found with
    | some entries => exact Moves.pure _
    | none =>
      exact (loadEntries_frame s kind).bind fun entries =>
        (keepListing_frame s kind entries).bind fun _ => Moves.pure _

theorem getEntry_frame (s : Source) (key : Key) : (getEntry s key).Moves Frame :=
  (listEntries_frame s _).bind fun _ => Moves.pure _

theorem dropListings_frame (s : Source) : (dropListings s).Moves Frame := by
  apply Moves.get_bind
  intro w
  split
  · exact Frame.refl w
  · exact .of_eq rfl rfl rfl rfl rfl

theorem fetch_frame (s : Source) (key : Key) : (fetch s key).Moves Frame := by
  apply Moves.get_bind
  intro w
  cases found : (w.store s).backing with
  | shelf x => exact onShelf_frame found rfl
  | folder f => exact Moves.get_bind (fun w => Moves.liftExcept _ w) w
  | repository r => exact (getEntry_frame s key).bind (fun _ => onWeb_frame _) w
  | catalog c => exact (getEntry_frame s key).bind (fun _ => onWeb_frame _) w

theorem searchStore_frame (s : Source) (query : String) (kind : Option Kind) :
    (searchStore s query kind).Moves Frame :=
  (listEntries_frame s kind).bind fun _ => Moves.liftExcept _

end Action

namespace Portfolio

open TriStore.Action
open World (Frame)

variable {α : Type}

/-- The world that a call leaves when its caller waits for it. -/
def waitedFor (s : Source) (after : World) : World := { after with called := s :: after.called }

/-- The world that a call leaves when its caller goes away at some time before its end. -/
def abandoned (s : Source) (time : Rat) (after : World) : World := { after with
  called := s :: after.called
  elapsed := time
  running := (s, after.elapsed) :: after.running.filter (·.1 != s) }

theorem ends_within (p : Portfolio) (s : Source) (act : Action α) (w : World) :
    (p.within s act).ends w = match p.timeout with
      | none => act.ends w
      | some wait =>
        if w.running.any fun r => r.1 == s && w.elapsed < r.2 then
          (.error (.unavailable s "previous call still running"), w)
        else
          let after := (act.ends w).2
          if isInstant w (waitedFor s after) s then ((act.ends w).1, waitedFor s after)
          else match wait with
            | .error e => (.error e, abandoned s w.elapsed after)
            | .ok limit =>
              if after.elapsed - w.elapsed ≤ limit then ((act.ends w).1, waitedFor s after)
              else (.error (.unavailable s ("timed out after " ++ fixed 1 limit ++ "s")),
                abandoned s (w.elapsed + limit) after) := by
  unfold within
  cases p.timeout with
  | none => rfl
  | some wait =>
    rw [ends_bind_of_ok (ends_get w)]
    dsimp only
    split
    · exact ends_bind_of_error (ends_throw _ w) _
    · show ends (if isInstant w (waitedFor s (act.ends w).2) s = true then _ else _) w = _
      split
      · exact (ends_bind_of_ok (ends_set w _) _).trans (ends_liftExcept _ _)
      · cases wait with
        | error e => rfl
        | ok limit =>
          show ends (if (act.ends w).2.elapsed - w.elapsed ≤ limit then _ else _) w = _
          dsimp only
          split
          · exact (ends_bind_of_ok (ends_set w _) _).trans (ends_liftExcept _ _)
          · rfl

theorem within_frame (p : Portfolio) (s : Source) {act : Action α} (h : act.Moves Frame) :
    (p.within s act).Moves Frame := by
  intro w
  have first := h w
  rw [ends_within]
  split
  · exact first
  · split
    · exact Frame.refl w
    · have waited : Frame w (waitedFor s (act.ends w).2) := first.trans (.of_eq rfl rfl rfl rfl rfl)
      have left : ∀ time, Frame w (abandoned s time (act.ends w).2) := fun time =>
        first.trans (.of_eq rfl rfl rfl rfl rfl)
      dsimp only
      split
      · exact waited
      · split
        · exact left _
        · split
          · exact waited
          · exact left _

theorem hitsIn_frame (p : Portfolio) (s : Source) (query : String) (kind : Option Kind) :
    (p.hitsIn s query kind).Moves Frame := by
  refine (Moves.liftExcept _).bind fun key => Moves.get_bind fun w => ?_
  have step : Frame w { w with results := (w.results.get w.clock key).2.2 } :=
    .of_eq rfl rfl rfl rfl rfl
  refine Frame.trans step ((reportReset_frame _ _).bind (fun _ => ?_) _)
  split
  · exact Moves.pure _
  · refine (p.within_frame s (searchStore_frame s query kind)).bind fun hits =>
      Moves.get_bind fun w => ?_
    have step : Frame w { w with results := (w.results.set w.clock key hits
        (Footprint.estimate (Footprint.ofHits hits))).2.2 } :=
      .of_eq rfl rfl rfl rfl rfl
    exact Frame.trans step ((reportReset_frame _ _).bind (fun _ => Moves.pure _) _)

section

variable {p : Portfolio} {query : String} {o : SearchOptions} {R : World → World → Prop} [Std.Refl R]
  [Trans R R R]

theorem ask_moves {s : Source} {kind : Option Kind}
    (hits : (p.hitsIn s query kind).Moves R) : (p.ask s query kind).Moves R := by
  refine Moves.tryCatch (hits.bind fun _ => Moves.pure _) fun e => ?_
  split
  · exact Moves.pure _
  · exact Moves.throw _

variable (logs : ∀ text, (warn text).Moves R)

include logs

theorem searchPolicy_moves (p : Portfolio) (o : SearchOptions) : (p.searchPolicy o).Moves R := by
  have lines : ∀ lines, (warnAll lines).Moves R := Moves.forM logs
  have policy : p.policy.Moves R := Moves.get_bind fun w => (lines _).bind (fun _ => Moves.liftExcept _) w
  exact policy.bind fun _ => (lines _).bind fun _ => (Moves.liftExcept _).bind fun _ =>
    (lines _).bind fun _ => Moves.pure _

theorem visit_moves
    (hits : ∀ s, (p.hitsIn s query o.kind).Moves R) (policy : Policy) (order : List Source) (tour : Tour) :
    (p.visit query o policy order tour).Moves R := by
  induction order generalizing tour with
  | nil => exact Moves.pure _
  | cons s rest ih =>
    refine (ask_moves (hits s)).bind fun found => ?_
    cases found with
    | error reason =>
      dsimp only
      split
      · exact (Moves.throw _).bind fun _ => (logs _).bind fun _ => ih _
      · exact (logs _).bind fun _ => ih _
    | ok found =>
      dsimp only
      split
      · exact Moves.pure _
      · exact ih _

theorem search_moves (hits : ∀ s, (p.hitsIn s query o.kind).Moves R) : (p.search query o).Moves R := by
  refine (searchPolicy_moves logs p o).bind fun policy => (Moves.liftExcept _).bind fun _ =>
    (visit_moves logs hits policy _ _).bind fun tour => (Moves.liftExcept _).bind fun _ => ?_
  split
  · exact Moves.pure _
  · exact Moves.throw _

end

theorem search_frame (p : Portfolio) (query : String) (o : SearchOptions) : (p.search query o).Moves Frame :=
  search_moves warn_frame fun s => p.hitsIn_frame s query o.kind

section

variable {R : World → World → Prop} [Std.Refl R] [Trans R R R] (results : ∀ w results, R w { w with results })
  (drop : ∀ s, (dropListings s).Moves R)

include results drop

theorem forgetAll_moves (p : Portfolio) (ss : List Source) : (p.forgetAll ss).Moves R := by
  induction ss with
  | nil => exact Moves.pure _
  | cons s rest ih =>
    apply Moves.get_bind
    intro w
    have step := results w (w.results.invalidatePrefix s.keyFront).2
    rw [ends_bind_of_ok (ends_set w _)]
    split
    · exact Trans.trans step ((drop s).bind (fun _ => ih.bind fun _ => Moves.pure _) _)
    · exact Trans.trans step ((Moves.pure 0).bind (fun _ => ih.bind fun _ => Moves.pure _) _)

theorem written_moves (p : Portfolio) (s : Source) : (p.written s).Moves R := by
  unfold written
  split
  · exact (forgetAll_moves results drop p _).bind fun _ => Moves.pure _
  · exact Moves.pure _

end

theorem written_frame (p : Portfolio) (s : Source) : (p.written s).Moves Frame :=
  written_moves (fun _ _ => .of_eq rfl rfl rfl rfl rfl) dropListings_frame p s

theorem plan_frame (d : Direction) (m : Mode) : (plan d m).Moves Frame :=
  (listEntries_frame .home none).bind fun _ => (listEntries_frame .remote none).bind fun _ =>
    (warnAll_frame _).bind fun _ => Moves.liftExcept _

theorem contentFor_frame (p : Portfolio) (i : PlanItem) : (p.contentFor i).Moves Frame := by
  refine (fetch_frame _ _).bind fun content => ?_
  split
  · exact Moves.liftExcept _
  · split
    · exact Moves.throw _
    · exact Moves.pure _

theorem resolveIn_frame (s : Source) (name place : String) (kind : Option Kind) :
    (resolveIn s name place kind).Moves Frame :=
  (listEntries_frame s kind).bind fun _ => Moves.liftExcept _

theorem listRemote_frame (kind : Option Kind) : (listRemote kind).Moves Frame :=
  (listEntries_frame .remote kind).bind fun _ => Moves.pure _

theorem difference_frame (key : Key) : (difference key).Moves Frame :=
  (fetch_frame _ _).bind fun _ => (fetch_frame _ _).bind fun _ => Moves.pure _

theorem compare_frame (name : String) (kind : Option Kind) (showDiff : Bool) :
    (compare name kind showDiff).Moves Frame := by
  refine ((listEntries_frame .home kind).bind fun here => (listEntries_frame .remote kind).bind
    fun there => (Moves.liftExcept _).bind fun _ => Moves.pure _).bind fun ⟨found, here, there⟩ => ?_
  dsimp only
  split
  · exact Moves.pure _
  · exact Moves.pure _
  · split
    · exact Moves.pure _
    · split
      · exact (difference_frame _).bind fun _ => Moves.pure _
      · exact (Moves.pure _).bind fun _ => Moves.pure _

end Portfolio

end TriStore
