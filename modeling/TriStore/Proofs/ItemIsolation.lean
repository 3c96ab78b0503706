import TriStore.Proofs.GracefulSearch
import TriStore.Proofs.MildWeb
import TriStore.Proofs.Syncing

/-!
A planned and confirmed sync gives one outcome for each item, or ends in the failure of one item.
-/
namespace TriStore

open TriStore.Action

/-- The store here lies on a shelf or in a folder, the remote one is a repository, its replies are mild, and
so are the listings kept of it. -/
structure World.Mild (r : Repository) (w : World) : Prop where
  home : (∃ x, w.home.backing = .shelf x) ∨ ∃ f, w.home.backing = .folder f
  remote : w.remote.backing = .repository r
  web : w.web.HoldsFor fun m => Reply.Brings (r.Mild m)
  listings : ∀ i ∈ w.listings.items, ∀ kind, i.key = listingKey .remote kind → ∀ e ∈ i.value, r.Opens e.path.display

namespace World

variable {r : Repository}

theorem Mild.setListings {w : World} (h : w.Mild r) {listings : Cache String (List Entry)}
    (items : ∀ i ∈ listings.items, i ∈ w.listings.items ∨
      ∀ kind, i.key = listingKey .remote kind → ∀ e ∈ i.value, r.Opens e.path.display) :
    Mild r { w with listings } :=
  { h with listings := fun i hi => (items i hi).elim (h.listings i) id }

end World

namespace Action

variable {r : Repository}

section Keeping

theorem warn_staysMild (text : String) : (warn text).Moves (Stays (World.Mild r)) := fun _ hw => { hw with }

theorem report_staysMild (text : String) : (report text).Moves (Stays (World.Mild r)) := fun _ hw => { hw with }

theorem reportReset_staysMild {κ α : Type} (c : Cache κ α) (e : Option Cache.Corruption) :
    (reportReset c e).Moves (Stays (World.Mild r)) := by
  cases e with
  | none => exact Moves.pure _
  | some e => exact report_staysMild _

theorem dropListings_staysMild (s : Source) : (dropListings s).Moves (Stays (World.Mild r)) := by
  refine Moves.get_bind fun w hw => ?_
  split
  · exact hw
  · exact hw.setListings fun i hi => .inl (Cache.mem_invalidatePrefix.1 hi).1

theorem onShelf_staysMild {α : Type} (before : Shelf) (x : Except Failure α × Shelf) :
    (onShelf .home before x).Moves (Stays (World.Mild r)) := by
  intro w hw
  rw [ends_onShelf]
  exact { hw with home := .inl ⟨x.2, rfl⟩ }

theorem onDisk_staysMild {α : Type} (x : Disk → Except Failure α × Disk) :
    (onDisk x).Moves (Stays (World.Mild r)) := by
  intro w hw
  obtain ⟨log, ended⟩ := ends_onDisk x w
  rw [ended]
  exact { hw with }

theorem loadEntries_staysMild (kind : Option Kind) : (loadEntries .home kind).Moves (Stays (World.Mild r)) := by
  refine Moves.get_bind fun w hw => ?_
  rcases hw.home with ⟨x, shelf⟩ | ⟨f, folder⟩
  · simp only [World.store, shelf]
    exact onShelf_staysMild x _ w hw
  · simp only [World.store, folder]
    exact Moves.get_bind (fun w => ((Moves.forM warn_staysMild _).bind fun _ => Moves.liftExcept _) w) w hw

theorem listEntries_staysMild (kind : Option Kind) : (listEntries .home kind).Moves (Stays (World.Mild r)) := by
  have looked : (cachedListing .home kind).Moves (Stays (World.Mild r)) := by
    refine Moves.get_bind fun w hw => ?_
    have step := hw.setListings fun i (hi : i ∈ (w.listings.get w.clock (listingKey .home kind)).2.2.items) =>
      .inl (Cache.mem_of_mem_get hi)
    exact ((reportReset_staysMild _ _).bind fun _ => Moves.pure _) _ step
  have kept (es : List Entry) : (keepListing .home kind es).Moves (Stays (World.Mild r)) := by
    refine Moves.get_bind fun w hw => ?_
    refine (reportReset_staysMild _ _) _ (hw.setListings fun i hi => ?_)
    rcases Cache.mem_of_mem_set hi with old | rfl
    · exact .inl old
    · refine .inr fun kind' same => ?_
      obtain ⟨no, -⟩ := listingKey_injective same
      cases no
  refine Moves.get_bind fun w => ?_
  split
  · exact loadEntries_staysMild kind w
  · refine looked.bind (fun found => ?_) w
    cases found with
    | some es => exact Moves.pure _
    | none => exact (loadEntries_staysMild kind).bind fun es => (kept es).bind fun _ => Moves.pure _

theorem fetch_staysMild (key : Key) : (fetch .home key).Moves (Stays (World.Mild r)) := by
  refine Moves.get_bind fun w hw => ?_
  rcases hw.home with ⟨x, shelf⟩ | ⟨f, folder⟩
  · simp only [World.store, shelf]
    exact onShelf_staysMild x _ w hw
  · simp only [World.store, folder]
    rw [ends_bind_of_ok (ends_get w), ends_liftExcept]
    exact hw

theorem write_staysMild (key : Key) (content : String) (expected : Option Value) :
    (write .home key content expected).Moves (Stays (World.Mild r)) := by
  have through : (writeThrough .home key content expected).Moves (Stays (World.Mild r)) := by
    refine Moves.get_bind fun w hw => ?_
    rcases hw.home with ⟨x, shelf⟩ | ⟨f, folder⟩
    · simp only [World.store, shelf]
      exact onShelf_staysMild x _ w hw
    · simp only [World.store, folder]
      exact onDisk_staysMild _ w hw
  have offered : Moves (Stays (World.Mild r)) (modify (·.offer ⟨.home, key, content⟩) : Action PUnit) :=
    fun _ hw => { hw with }
  exact offered.bind fun _ => through.bind fun _ => (dropListings_staysMild .home).bind fun _ => Moves.pure _

theorem delete_staysMild (key : Key) (expected : Option Value) :
    (delete .home key expected).Moves (Stays (World.Mild r)) := by
  have through : (deleteThrough .home key expected).Moves (Stays (World.Mild r)) := by
    refine Moves.get_bind fun w hw => ?_
    rcases hw.home with ⟨x, shelf⟩ | ⟨f, folder⟩
    · simp only [World.store, shelf]
      exact onShelf_staysMild x _ w hw
    · simp only [World.store, folder]
      exact onDisk_staysMild _ w hw
  exact through.bind fun _ => (dropListings_staysMild .home).bind fun _ => Moves.pure _

end Keeping

section Remote

variable {w : World} {F : Failure → Prop} {key : Key}

theorem onWeb_concludes {α : Type} {Q : α → Prop} {x : Exchange α}
    (h : Concludes F (Web.HoldsFor fun m => Reply.Brings (r.Mild m)) Q x w.web) :
    Concludes F (World.Mild r) Q (onWeb x) w := by
  intro hw
  obtain ⟨later, answered⟩ := h hw.web
  rw [show (onWeb x).run w = _ from ends_onWeb x w]
  exact ⟨{ hw with web := later }, answered⟩

theorem dropListings_concludes (s : Source) (w : World) :
    Concludes F (World.Mild r) (fun _ => True) (dropListings s) w := by
  intro hw
  have kept := dropListings_staysMild (r := r) s w hw
  obtain ⟨n, w', ended⟩ := exists_ends_dropListings s w
  rw [ended] at kept
  rw [show (dropListings s).run w = _ from ended]
  exact ⟨kept, .inl ⟨n, rfl, trivial⟩⟩

variable (ready : r.Ready)

include ready

theorem listEntries_remote_copes (kind : Option Kind) (w : World) :
    Copes (World.Mild r) (fun es => ∀ e ∈ es, r.Opens e.path.display) (listEntries .remote kind) w := by
  refine listEntries_copes (fun w => .get_bind fun hw => ?_) (fun _ log hw => { hw with })
    (fun w hw i hi key => hw.listings i hi kind key) (fun w listings hw items => ?_) w
  · simp only [World.store, hw.remote]
    exact onWeb_concludes (Repository.load_bears ready kind)
  · exact hw.setListings fun i hi => (items i hi).imp_right fun fine _ _ => fine.2

variable (opens : r.Opens key.path)

include opens

theorem getEntry_copes (w : World) :
    Copes (World.Mild r) (fun entry => r.Opens (Repository.place key entry).display) (getEntry .remote key) w := by
  refine (listEntries_remote_copes ready (some key.kind) w).bind fun es w' fine => .pure ?_
  cases found : es.find? (·.key == key) with
  | none => exact opens
  | some e => exact fine e (List.mem_of_find?_eq_some found)

theorem fetch_concludes (w : World) :
    Concludes (·.isNoted = true) (World.Mild r) (fun content => Text.isEncodable content = true)
      (fetch .remote key) w := by
  refine .get_bind fun hw => ?_
  simp only [World.store, hw.remote]
  exact .bind ((getEntry_copes ready opens w).mono Failure.isNoted_of_isUnavailable) fun entry w' fine =>
    onWeb_concludes (Repository.fetch_answers ready fine)

theorem write_concludes (content : String) (expected : Option Value) (w : World) :
    Concludes (fun e => e.isNoted = true ∨ Text.isEncodable content = false) (World.Mild r) (fun _ => True)
      (write .remote key content expected) w := by
  have through (w : World) : Concludes (fun e => e.isNoted = true ∨ Text.isEncodable content = false)
      (World.Mild r) (fun _ => True) (writeThrough .remote key content expected) w := by
    refine .get_bind fun hw => ?_
    simp only [World.store, hw.remote]
    exact .bind ((getEntry_copes ready opens w).mono fun e he => .inl (e.isNoted_of_isUnavailable he)) fun entry w' fine =>
      onWeb_concludes (Repository.write_answers ready fine content expected)
  have offered : Concludes (fun e => e.isNoted = true ∨ Text.isEncodable content = false) (World.Mild r)
      (fun _ => True) (modify (·.offer ⟨.remote, key, content⟩) : Action PUnit) w :=
    fun hw => ⟨{ hw with }, .inl ⟨⟨⟩, rfl, trivial⟩⟩
  exact offered.bind fun _ w₁ _ => (through w₁).bind fun _ w₂ _ =>
    (dropListings_concludes .remote w₂).bind fun _ _ _ => .pure trivial

theorem delete_concludes (expected : Option Value) (w : World) :
    Concludes (·.isNoted = true) (World.Mild r) (fun _ => True) (delete .remote key expected) w := by
  have through : Concludes (·.isNoted = true) (World.Mild r) (fun _ => True)
      (deleteThrough .remote key expected) w := by
    refine .get_bind fun hw => ?_
    simp only [World.store, hw.remote]
    refine .bind ((getEntry_copes ready opens w).mono Failure.isNoted_of_isUnavailable) fun entry w' fine => ?_
    cases entry with
    | none => exact .pure trivial
    | some entry => exact onWeb_concludes (Repository.delete_answers ready fine expected)
  exact through.bind fun _ w₁ _ => (dropListings_concludes .remote w₁).bind fun _ _ _ => .pure trivial

end Remote

end Action

namespace Portfolio

variable {p : Portfolio} {r : Repository} {i : PlanItem} {w : World}

/-- A failure here or of the check of what comes in: the store cannot be read, written or cleared, or the
content not sent or accepted. -/
inductive Domestic (p : Portfolio) (i : PlanItem) (w : World) (e : Failure) : Prop where
  | fetch (push : i.flow ≠ .pull) (failed : ((fetch .home i.key).ends w).1 = .error e)
  | content (push : i.flow ≠ .pull) (c : String) (fetched : ((fetch .home i.key).ends w).1 = .ok c)
    (odd : Text.isEncodable c = false)
  | validate (pull : i.flow = .pull) (c : String) (fetched : ((fetch .remote i.key).ends w).1 = .ok c)
    (failed : p.validate i.key c = .error e)
  | write (pull : i.flow = .pull) (c : String) (w₁ : World) (expected : Option Value)
    (sound : ∀ got, ((fetch .remote i.key).ends w).1 = .ok got → Text.isEncodable got = true)
    (had : (p.contentFor i).ends w = (.ok c, w₁)) (failed : ((write .home i.key c expected).ends w₁).1 = .error e)
  | delete (pull : i.flow = .pull) (failed : ((delete .home i.key (expectedOf i)).ends w).1 = .error e)

theorem endsOf_pull {d : Direction} (h : d = .pull) : endsOf d = (.remote, .home) := by rw [h]; rfl

theorem endsOf_push {d : Direction} (h : d ≠ .pull) : endsOf d = (.home, .remote) := by
  cases d with
  | pull => exact absurd rfl h
  | _ => rfl

theorem fetched_of_contentFor (push : i.flow ≠ .pull) {c : String} (had : ((p.contentFor i).ends w).1 = .ok c) :
    ((fetch .home i.key).ends w).1 = .ok c := by
  rw [ends_contentFor_eq, endsOf_push push] at had
  obtain ⟨c', fetched, passed⟩ := bind_eq_ok.1 had
  rw [Portfolio.passed, if_neg (by simpa using push)] at passed
  split at passed
  · cases passed
  · exact Except.ok.inj passed ▸ fetched

section Item

variable (ready : r.Ready) (opens : r.Opens i.key.path) (hw : w.Mild r)

include ready opens hw

theorem contentFor_mild : ((p.contentFor i).ends w).2.Mild r ∧
    ∀ e, ((p.contentFor i).ends w).1 = .error e → e.isNoted = true ∨ Domestic p i w e := by
  rw [ends_contentFor_eq]
  by_cases pull : i.flow = .pull
  · have concludes := fetch_concludes ready opens w
    rw [endsOf_pull pull]
    refine ⟨(concludes hw).1, fun e failed => ?_⟩
    cases fetched : ((fetch .remote i.key).ends w).1 with
    | error e' =>
      rw [fetched] at failed
      cases failed
      exact .inl (concludes.of_error hw fetched)
    | ok c =>
      rw [fetched, ok_bind, passed, if_pos (by simpa using pull)] at failed
      exact .inr (.validate pull c fetched failed)
  · rw [endsOf_push pull]
    refine ⟨fetch_staysMild i.key w hw, fun e failed => ?_⟩
    cases fetched : ((fetch .home i.key).ends w).1 with
    | error e' =>
      rw [fetched] at failed
      cases failed
      exact .inr (.fetch pull fetched)
    | ok c =>
      rw [fetched, ok_bind, passed, if_neg (by simpa using pull)] at failed
      split at failed
      · cases failed
        exact .inl rfl
      · cases failed

theorem carryOut_mild : ((p.carryOut i).ends w).2.Mild r ∧
    ∀ e, ((p.carryOut i).ends w).1 = .error e → e.isNoted = true ∨ Domestic p i w e := by
  unfold carryOut
  by_cases step : i.step = .delete
  · rw [if_pos (by simpa using step)]
    by_cases pull : i.flow = .pull
    · rw [endsOf_pull pull]
      exact ⟨delete_staysMild i.key _ w hw, fun e failed => .inr (.delete pull failed)⟩
    · have concludes := delete_concludes ready opens (expectedOf i) w
      rw [endsOf_push pull]
      exact ⟨(concludes hw).1, fun e failed => .inl (concludes.of_error hw failed)⟩
  · rw [if_neg (by simpa using step), ends_bind]
    obtain ⟨mild, fails⟩ := contentFor_mild (p := p) ready opens hw
    rcases had : (p.contentFor i).ends w with ⟨e | c, w₁⟩
    · rw [had] at mild fails
      refine ⟨mild, fun e' same => ?_⟩
      cases same
      exact fails e rfl
    · rw [had] at mild
      rw [snd_ends_discard]
      by_cases pull : i.flow = .pull
      · rw [endsOf_pull pull]
        exact ⟨write_staysMild i.key c _ w₁ mild, fun e failed =>
          .inr (.write pull c w₁ _ (fun got => (fetch_concludes ready opens w).of_ok hw) had
            (error_of_discard _ failed))⟩
      · have concludes (expected : Option Value) := write_concludes ready opens c expected w₁
        rw [endsOf_push pull]
        refine ⟨(concludes _ mild).1, fun e failed => ?_⟩
        refine ((concludes _).of_error mild (error_of_discard _ failed)).imp_right fun odd => ?_
        exact .content pull c (fetched_of_contentFor pull (congrArg Prod.fst had)) odd

theorem apply_mild : ((p.apply i).ends w).2.Mild r := by
  have forgets (s : Source) : (p.written s).Moves (Stays (World.Mild r)) :=
    written_moves (fun _ _ hw => { hw with }) dropListings_staysMild p s
  exact apply_moves warn_staysMild report_staysMild forgets i w (carryOut_mild ready opens hw).1

end Item

def isCarriedOut (i : PlanItem) : Bool := i.step != .unchanged && i.step != .conflict && i.executable

/-- The items that a sync carries out, each with the world in which it starts on it. -/
def carries (p : Portfolio) : List PlanItem → World → List (PlanItem × World)
  | [], _ => []
  | i :: rest, w =>
    if isCarriedOut i then (i, w) :: match (p.apply i).ends w with
      | (.ok _, w') => p.carries rest w'
      | (.error _, _) => []
    else p.carries rest w

theorem outcomeOf_cases (i : PlanItem) (result : Except Failure Unit) :
    (∃ o, outcomeOf i result = .ok o ∧ o.item = i) ∨
      ∃ e, result = .error e ∧ e.isNoted = false ∧ outcomeOf i result = .error e := by
  cases result with
  | ok _ => exact .inl ⟨_, rfl, rfl⟩
  | error e =>
    cases e with
    | conflict key reason => exact .inl ⟨_, rfl, rfl⟩
    | _ =>
      simp only [outcomeOf]
      split
      · next lost => exact .inr ⟨_, rfl, by simpa [Failure.isNoted] using lost, rfl⟩
      · exact .inl ⟨_, rfl, rfl⟩

/-- How a sync of items ends that has started on `xs`: each item not unchanged has its outcome, which says how
it went if it was started on; or the last one has failed, which is not noted, and no outcome is told. -/
inductive ItemsEnd (p : Portfolio) (items : List PlanItem) (xs : List (PlanItem × World)) :
    Except Failure (List Outcome) → Prop where
  | told (outcomes : List Outcome) (whole : outcomes.map (·.item) = items.filter (·.step != .unchanged))
    (noted : ∀ x ∈ xs, ∃ o ∈ outcomes, outcomeOf x.1 ((p.carryOut x.1).ends x.2).1 = .ok o) :
    ItemsEnd p items xs (.ok outcomes)
  | lost (x : PlanItem × World) (e : Failure) (last : xs.getLast? = some x)
    (failed : ((p.carryOut x.1).ends x.2).1 = .error e) (unnoted : e.isNoted = false) :
    ItemsEnd p items xs (.error e)

namespace ItemsEnd

variable {items : List PlanItem} {xs : List (PlanItem × World)} {result : Except Failure (List Outcome)} {o : Outcome}

theorem unchanged (h : ItemsEnd p items xs result) (step : i.step = .unchanged) :
    ItemsEnd p (i :: items) xs result := by
  cases h with
  | told outcomes whole noted => exact .told outcomes (by simpa [step] using whole) noted
  | lost x e last failed unnoted => exact .lost x e last failed unnoted

theorem passed (h : ItemsEnd p items xs result) (step : i.step ≠ .unchanged) (item : o.item = i) :
    ItemsEnd p (i :: items) xs (result.map (o :: ·)) := by
  cases h with
  | told outcomes whole noted =>
    refine .told (o :: outcomes) (by simp [step, item, whole]) fun x hx => ?_
    obtain ⟨o', told, is⟩ := noted x hx
    exact ⟨o', List.mem_cons_of_mem _ told, is⟩
  | lost x e last failed unnoted => exact .lost x e last failed unnoted

theorem carried (h : ItemsEnd p items xs result) (step : i.step ≠ .unchanged)
    (outcome : outcomeOf i ((p.carryOut i).ends w).1 = .ok o) (item : o.item = i) :
    ItemsEnd p (i :: items) ((i, w) :: xs) (result.map (o :: ·)) := by
  cases h with
  | told outcomes whole noted =>
    refine .told (o :: outcomes) (by simp [step, item, whole]) (List.forall_mem_cons.2 ⟨?_, fun x hx => ?_⟩)
    · exact ⟨o, (.head _), outcome⟩
    · obtain ⟨o', told, is⟩ := noted x hx
      exact ⟨o', List.mem_cons_of_mem _ told, is⟩
  | lost x e last failed unnoted =>
    exact .lost x e (by rw [List.getLast?_cons, last, Option.getD_some]) failed unnoted

end ItemsEnd

theorem fst_ends_cons {x : Action (List Outcome)} (o : Outcome) (w : World) :
    (ends (do return o :: (← x)) w).1 = (x.ends w).1.map (o :: ·) := by
  rw [ends_bind]
  rcases x.ends w with ⟨e | outcomes, w'⟩ <;> rfl

theorem applyAll_itemsEnd (p : Portfolio) (items : List PlanItem) (w : World) :
    ItemsEnd p items (p.carries items w) ((p.applyAll items).ends w).1 := by
  induction items generalizing w with
  | nil => exact .told [] rfl (by simp [carries])
  | cons i rest ih =>
    unfold applyAll
    by_cases unchanged : i.step = .unchanged
    · rw [if_pos (by simpa using unchanged), carries, if_neg (by simp [isCarriedOut, unchanged])]
      exact (ih w).unchanged unchanged
    · rw [if_neg (by simpa using unchanged)]
      by_cases carried : isCarriedOut i = true
      · obtain ⟨⟨-, conflict⟩, executable⟩ := by simpa [isCarriedOut] using carried
        rw [if_neg (by simpa using conflict), if_neg (by simpa using executable), carries, if_pos carried, ends_bind]
        have outcome := p.fst_ends_apply i w
        rcases ended : (p.apply i).ends w with ⟨e | o, w'⟩
        · rw [ended] at outcome
          obtain ⟨o, noted, -⟩ | ⟨e', failed, unnoted, same⟩ := outcomeOf_cases i ((p.carryOut i).ends w).1
          · cases outcome.trans noted
          · cases outcome.trans same
            exact .lost (i, w) e rfl failed unnoted
        · rw [ended] at outcome
          obtain ⟨o', noted, item⟩ | ⟨e, -, -, same⟩ := outcomeOf_cases i ((p.carryOut i).ends w).1
          · cases outcome.trans noted
            rw [fst_ends_cons]
            exact (ih w').carried unchanged noted item
          · cases outcome.trans same
      · rw [carries, if_neg carried]
        by_cases conflict : i.step = .conflict
        · rw [if_pos (by simpa using conflict), ends_bind_of_ok (ends_pure _ w), fst_ends_cons]
          exact (ih w).passed unchanged rfl
        · have held : i.executable = false := by simpa [isCarriedOut, unchanged, conflict] using carried
          rw [if_neg (by simpa using conflict), if_pos (by simp [held]), ends_bind_of_ok (ends_pure _ w), fst_ends_cons]
          exact (ih w).passed unchanged rfl

section Run

variable {items : List PlanItem} (ready : r.Ready)

include ready

theorem carries_mild (opens : ∀ i ∈ items, r.Opens i.key.path) (hw : w.Mild r) :
    ∀ x ∈ p.carries items w, x.1 ∈ items ∧ x.2.Mild r := by
  induction items generalizing w with
  | nil => simp [carries]
  | cons i rest ih =>
    have later : ∀ {w}, w.Mild r → ∀ x ∈ p.carries rest w, x.1 ∈ i :: rest ∧ x.2.Mild r := by
      intro w hw x hx
      obtain ⟨listed, mild⟩ := ih (fun j hj => opens j (.tail _ hj)) hw x hx
      exact ⟨List.mem_cons_of_mem _ listed, mild⟩
    rw [carries]
    split
    · have next := apply_mild (p := p) ready (opens i (.head _)) hw
      refine List.forall_mem_cons.2 ⟨⟨(.head _), hw⟩, ?_⟩
      rcases ended : (p.apply i).ends w with ⟨e | o, w'⟩
      · simp
      · rw [ended] at next
        exact later next
    · exact later hw

theorem plan_staysMild (d : Direction) (m : Mode) : (Portfolio.plan d m).Moves (Stays (World.Mild r)) := by
  have listed : (listEntries .remote none).Moves (Stays (World.Mild r)) := fun w hw =>
    (listEntries_remote_copes ready none w hw).1
  exact (listEntries_staysMild none).bind fun _ => listed.bind fun _ =>
    (Moves.forM warn_staysMild _).bind fun _ => Moves.liftExcept _

end Run

theorem fst_ends_sync {d : Direction} {m : Mode} {plan : Plan} {w₁ : World} {force confirm : Bool}
    (allowed : checkBulk p.settings.sync (Plan.effective d m) = .ok ())
    (planned : (Portfolio.plan d m).ends w = (.ok plan, w₁))
    (confirmed : needsConfirmation plan force confirm = false) :
    ((p.sync d m false force confirm).ends w).1 =
      ((p.applyAll plan.items).ends w₁).1.map fun outcomes => .finished { plan, outcomes } := by
  unfold sync
  simp only [Bool.not_false, if_true]
  rw [ends_bind_of_ok ((ends_liftExcept _ w).trans (congrArg (·, w) allowed)), ends_bind_of_ok planned]
  simp only [confirmed, Bool.false_eq_true, if_false]
  rw [ends_bind]
  rcases (p.applyAll plan.items).ends w₁ with ⟨e | outcomes, w'⟩ <;> rfl

/-- A sync that is planned and confirmed tells one outcome for each item that is not unchanged, which says how
carrying it out ended; or it ends in the failure of the last item it has started on, which is not one that is
noted. With mild answers, that failure comes from the store here or from the check of what comes in. -/
theorem sync_isolates_items {d : Direction} {m : Mode} {plan : Plan} {w₁ : World} {force confirm : Bool}
    (allowed : checkBulk p.settings.sync (Plan.effective d m) = .ok ())
    (planned : (Portfolio.plan d m).ends w = (.ok plan, w₁))
    (confirmed : needsConfirmation plan force confirm = false) :
    (∃ outcomes, ((p.sync d m false force confirm).ends w).1 = .ok (.finished { plan, outcomes }) ∧
      outcomes.map (·.item) = plan.items.filter (·.step != .unchanged) ∧
      ∀ x ∈ p.carries plan.items w₁, ∃ o ∈ outcomes, outcomeOf x.1 ((p.carryOut x.1).ends x.2).1 = .ok o) ∨
    ∃ x e, (p.carries plan.items w₁).getLast? = some x ∧ ((p.carryOut x.1).ends x.2).1 = .error e ∧
      e.isNoted = false ∧ ((p.sync d m false force confirm).ends w).1 = .error e ∧
      ∀ r : Repository, r.Ready → w.Mild r → (∀ i ∈ plan.items, r.Opens i.key.path) → Domestic p x.1 x.2 e := by
  rw [fst_ends_sync allowed planned confirmed]
  have ended := p.applyAll_itemsEnd plan.items w₁
  cases result : ((p.applyAll plan.items).ends w₁).1 with
  | ok outcomes =>
    rw [result] at ended
    cases ended with
    | told _ whole noted => exact .inl ⟨outcomes, rfl, whole, noted⟩
  | error e =>
    rw [result] at ended
    cases ended with
    | lost x _ last failed unnoted =>
      refine .inr ⟨x, e, last, failed, unnoted, rfl, fun r ready hw opens => ?_⟩
      have start : w₁.Mild r := by simpa [planned] using plan_staysMild ready d m w hw
      obtain ⟨listed, mild⟩ := carries_mild ready opens start x (List.mem_of_getLast? last)
      exact ((carryOut_mild ready (opens x.1 listed) mild).2 e failed).resolve_left (by simp [unnoted])

section Example

/-- One element here, and an empty repository that answers its write with a conflict. -/
def refusingWorld (body : String) : World where
  home := { backing := .shelf { source := .home, writable := true, contents := [(⟨.persona, "a"⟩, "x")] } }
  remote := { backing := .repository soleRepository, cached := true }
  registry := { backing := .catalog soleCatalog }
  web := { routes := [
    ⟨"PUT", "https://a.b/repos/o/r/contents/personas/a.md", [.response { status := 409, body := body.toUTF8 }]⟩] }
  results := Cache.ofPreset .search
  listings := { (Cache.ofPreset .listing : Cache String (List Entry)) with items := [
    ⟨listingKey .remote none, [], .zero false, 0⟩, ⟨listingKey .remote (some .persona), [], .zero false, 0⟩] }

theorem refusingWorld_mild : (refusingWorld "x").Mild soleRepository where
  home := .inl ⟨_, rfl⟩
  remote := rfl
  web := by
    refine List.forall_mem_singleton.2 (List.forall_mem_singleton.2 fun b unpacked => ?_)
    obtain rfl := Except.ok.inj unpacked
    have other : "PUT" ≠ "GET" := by decide
    refine ⟨fun location leads => ?_, fun _ _ => by decide +kernel, fun _ met => ?_,
      fun no => absurd no other, fun no => absurd no other, fun no => absurd no other⟩
    · cases leads
    · cases met
  listings := by
    refine List.forall_mem_cons.2 ⟨?_, List.forall_mem_singleton.2 ?_⟩
    · intro _ _ e no
      cases no
    · intro _ _ e no
      cases no

def pathsPlanned (w : World) : Option (List String) :=
  ((Portfolio.plan .push .additive).ends w).1.toOption.map (·.items.map (·.key.path))

theorem exists_planned {paths : List String} (h : pathsPlanned w = some paths) : ∃ plan w₁,
    (Portfolio.plan .push .additive).ends w = (.ok plan, w₁) ∧ plan.items.map (·.key.path) = paths ∧
      needsConfirmation plan false false = false := by
  unfold pathsPlanned at h
  rcases planned : (Portfolio.plan .push .additive).ends w with ⟨e | plan, w₁⟩
  · rw [planned] at h
    cases h
  · rw [planned] at h
    obtain ⟨here, there, -, -, built⟩ := exists_of_plan planned
    exact ⟨plan, w₁, rfl, Option.some.inj h, by rw [built]; rfl⟩

def statusesTold (w : World) : Option (List Status) :=
  match ((untimed.sync .push .additive false false false).ends w).1 with
  | .ok (.finished report) => some (report.outcomes.map (·.status))
  | _ => none

theorem exists_report {statuses : List Status} (h : statusesTold w = some statuses) : ∃ report : SyncReport,
    ((untimed.sync .push .additive false false false).ends w).1 = .ok (.finished report) ∧
      report.outcomes.map (·.status) = statuses := by
  unfold statusesTold at h
  split at h
  · next report told => exact ⟨report, told, Option.some.inj h⟩
  · cases h

/-- A conflict that has words is told. -/
theorem sync_isolates_items_refused :
    soleRepository.Ready ∧ (refusingWorld "x").Mild soleRepository ∧ ∃ plan outcomes,
      (∀ i ∈ plan.items, soleRepository.Opens i.key.path) ∧
      ((untimed.sync .push .additive false false false).ends (refusingWorld "x")).1 =
        .ok (.finished { plan, outcomes }) ∧
      outcomes.map (·.item) = plan.items.filter (·.step != .unchanged) ∧
      outcomes.map (·.status) = [.conflict] := by
  have made : pathsPlanned (refusingWorld "x") = some ["personas/a.md"] := by decide +kernel
  obtain ⟨plan, w₁, planned, paths, confirmed⟩ := exists_planned made
  have told : statusesTold (refusingWorld "x") = some [.conflict] := by decide +kernel
  obtain ⟨report, told, statuses⟩ := exists_report told
  have reached : soleRepository.Opens "personas/a.md" := by decide +kernel
  have opens : ∀ path ∈ plan.items.map (·.key.path), soleRepository.Opens path := by
    rw [paths]
    exact List.forall_mem_singleton.2 reached
  refine ⟨soleRepository_ready, refusingWorld_mild, plan, ?_⟩
  obtain ⟨outcomes, finished, whole, -⟩ | ⟨x, e, -, -, -, failed, -⟩ :=
    sync_isolates_items (p := untimed) rfl planned confirmed
  · cases finished.symm.trans told
    exact ⟨outcomes, fun i hi => opens _ (List.mem_map_of_mem hi), finished, whole, statuses⟩
  · cases failed.symm.trans told

/-- The words of a conflict are sought in a list, and the planned sync ends in a failure. -/
theorem sync_ends_at_wordless_conflict : checkBulk untimed.settings.sync (Plan.effective .push .additive) = .ok () ∧
      (∃ plan w₁, (Portfolio.plan .push .additive).ends (refusingWorld "[\"x\"]") = (.ok plan, w₁) ∧
        plan.items.map (·.key.path) = ["personas/a.md"] ∧ needsConfirmation plan false false = false) ∧
      ((untimed.sync .push .additive false false false).ends (refusingWorld "[\"x\"]")).1 = .error .unsuited :=
  ⟨rfl, exists_planned (by decide +kernel), eq_error_of_errorOf? (by decide +kernel)⟩

end Example

end Portfolio

end TriStore
