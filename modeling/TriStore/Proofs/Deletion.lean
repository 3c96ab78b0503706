import TriStore.Proofs.ShelfCopy
import TriStore.Proofs.SyncEffect

/-!
When elements disappear. Writing never takes an element away, so downloads and uploads do not.
-/
namespace TriStore

deriving instance DecidableEq for Shelf

def Backing.shelf? : Backing → Option Shelf
  | .shelf y => some y
  | _ => none

namespace World

/-- No store lost an element between the two worlds. -/
def Grows (w w' : World) : Prop :=
  ∀ s k, (w.held s k).isSome = true → (w'.held s k).isSome = true

instance : Std.Refl Grows := ⟨fun _ _ _ h => h⟩

instance : Trans Grows Grows Grows := ⟨fun h h' s k held => h' s k (h s k held)⟩

theorem Frame.grows {w w' : World} (h : Frame w w') : Grows w w' := by
  intro s k held
  rw [h.held]
  exact held

theorem grows_of_stores {w w' : World} (h : ∀ s, w'.store s = w.store s) : Grows w w' := by
  intro s k held
  rw [World.held, h s]
  exact held

end World

theorem Shelf.isSome_write {y : Shelf} {k : Key} (h : (y.get? k).isSome = true) (key : Key)
    (content : String) (expected : Option Value) :
    ((y.write key content expected).2.get? k).isSome = true := by
  obtain ⟨calls, ⟨e, fails⟩ | ⟨-, -, -, puts⟩⟩ := y.write_cases key content expected
  · rw [fails]
    exact h
  · rw [puts]
    show ((y.put key content).get? k).isSome = true
    by_cases eq : k = key
    · rw [eq, Shelf.get?_put_self]
      rfl
    · rw [Shelf.get?_put_ne y eq]
      exact h

theorem Shelf.Tidy.write {y : Shelf} (tidy : y.Tidy) {key : Key}
    (normal : Name.normalize key.name = key.name) (content : String) (expected : Option Value) :
    (y.write key content expected).2.Tidy := by
  obtain ⟨calls, ⟨e, fails⟩ | ⟨-, -, -, puts⟩⟩ := y.write_cases key content expected
  · rw [fails]
    exact ⟨tidy.nodup, tidy.normal⟩
  · rw [puts]
    have put := tidy.put normal content
    exact ⟨put.nodup, put.normal⟩

def Source.opposite : Source → Source
  | .home => .remote
  | .remote => .home
  | .registry => .registry

/-- A call may delete elements of a store: a mirror sync towards it that was confirmed. -/
inductive Call.Deletes : Call → Source → Prop where
  | push {force confirm : Bool} (confirmed : (force || confirm) = true) :
    Deletes (.sync .push .mirror false force confirm) .remote
  | pull {force confirm : Bool} (confirmed : (force || confirm) = true) :
    Deletes (.sync .pull .mirror false force confirm) .home

namespace World

variable {D : Source → Prop} {w w' : World}

theorem Frame.shelf (h : Frame w w') {s : Source} {y : Shelf} (store : w.store s = ⟨.shelf y, false⟩) :
    ∃ calls, w'.store s = ⟨.shelf { y with calls }, false⟩ := by
  have still : (w'.store s).backing.still = (Backing.shelf y).still := by rw [h.backing s, store]
  obtain ⟨calls, found⟩ := Backing.exists_of_still still
  have cached : (w'.store s).cached = false := by rw [h.cached s, store]
  exact ⟨calls, by rw [← found, ← cached]⟩

theorem InMemory.frame (h : w.InMemory D) (frame : Frame w w') : w'.InMemory D := fun s hs =>
  let ⟨_, store⟩ := h s hs
  let ⟨_, store'⟩ := frame.shelf store
  ⟨_, store'⟩

theorem Shelved.frame (h : w.Shelved D) (frame : Frame w w') : w'.Shelved D := fun s hs =>
  let ⟨_, store, tidy⟩ := h s hs
  let ⟨_, store'⟩ := frame.shelf store
  ⟨_, store', tidy.nodup, tidy.normal⟩

end World

namespace Action

open World (Grows Frame)

section Writing

variable {R : World → World → Prop} [Std.Refl R] [Trans R R R] {s : Source} {key : Key} {content : String}
  {expected : Option Value}

/-- What a write does to the world: it puts the content on the shelf, if the store is one. -/
theorem write_moves (frame : ∀ w w', Frame w w' → R w w')
    (stores : ∀ w w' : World, (∀ t, w'.store t = w.store t) → R w w')
    (shelf : ∀ w w' y, (w.store s).backing = .shelf y → w'.store s =
      ⟨.shelf (y.write key content expected).2, (w.store s).cached⟩ → (∀ t, t ≠ s → w'.store t = w.store t) → R w w') :
    (write s key content expected).Moves R := by
  have offer : Moves R (modify (·.offer ⟨s, key, content⟩) : Action PUnit) := by
    intro w
    refine stores _ _ fun t => ?_
    cases t <;> rfl
  have through : (writeThrough s key content expected).Moves R := by
    apply Moves.get_bind
    intro w
    cases found : (w.store s).backing with
    | shelf y =>
      obtain ⟨w', ended, backing, others, steady, -⟩ := onShelf_world s y (y.write key content expected) w
      rw [ended]
      exact shelf w w' y found (by rw [← backing, ← steady.cached s]) others
    | folder f =>
      obtain ⟨log, ended⟩ := ends_onDisk (f.write · key content expected) w
      rw [ended]
      refine stores _ _ fun t => ?_
      cases t <;> rfl
    | repository r => exact ((getEntry_frame s key).bind fun _ => onWeb_frame _).mono frame w
    | catalog c => exact Moves.throw _ w
  exact offer.bind fun _ => through.bind fun _ => ((dropListings_frame s).mono frame).bind fun _ => Moves.pure _

end Writing

theorem write_grows (s : Source) (key : Key) (content : String) (expected : Option Value) :
    (write s key content expected).Moves Grows := by
  refine write_moves (fun _ _ => Frame.grows) (fun _ _ => World.grows_of_stores) fun w w' y found store others => ?_
  intro t k held
  by_cases eq : t = s
  · subst eq
    rw [World.held, found] at held
    rw [World.held, store]
    exact Shelf.isSome_write held key content expected
  · rw [World.held, others t eq]
    exact held

variable {D : Source → Prop}

theorem write_inMemory (s : Source) (key : Key) (content : String) (expected : Option Value) :
    (write s key content expected).Moves (Stays (World.InMemory D)) := by
  refine write_moves (fun _ _ frame h => h.frame frame) (fun w w' same h t ht => ?_)
    fun w w' y found store others h t ht => ?_
  · rw [same t]
    exact h t ht
  · by_cases eq : t = s
    · subst eq
      obtain ⟨_, before⟩ := h t ht
      exact ⟨_, by rw [store, before]⟩
    · rw [others t eq]
      exact h t ht

theorem write_shelved {key : Key} (normal : Name.normalize key.name = key.name) (s : Source) (content : String)
    (expected : Option Value) : (write s key content expected).Moves (Stays (World.Shelved D)) := by
  refine write_moves (fun _ _ frame h => h.frame frame) (fun w w' same h t ht => ?_)
    fun w w' y found store others h t ht => ?_
  · rw [same t]
    exact h t ht
  · by_cases eq : t = s
    · subst eq
      obtain ⟨y', before, tidy⟩ := h t ht
      rw [before] at found store
      cases found
      exact ⟨_, store, tidy.write normal content expected⟩
    · rw [others t eq]
      exact h t ht

end Action

namespace Portfolio

open TriStore.Action

section Syncs

variable {p : Portfolio} {x : Source → Shelf} {d : Direction} {m : Mode} {plan : Plan} {i : PlanItem}
  {s : Source} {k : Key}

/-- What is gone was deleted by one of the items. -/
def Removes (items : List PlanItem) (x x' : Source → Shelf) : Prop :=
  ∀ s k, ((x s).get? k).isSome = true → (x' s).get? k = none →
    ∃ i ∈ items, i.executable = true ∧ i.step = .delete ∧ i.key = k ∧ (endsOf i.flow).2 = s

instance (items : List PlanItem) : Std.Refl (Removes items) :=
  ⟨fun x s k held gone => by simp [gone] at held⟩

instance (items : List PlanItem) : Trans (Removes items) (Removes items) (Removes items) where
  trans {x x' x''} h h' s k held gone := by
    cases between : (x' s).get? k with
    | none => exact h s k held between
    | some c => exact h' s k (by rw [between]; rfl) gone

theorem carryOn_removes {items : List PlanItem} (hi : i ∈ items) (executable : i.executable = true)
    (p : Portfolio) (x : Source → Shelf) :
    Removes items x (replace x (endsOf i.flow).2 (p.carryOn x i).2) := by
  intro s k held gone
  by_cases key : k = i.key
  · by_cases eq : s = (endsOf i.flow).2
    · rw [eq, replace_self] at gone
      obtain ⟨calls, ⟨e, fails⟩ | ⟨step, -⟩ | ⟨c, -, -, puts⟩⟩ := p.carryOn_cases x i
      · rw [fails] at gone
        rw [eq, show (x (endsOf i.flow).2).get? k = none from gone] at held
        cases held
      · exact ⟨i, hi, executable, step, key.symm, eq.symm⟩
      · rw [puts, key] at gone
        exact nomatch (Shelf.get?_put_self _ _ c).symm.trans gone
    · rw [replace_ne x eq] at gone
      rw [gone] at held
      cases held
  · rw [get?_carryOn_ne p x i key s] at gone
    rw [gone] at held
    cases held

theorem applyAllOn_removes (p : Portfolio) (items : List PlanItem) (x : Source → Shelf) :
    Removes items x (p.applyAllOn items x).2 :=
  applyAllOn_keeps (fun _ hi executable x => carryOn_removes hi executable p x) x

theorem plain_of_planOn (planned : planOn x d m = .ok plan) (tidy : (x .home).Tidy)
    (hi : i ∈ plan.items) {c : String} (here : (x .home).get? i.key = some c) :
    ∃ fields, Header.fields c = .ok fields ∧ Header.isPrivate fields = false := by
  obtain ⟨es, es', hes, -, rfl⟩ := planOn_eq_ok planned
  obtain ⟨-, plain, -⟩ := Plan.mem_items hi
  obtain ⟨e, made⟩ := Shelf.exists_entryOf hes here
  obtain ⟨-, -, -, fields, hfields, mark⟩ := Shelf.entryOf_eq_ok made
  rw [Plan.isPrivate, tidy.lastWith hes, Shelf.copy_of_get? here made] at plain
  exact ⟨fields, hfields, mark.symm.trans plain⟩

theorem Premise.of_delete (h : Premise x d m i) (step : i.step = .delete) :
    (x (endsOf i.flow).1).get? i.key = none := by
  cases h with
  | delete _ _ _ source => exact source
  | create step' => cases step.symm.trans step'
  | update step' => cases step.symm.trans step'
  | unchanged step' => cases step.symm.trans step'
  | conflict step' => cases step.symm.trans step'

theorem flow_of_deletion (planned : planOn x d m = .ok plan) (hi : i ∈ plan.items) (step : i.step = .delete) :
    i.flow ≠ .both ∧ i.flow = Plan.effective d m ∧ (i.executable = true → m = .mirror) := by
  obtain ⟨here, there, -, -, rfl⟩ := planOn_eq_ok planned
  obtain ⟨-, -, made⟩ := Plan.mem_items hi
  have grounds := Plan.verdict_grounds (Plan.effective d m) m
    ⟨Plan.lastWith i.key here, Plan.lastWith i.key there⟩
  rw [made] at step ⊢
  cases grounds with
  | delete _ way flow _ mirror => exact ⟨way, flow, mirror⟩
  | create step' => cases step.symm.trans step'
  | update step' => cases step.symm.trans step'
  | unchanged step' => cases step.symm.trans step'
  | conflict step' => cases step.symm.trans step'

theorem confirmed_of_deletion {force confirm : Bool} (planned : planOn x d .mirror = .ok plan)
    (hi : i ∈ plan.items) (step : i.step = .delete) (executable : i.executable = true)
    (unasked : needsConfirmation plan force confirm = false) : (force || confirm) = true := by
  have mode : plan.mode = .mirror := by
    obtain ⟨here, there, -, -, rfl⟩ := planOn_eq_ok planned
    rfl
  have deletion : i ∈ plan.deletions := List.mem_filter.2 ⟨hi, by simp [step, executable]⟩
  have some : plan.deletions.isEmpty = false := by
    rw [List.isEmpty_eq_false_iff]
    exact List.ne_nil_of_mem deletion
  cases force with
  | true => rfl
  | false => simpa [needsConfirmation, mode, some] using unasked

theorem syncOn_removes {dryRun force confirm : Bool} (held : ((x s).get? k).isSome = true)
    (gone : ((p.syncOn x d m dryRun force confirm).2 s).get? k = none) :
    (Call.sync d m dryRun force confirm).Deletes s ∧ ((∀ s, s ≠ .registry → (x s).Tidy) →
      (x s.opposite).get? k = none ∧ ∀ c, (x .home).get? k = some c →
        ∃ fields, Header.fields c = .ok fields ∧ Header.isPrivate fields = false) := by
  have kept : (x s).get? k ≠ none := by
    intro none
    rw [none] at held
    cases held
  unfold syncOn at gone
  split at gone
  · exact absurd gone kept
  · next dry =>
    split at gone
    · exact absurd gone kept
    · next plan made =>
      obtain ⟨-, -, planned⟩ := bind_eq_ok.1 made
      split at gone
      · exact absurd gone kept
      · next unasked =>
        obtain ⟨i, hi, executable, step, rfl, target⟩ := p.applyAllOn_removes plan.items x s k held gone
        obtain ⟨way, flow, mirror⟩ := flow_of_deletion planned hi step
        have mode := mirror executable
        subst mode
        have confirmed : (force || confirm) = true :=
          confirmed_of_deletion planned hi step executable (by simpa using unasked)
        have dry' : dryRun = false := by simpa using dry
        have towards : d = i.flow := flow.symm
        refine ⟨?_, fun tidy => ⟨?_, fun c here => plain_of_planOn planned (tidy .home (by decide)) hi here⟩⟩
        · rw [dry', ← target, towards]
          cases hflow : i.flow with
          | push => exact .push confirmed
          | pull => exact .pull confirmed
          | both => exact absurd hflow way
        · have source := (premise_of_planOn planned tidy hi).of_delete step
          rw [← target]
          cases hflow : i.flow with
          | push =>
            rw [hflow] at source
            exact source
          | pull =>
            rw [hflow] at source
            exact source
          | both => exact absurd hflow way

end Syncs

section Tidiness

variable {D : Source → Prop} {x x' : Source → Shelf} {d : Direction} {m : Mode} {t : Source}

def AllTidy (D : Source → Prop) (x : Source → Shelf) : Prop := ∀ s, D s → (x s).Tidy

theorem staysTidy_replace {y : Shelf} (h : (x t).Tidy → y.Tidy) : Stays (AllTidy D) x (replace x t y) := by
  intro tidy s hs
  by_cases eq : s = t
  · subst eq
    rw [replace_self]
    exact h (tidy s hs)
  · rw [replace_ne x eq]
    exact tidy s hs

theorem normal_of_planOn {plan : Plan} {i : PlanItem} (planned : planOn x d m = .ok plan)
    (tidy : AllTidy (· ≠ .registry) x) (hi : i ∈ plan.items) : Name.normalize i.key.name = i.key.name := by
  obtain ⟨here, there, hhere, hthere, rfl⟩ := planOn_eq_ok planned
  have normal : ∀ s es, s ≠ .registry → (x s).entries none = .ok es → ∀ e ∈ es, e.key = i.key →
      Name.normalize i.key.name = i.key.name := by
    intro s es hs listed e mem key
    obtain ⟨c, held, -⟩ := (tidy s hs).of_mem_entries listed mem
    have normal := (tidy s hs).normal (e.key, c) (Shelf.mem_of_get? held)
    rw [key] at normal
    exact normal
  obtain ⟨listed, -, -⟩ := Plan.mem_items hi
  rcases Plan.mem_keysOf.1 listed with ⟨e, mem, key⟩ | ⟨e, mem, key⟩
  · exact normal .home here (by decide) hhere e mem key
  · exact normal .remote there (by decide) hthere e mem key

theorem staysTidy_syncOn (tidy : AllTidy (· ≠ .registry) x) (p : Portfolio) (d : Direction) (m : Mode)
    (dryRun force confirm : Bool) : AllTidy (· ≠ .registry) (p.syncOn x d m dryRun force confirm).2 := by
  unfold syncOn
  split
  · exact tidy
  · split
    · exact tidy
    · next plan made =>
      obtain ⟨-, -, planned⟩ := bind_eq_ok.1 made
      split
      · exact tidy
      · refine applyAllOn_keeps (R := Stays (AllTidy (· ≠ .registry))) (fun i hi _ x' => ?_) x tidy
        have normal := normal_of_planOn planned tidy hi
        refine staysTidy_replace fun old => ?_
        obtain ⟨calls, ⟨e, fails⟩ | ⟨-, erases⟩ | ⟨c, -, -, puts⟩⟩ := p.carryOn_cases x' i
        · rw [fails]
          exact ⟨old.nodup, old.normal⟩
        · rw [erases]
          have erased := old.erase i.key
          exact ⟨erased.nodup, erased.normal⟩
        · rw [puts]
          have put := old.put normal c
          exact ⟨put.nodup, put.normal⟩

theorem staysTidy_copies {origin target : Source} (horigin : D origin)
    (h : Copies x x' origin target) : Stays (AllTidy D) x x' := by
  intro tidy
  rcases h with rfl | ⟨kc, hkc, content, expected, rfl⟩
  · exact tidy
  · have normal := (tidy origin horigin).normal kc hkc
    refine staysTidy_replace (fun old => old.write ?_ content expected) tidy
    rw [Key.of, normal, normal]

end Tidiness

section Runs

variable {p : Portfolio} {D : Source → Prop} {x : Source → Shelf} {d : Direction} {m : Mode} {w : World}

/-- What a call takes from the registry has a normal key. -/
def TakesNormal (w : World) : Call → Prop
  | .manage .download r => r.source = .registry → ∀ entry w',
      (resolveIn .registry r.name r.source.title r.kind).ends w = (.ok entry, w') →
        Name.normalize entry.key.name = entry.key.name
  | _ => True

theorem store_of_agrees {K : Source → String → Option Kind → Prop} (h : Agrees D K x w)
    (cached : ∀ s, D s → (w.store s).cached = false) {s : Source} (hs : D s) :
    ∃ calls, w.store s = ⟨.shelf { x s with calls }, false⟩ := by
  obtain ⟨calls, found⟩ := Backing.exists_of_still (h.holds s hs)
  exact ⟨calls, by rw [← found, ← cached s hs]⟩

theorem shelved_of_agrees {K : Source → String → Option Kind → Prop} (h : Agrees D K x w)
    (cached : ∀ s, D s → (w.store s).cached = false) (tidy : AllTidy D x) : w.Shelved D := fun s hs =>
  let ⟨_, store⟩ := store_of_agrees h cached hs
  ⟨_, store, (tidy s hs).nodup, (tidy s hs).normal⟩

theorem inMemory_after (memory : w.InMemory (· ≠ .registry)) (c : Call) :
    (p.after w c).InMemory (· ≠ .registry) := by
  cases c with
  | search query o =>
    rw [after_search]
    exact memory.frame (p.search_frame query o w)
  | advance seconds =>
    obtain ⟨now, later⟩ := p.after_advance w seconds
    rw [later]
    exact memory.frame (.of_eq rfl rfl rfl rfl rfl)
  | manage operation r =>
    rw [after_manage]
    exact p.manage_moves (R := Stays (World.InMemory (· ≠ .registry))) (fun _ _ frame h => h.frame frame) write_inMemory
      operation r w memory
  | sync d m dryRun force confirm =>
    obtain ⟨x, h, shelves⟩ := memory.exists_agrees
    obtain ⟨w', ended, h', cached⟩ :=
      ends_sync (fun _ hs => hs) h (memory.coherent (fun _ hs => hs) p) d m dryRun force confirm
    rw [after_sync, ended]
    intro s hs
    obtain ⟨calls, store⟩ := store_of_agrees h' (fun s hs => (cached s).trans (by rw [shelves s hs])) hs
    exact ⟨_, store⟩

theorem shelved_after (shelved : w.Shelved (· ≠ .registry)) {c : Call} (normal : TakesNormal w c) :
    (p.after w c).Shelved (· ≠ .registry) := by
  obtain ⟨x, h, shelves⟩ := shelved.exists_agrees
  have tidy : AllTidy (· ≠ .registry) x := fun s hs => (shelves s hs).2
  have uncached : ∀ s, s ≠ .registry → (w.store s).cached = false := by
    intro s hs
    rw [(shelves s hs).1]
  have coherent := shelved.coherent (fun _ hs => hs) p
  cases c with
  | search query o =>
    rw [after_search]
    exact shelved.frame (p.search_frame query o w)
  | advance seconds =>
    obtain ⟨now, later⟩ := p.after_advance w seconds
    rw [later]
    exact shelved.frame (.of_eq rfl rfl rfl rfl rfl)
  | sync d m dryRun force confirm =>
    obtain ⟨w', ended, h', cached⟩ := ends_sync (fun _ hs => hs) h coherent d m dryRun force confirm
    rw [after_sync, ended]
    exact shelved_of_agrees h' (fun s hs => (cached s).trans (uncached s hs))
      (staysTidy_syncOn tidy p d m dryRun force confirm)
  | manage operation r =>
    rw [after_manage]
    by_cases foreign : operation = .download ∧ r.source = .registry
    · obtain ⟨rfl, source⟩ := foreign
      refine p.download_leads (R := Stays (World.Shelved (· ≠ .registry))) (fun _ _ frame h => h.frame frame)
        (fun entry w' resolved => ?_) r.force r.confirm shelved
      rw [source] at resolved
      exact write_shelved (normal source entry w' (by rw [source]; exact resolved)) .home
    · obtain ⟨x', managed, h', cached⟩ := agrees_manage (fun _ hs => hs) h coherent operation r
        fun download source => absurd ⟨download, source⟩ foreign
      refine shelved_of_agrees h' (fun s hs => (cached s).trans (uncached s hs)) ?_
      cases operation with
      | listRemote =>
        rw [show x' = x from managed]
        exact tidy
      | compare =>
        rw [show x' = x from managed]
        exact tidy
      | upload => exact staysTidy_copies (D := (· ≠ .registry)) (by decide) managed tidy
      | download =>
        refine staysTidy_copies (D := (· ≠ .registry)) ?_ managed tidy
        unfold originOf
        split
        · next source => exact absurd ⟨rfl, by simpa using source⟩ foreign
        · decide

theorem after_removes (memory : w.InMemory (· ≠ .registry)) {c : Call} {s : Source} {k : Key} (hs : s ≠ .registry)
    (held : (w.held s k).isSome = true) (gone : (p.after w c).held s k = none) :
    c.Deletes s ∧ (w.Shelved (· ≠ .registry) → w.held s.opposite k = none ∧
      ∀ content, w.held .home k = some content →
        ∃ fields, Header.fields content = .ok fields ∧ Header.isPrivate fields = false) := by
  have kept : ¬World.Grows w (p.after w c) := by
    intro grows
    have still := grows s k held
    rw [gone] at still
    cases still
  cases c with
  | search query o =>
    rw [after_search] at kept
    exact absurd (p.search_frame query o w).grows kept
  | advance seconds =>
    obtain ⟨now, later⟩ := p.after_advance w seconds
    rw [later] at kept
    refine absurd (World.grows_of_stores fun t => ?_) kept
    cases t <;> rfl
  | manage operation r =>
    rw [after_manage] at kept
    exact absurd (p.manage_moves (fun _ _ => World.Frame.grows) write_grows operation r w) kept
  | sync d m dryRun force confirm =>
    obtain ⟨x, h, shelves⟩ := memory.exists_agrees
    obtain ⟨w', ended, h', -⟩ :=
      ends_sync (fun _ hs => hs) h (memory.coherent (fun _ hs => hs) p) d m dryRun force confirm
    rw [after_sync, ended, h'.held hs] at gone
    rw [h.held hs] at held
    obtain ⟨deletes, safe⟩ := syncOn_removes held gone
    refine ⟨deletes, fun shelved => ?_⟩
    obtain ⟨opposite, plain⟩ := safe fun s hs => shelved.tidy hs (shelves s hs)
    have other : s.opposite ≠ .registry := by
      cases s with
      | home => decide
      | remote => decide
      | registry => exact absurd rfl hs
    exact ⟨(h.held other k).trans opposite, fun content here => plain content
      ((h.held (s := .home) (by decide) k).symm.trans here)⟩

theorem syncOn_asked {dryRun force confirm : Bool} {r : SyncReport}
    (h : (p.syncOn x d m dryRun force confirm).1 = .ok (.finished r))
    (asked : r.requiresConfirmation = true) : (p.syncOn x d m dryRun force confirm).2 = x := by
  unfold syncOn at h ⊢
  split
  · rfl
  · next dry =>
    rw [if_neg dry] at h
    split
    · rfl
    · next plan made =>
      rw [made] at h
      split
      · rfl
      · next unasked =>
        dsimp only at h
        rw [if_neg unasked] at h
        cases done : (p.applyAllOn plan.items x).1 with
        | error e =>
          rw [done] at h
          cases h
        | ok outcomes =>
          rw [done] at h
          have whole := SyncResult.finished.inj (Except.ok.inj h)
          subst whole
          cases asked

/-- Deletions over whole runs, whatever the registry is. A call takes an element out of the store here or the
remote one only if it is a confirmed mirror sync towards it; and, if the keys are normal by then, only if the
other store does not have it and the copy here is not private. Without such calls nothing is lost, and a sync
that asks for a confirmation changes nothing. Keys stay normal as long as those taken from the registry are.
-/
theorem deletion_safety (memory : w.InMemory (· ≠ .registry)) (calls : List Call) :
    (∀ c s k, s ≠ .registry → ((p.run calls w).held s k).isSome = true →
      (p.after (p.run calls w) c).held s k = none → c.Deletes s ∧ ((p.run calls w).Shelved (· ≠ .registry) →
        (p.run calls w).held s.opposite k = none ∧ ∀ content, (p.run calls w).held .home k = some content →
          ∃ fields, Header.fields content = .ok fields ∧ Header.isPrivate fields = false)) ∧
    ((∀ c ∈ calls, ∀ s, ¬c.Deletes s) → ∀ s k, s ≠ .registry → (w.held s k).isSome = true →
      ((p.run calls w).held s k).isSome = true) ∧ (∀ d m dryRun force confirm r,
      ((p.sync d m dryRun force confirm).ends (p.run calls w)).1 = .ok (.finished r) →
      r.requiresConfirmation = true → ∀ s k, s ≠ .registry →
        (p.after (p.run calls w) (.sync d m dryRun force confirm)).held s k = (p.run calls w).held s k) ∧
    (w.Shelved (· ≠ .registry) → p.Along TakesNormal calls w → (p.run calls w).Shelved (· ≠ .registry)) := by
  have reached : (p.run calls w).InMemory (· ≠ .registry) :=
    run_keeps (I := World.InMemory (· ≠ .registry)) (fun c _ _ memory => inMemory_after memory c) memory
  refine ⟨fun c s k hs held gone => after_removes reached hs held gone, ?_, ?_, fun shelved normal =>
    run_keeps_along (I := World.Shelved (· ≠ .registry)) (fun _ _ normal shelved => shelved_after shelved normal)
      normal shelved⟩
  · intro none s k hs held
    refine (run_keeps (I := fun w => w.InMemory (· ≠ .registry) ∧ (w.held s k).isSome = true)
      (fun c hc w' ⟨memory, held⟩ => ⟨inMemory_after memory c, ?_⟩) ⟨memory, held⟩).2
    cases found : (p.after w' c).held s k with
    | none => exact absurd (after_removes memory hs held found).1 (none c hc s)
    | some content => rfl
  · intro d m dryRun force confirm r ended asked s k hs
    obtain ⟨x, h, -⟩ := reached.exists_agrees
    obtain ⟨w', synced, h', -⟩ :=
      ends_sync (fun _ hs => hs) h (reached.coherent (fun _ hs => hs) p) d m dryRun force confirm
    rw [synced] at ended
    rw [after_sync, synced, h'.held hs, h.held hs, syncOn_asked ended asked]

/-- The element that only the remote store has is deleted by a confirmed mirror push. -/
theorem deletion_safety_crossed : (crossed.held .remote ⟨.persona, "b"⟩).isSome = true ∧
      (after { home := default } crossed (.sync .push .mirror false false true)).held .remote
        ⟨.persona, "b"⟩ = none ∧
      (Call.sync .push .mirror false false true).Deletes .remote ∧
      crossed.held .home ⟨.persona, "b"⟩ = none := by
  have gone : (after { home := default } crossed (.sync .push .mirror false false true)).held .remote
      ⟨.persona, "b"⟩ = none := by
    obtain ⟨r, w', ended, -, -, gone⟩ := ends_sync_crossed
    rw [after_sync, ended]
    exact gone
  have held : (crossed.held .remote ⟨.persona, "b"⟩).isSome = true := by decide
  obtain ⟨deletes, safe⟩ := (deletion_safety (p := { home := default }) crossed_shelved.inMemory []).1
    (.sync .push .mirror false false true) .remote ⟨.persona, "b"⟩ (by decide) held gone
  exact ⟨held, gone, deletes, (safe crossed_shelved).1⟩

end Runs

section Example

def hidden : String := "---\nlocal_only: true\n---\n"

/-- A private element here, and a registry with a path that ends in too many extensions. -/
def misfiling : World where
  home := { backing := .shelf { source := .home, writable := true, contents := [(⟨.persona, "a"⟩, hidden)] } }
  remote := { backing := .shelf { source := .remote, writable := true } }
  registry := { backing := .catalog { index := "https://c.d/e", base := "https://c.d" } }
  web := { routes := [
    ⟨"GET", "https://c.d/e", [.response { status := 200, body :=
      "\x7b\"index\": \x7b\"personas\": [\x7b\"name\": \"a\", \"path\": \"a.md.md.md\"\x7d]\x7d\x7d".toUTF8 }]⟩,
    ⟨"GET", "https://c.d/a.md.md.md", [.response { status := 200, body := "x".toUTF8 }]⟩] }
  results := Cache.ofPreset .search

def misfiled : Source → Shelf
  | .home => { source := .home, writable := true, calls := { list := 1, write := 1 }
               contents := [(⟨.persona, "a"⟩, hidden), (⟨.persona, "a.md"⟩, "x")] }
  | _ => { source := .remote, writable := true }

def takeMisfiled : Call := .manage .download { name := "a.md", source := .registry }

theorem misfiling_shelved : misfiling.Shelved (· ≠ .registry) := by
  intro s hs
  cases s with
  | home => exact ⟨_, rfl, by decide, by decide⟩
  | remote => exact ⟨_, rfl, by decide, by decide⟩
  | registry => exact absurd rfl hs

theorem misfiled_agrees : Agrees (· ≠ .registry) (fun _ _ _ => False) misfiled
    (run { home := default } [takeMisfiled] misfiling) := by
  have memory : (run { home := default } [takeMisfiled] misfiling).InMemory (· ≠ .registry) :=
    inMemory_after misfiling_shelved.inMemory takeMisfiled
  have shelf : ∀ s, s ≠ .registry →
      ((run { home := default } [takeMisfiled] misfiling).store s).backing.shelf? = some (misfiled s) := by
    intro s hs
    cases s with
    | home => decide +kernel
    | remote => decide +kernel
    | registry => exact absurd rfl hs
  refine ⟨fun s hs => ?_, fun s hs cached => ?_, fun s q k h => h.elim, fun ⟨_, _, _, h⟩ => h.elim⟩
  · obtain ⟨y, store⟩ := memory s hs
    have same := shelf s hs
    rw [store] at same ⊢
    rw [Option.some.inj same]
  · obtain ⟨y, store⟩ := memory s hs
    rw [store] at cached
    cases cached

theorem misfiled_planOn : ∃ plan, planOn misfiled .pull .mirror = .ok plan ∧
    plan.items = [Plan.item .pull .mirror ⟨.persona, "a"⟩ ⟨some (entryFor ⟨.persona, "a.md"⟩ "x"), none⟩] :=
  planOn_of_sorted (entries_of_sorted (by decide) rfl (by decide +kernel))
    (entries_of_sorted (by decide) rfl (by decide)) (k := [⟨.persona, "a"⟩])
    (by decide +kernel) (by decide) (by decide +kernel)

/-- An element from the registry comes to lie beside a private one, with an extension that its key should have
lost; a mirror pull then deletes the private one. -/
theorem private_element_deleted : misfiling.Shelved (· ≠ .registry) ∧
      (run { home := default } [takeMisfiled] misfiling).held .home ⟨.persona, "a"⟩ = some hidden ∧
      (∃ fields, Header.fields hidden = .ok fields ∧ Header.isPrivate fields = true) ∧
      (run { home := default } [takeMisfiled, .sync .pull .mirror false false true] misfiling).held .home
        ⟨.persona, "a"⟩ = none := by
  obtain ⟨plan, planned, items⟩ := misfiled_planOn
  have gone : ((applyAllOn { home := default } plan.items misfiled).2 .home).get? ⟨.persona, "a"⟩ = none := by
    rw [items]
    decide +kernel
  have admitted : checkBulk {} (Plan.effective .pull .mirror) = .ok () := rfl
  have synced : (syncOn { home := default } misfiled .pull .mirror false false true).2 =
      (applyAllOn { home := default } plan.items misfiled).2 := by
    simp [syncOn, admitted, planned, ok_bind, needsConfirmation]
  obtain ⟨w', ended, h, -⟩ := ends_sync (p := { home := default }) (fun _ hs => hs) misfiled_agrees
    ((inMemory_after misfiling_shelved.inMemory takeMisfiled).coherent (fun _ hs => hs) _) .pull .mirror false false true
  refine ⟨misfiling_shelved, misfiled_agrees.held (by decide) _, by decide +kernel, ?_⟩
  rw [run_cons, run_cons, run_nil, after_sync]
  rw [run_cons, run_nil] at ended
  rw [ended, h.held (by decide), synced]
  exact gone

end Example

end Portfolio

end TriStore
