import TriStore.Proofs.FolderFiles
import TriStore.Proofs.Syncing

/-!
Private content and the remote store. Whether an element is private is read off a listing, while the
content that is sent is fetched by key.
-/
namespace TriStore
open Plan

/-- Content that says of itself that it is private. -/
def Header.IsMarked (content : String) : Prop :=
  ∃ fields, Header.fields content = .ok fields ∧ Header.isPrivate fields = true

/-- A name of an element file that the disk can keep. -/
structure Nameable (n : String) : Prop extends IsFileName n where
  free : Path.stepFault? n = none
  size : FileTree.storedSize n ≤ FileTree.longestName

/-- Looking for the file that a normal name stands for is no error. -/
def Sought (name : String) : Prop :=
  Path.stepFault? (name ++ ".md") = none → FileTree.storedSize (name ++ ".md") ≤ FileTree.longestName

/-- One file is listed last under a key, and the key fetches another. An entry has the normal form of its
file's normal name as its key. -/
structure Hides (shown sent : String) : Prop where
  listed : Nameable shown
  fetched : Nameable sent
  sought : Sought (Name.normalize sent)
  differ : sent ≠ shown
  key : Name.normalize (Name.normalize shown) = Name.normalize sent
  order : Name.normalize (Name.normalize sent) = Name.normalize sent → Text.le sent shown = true
  unnamed : Name.normalize shown = Name.normalize sent → shown ≠ Name.normalize sent ++ ".md"

namespace Folder

variable {f : Folder} {N : Kind → String → Prop} {t t' : FileTree} {k : Key} {es : List Entry}
  {e : Entry} {c : String}

/-- The files that a key can stand for are the same in both trees. -/
def Kept (f : Folder) (k : Key) (t t' : FileTree) : Prop :=
  ∃ spot, f.Stands t k.kind spot ∧ f.Stands t' k.kind spot ∧
    ∀ n, Name.normalize n = k.name → t'.get? (spot ++ [n]) = t.get? (spot ++ [n])

theorem Kept.refl {spot : List String} (h : f.Stands t k.kind spot) : f.Kept k t t :=
  ⟨spot, h, h, fun _ _ => rfl⟩

theorem Kept.write {d : Disk} {k' : Key} (h : f.Kept k t d.files)
    (normal : ∃ s, k'.name = Name.normalize s) (slash : '/' ∉ k'.name.toList) (other : k' ≠ k)
    (content : String) (expected : Option Value) : f.Kept k t (f.write d k' content expected).2.files := by
  obtain ⟨spot, before, between, same⟩ := h
  obtain ⟨after, kept⟩ := between.write normal slash content expected
  refine ⟨spot, before, after, fun n hn => (kept n ?_).trans (same n hn)⟩
  rintro ⟨kind, name⟩
  apply other
  cases k
  cases k'
  simp_all

theorem Kept.exists_sent {n' c' : String} (h : f.Kept k t t') (file' : f.HasFile t k.kind n' c')
    (name : k.name = Name.normalize (Name.normalize n')) (fetched : f.fetch t' k = .ok c) :
    ∃ n, f.HasFile t k.kind n c ∧ Name.normalize n = k.name ∧ Nameable n ∧ Nameable n' ∧
      Sought k.name ∧ (n' = k.filename → n = n') := by
  obtain ⟨spot, stands, stands', same⟩ := h
  have slash : '/' ∉ k.name.toList := by
    rw [name, Name.slash_mem_normalize, Name.slash_mem_normalize]
    exact file'.name.step
  obtain ⟨n, sent, hn, ⟨b, looked⟩, first⟩ := exists_of_fetch ⟨_, name⟩ slash fetched
  have file : f.HasFile t k.kind n c := (stands.hasFile_congr stands' (same n hn)).1 sent
  obtain ⟨free, size⟩ := stands.nameable file
  obtain ⟨free', size'⟩ := stands.nameable file'
  refine ⟨n, file, hn, ⟨file.name, free, size⟩, ⟨file'.name, free', size'⟩,
    stands'.fits_of_exists (isFileName_filename slash) looked, fun named => ?_⟩
  rw [named] at file' ⊢
  exact first c' ((stands.hasFile_congr stands' (same _ (normalize_filename ⟨_, name⟩))).2 file')

theorem HasFile.content_eq {kind : Kind} {n c' : String} (h : f.HasFile t kind n c)
    (h' : f.HasFile t kind n c') : c = c' :=
  Except.ok.inj (h.text.symm.trans h'.text)

theorem not_marked_of_entryOf {kind : Kind} {n : String} (h : entryOf kind n c = .ok e)
    (plain : e.localOnly = false) : ¬Header.IsMarked c := by
  obtain ⟨-, fields, parsed, mark⟩ := entryOf_eq_ok h
  rintro ⟨fields', parsed', marked⟩
  rw [Except.ok.inj (parsed'.symm.trans parsed), ← mark, plain] at marked
  cases marked

variable (calm : ∀ kind shown sent, N kind shown → N kind sent → ¬Hides shown sent)
  (names : ∀ kind, ∀ n ∈ f.elementNames t kind, N kind n) (lists : f.Lists t es)

include calm names lists

theorem not_marked_of_lastWith (last : Plan.lastWith k es = some e) (plain : e.localOnly = false)
    (kept : f.Kept k t t') (fetched : f.fetch t' k = .ok c) : ¬Header.IsMarked c := by
  obtain ⟨n', c', file', entry, before⟩ := lists.last k e last
  have key : k.name = Name.normalize (Name.normalize n') := by
    rw [← (mem_of_lastWith last).2, (entryOf_eq_ok entry).1]
  obtain ⟨n, file, name, sent, shown, sought, named⟩ := kept.exists_sent file' key fetched
  obtain ⟨spot, stands, -⟩ := kept
  by_cases same : n = n'
  · subst same
    rw [file.content_eq file']
    exact not_marked_of_entryOf entry plain
  · refine absurd ?_ (calm k.kind n' n (names _ _ (stands.mem_elementNames file'))
      (names _ _ (stands.mem_elementNames file)))
    refine ⟨shown, sent, by rw [name]; exact sought, same, by rw [← key, name], fun stable => ?_, ?_⟩
    · exact before n c file (stable.trans name)
    · rintro - rfl
      exact same (named (by rw [name]; rfl))

theorem not_marked_of_resolve {query place : String} (resolved : Lookup.resolve query es place = .ok e)
    (plain : e.localOnly = false) (fetched : f.fetch t e.key = .ok c) : ¬Header.IsMarked c := by
  have mem := Lookup.mem_of_resolve resolved
  obtain ⟨n', c', spot, stands, file', entry⟩ := lists.made e mem
  have key : e.key.name = Name.normalize (Name.normalize n') := by
    rw [(entryOf_eq_ok entry).1]
  obtain ⟨n, file, name, sent, shown, sought, named⟩ :=
    (Kept.refl stands).exists_sent file' key fetched
  by_cases same : n = n'
  · subst same
    rw [file.content_eq file']
    exact not_marked_of_entryOf entry plain
  by_cases stable : Name.normalize e.key.name = e.key.name
  · -- The entry of the other file is under the same key, so it is the one that was found.
    obtain ⟨e', he', entry'⟩ := lists.whole e mem n c file
    have key' : e'.key = e.key := by
      rw [(entryOf_eq_ok entry').1, name, stable]
    rw [Lookup.eq_of_resolve resolved he' key'] at entry'
    exact not_marked_of_entryOf entry' plain
  · refine absurd ?_ (calm e.key.kind n' n (names _ _ (stands.mem_elementNames file'))
      (names _ _ (stands.mem_elementNames file)))
    refine ⟨shown, sent, by rw [name]; exact sought, same, by rw [← key, name], fun fixed => ?_, fun found => ?_⟩
    · rw [name] at fixed
      exact absurd fixed stable
    · refine absurd ?_ stable
      rw [← name, ← found, ← key, ← name, found]

end Folder

namespace Plan

variable {here there : List Entry} {d : Direction} {m : Mode} {i j : PlanItem}

theorem both_of_flows (hi : i ∈ (build here there d m).items) (hj : j ∈ (build here there d m).items)
    (pull : i.flow = .pull) (push : j.flow = .push) : effective d m = .both ∧ i.step ≠ .delete := by
  obtain ⟨-, -, made⟩ := mem_items hi
  obtain ⟨-, -, made'⟩ := mem_items hj
  have both : effective d m = .both := by
    cases way : effective d m with
    | both => rfl
    | push =>
      rw [made, way] at pull
      exact nomatch (flow_oneWay .push m _).symm.trans pull
    | pull =>
      rw [made', way] at push
      exact nomatch (flow_oneWay .pull m _).symm.trans push
  refine ⟨both, fun step => ?_⟩
  rw [made, both] at step
  cases twoWay_grounds m ⟨lastWith i.key here, lastWith i.key there⟩ with
  | delete _ way flow _ _ => exact way flow
  | create step' => cases step'.symm.trans step
  | update step' => cases step'.symm.trans step
  | unchanged step' => cases step'.symm.trans step
  | conflict step' => cases step'.symm.trans step

theorem exists_normalize (hi : i ∈ (build here there d m).items) : ∃ s, i.key.name = Name.normalize s := by
  rcases mem_keysOf.1 (mem_items hi).1 with ⟨e, -, key⟩ | ⟨e, -, key⟩
  · rw [← key]
    exact e.exists_normalize
  · rw [← key]
    exact e.exists_normalize

theorem eq_of_key (hi : i ∈ (build here there d m).items) (hj : j ∈ (build here there d m).items)
    (key : i.key = j.key) : i = j := by
  rw [(mem_items hi).2.2, (mem_items hj).2.2, key]

theorem exists_of_push (hi : i ∈ (build here there d m).items) (push : i.flow = .push)
    (step : i.step = .create ∨ i.step = .update) :
    ∃ e, lastWith i.key here = some e ∧ e.localOnly = false := by
  obtain ⟨listed, shown, made⟩ := mem_items hi
  have found : lastWith i.key here ≠ none := by
    intro missing
    rw [made] at push step
    cases verdict_grounds (effective d m) m ⟨lastWith i.key here, lastWith i.key there⟩ with
    | create _ _ target =>
      rw [show (verdict _ _ _).flow = .push from push] at target
      rcases mem_keysOf.1 listed with ⟨e, mem, key⟩ | ⟨e, mem, key⟩
      · exact lastWith_eq_none_iff.1 missing e mem key
      · exact lastWith_eq_none_iff.1 target e mem key
    | update _ _ both =>
      rw [show (verdict _ _ _).flow = .push from push] at both
      exact nomatch missing.symm.trans (congrArg Prod.fst both)
    | delete step' => rcases step with step | step <;> cases step'.symm.trans step
    | unchanged step' => rcases step with step | step <;> cases step'.symm.trans step
    | conflict step' => rcases step with step | step <;> cases step'.symm.trans step
  obtain ⟨e, last⟩ := Option.ne_none_iff_exists'.1 found
  exact ⟨e, last, by simpa [isPrivate, last] using shown⟩

theorem flow_ne_both (hi : i ∈ (build here there d m).items) (unchanged : i.step ≠ .unchanged)
    (conflict : i.step ≠ .conflict) : i.flow ≠ .both := by
  obtain ⟨-, -, made⟩ := mem_items hi
  rw [made] at unchanged conflict ⊢
  cases verdict_grounds (effective d m) m ⟨lastWith i.key here, lastWith i.key there⟩ with
  | create _ way _ => exact way
  | update _ way _ => exact way
  | delete _ way _ _ _ => exact way
  | unchanged step => exact absurd step unchanged
  | conflict step => exact absurd step conflict

end Plan

/-- An offer that does not ask the remote store to write private content. -/
def Offer.IsDiscreet (o : Offer) : Prop := o.store = .remote → ¬Header.IsMarked o.content

namespace World

variable {f : Folder} {w w' : World}

/-- The store here lies in a folder, the remote one not on the disk, and no private content was sent to it. -/
structure Discreet (f : Folder) (w : World) : Prop where
  home : w.home.backing.folder? = some f
  remote : w.remote.backing.folder? = none
  offers : ∀ o ∈ w.offers, o.IsDiscreet

/-- What is kept of the listings of the store here is what they would be now. -/
def Fresh (f : Folder) (w : World) : Prop :=
  w.home.cached = true → ∀ kind, ∀ i ∈ w.listings.items, i.key = Action.listingKey .home kind →
    (f.load w.disk.files kind).2 = .ok i.value

theorem Discreet.sends (h : w.Discreet f) (sends : Sends Offer.IsDiscreet w w') : w'.Discreet f where
  home := (sends.folder .home).trans h.home
  remote := (sends.folder .remote).trans h.remote
  offers := sends.forall_offers h.offers

end World

namespace Portfolio

open TriStore.Action
open World (Frame Sends)

variable {p : Portfolio} {f : Folder} {w w' : World} {i : PlanItem} {k : Key} {c : String}

theorem ends_loadEntries_folder (home : w.home.backing.folder? = some f) (kind : Option Kind) :
    ∃ log, (loadEntries .home kind).ends w = ((f.load w.disk.files kind).2, { w with log }) := by
  have backing : (w.store .home).backing = .folder f := Backing.folder?_eq_some home
  obtain ⟨log, warned⟩ := exists_log_warnAll (f.load w.disk.files kind).1 w
  refine ⟨log, ?_⟩
  rw [loadEntries, ends_bind_of_ok (ends_get w), backing]
  rw [ends_bind_of_ok (ends_get w), ends_bind_of_ok warned, ends_liftExcept]

theorem ends_listEntries_folder (home : w.home.backing.folder? = some f)
    (uncached : w.home.cached = false) (kind : Option Kind) :
    ∃ log, (listEntries .home kind).ends w = ((f.load w.disk.files kind).2, { w with log }) := by
  obtain ⟨log, loaded⟩ := ends_loadEntries_folder home kind
  refine ⟨log, ?_⟩
  rw [listEntries, ends_bind_of_ok (ends_get w), if_pos (by rw [World.store, uncached]; rfl), loaded]

theorem load_of_listEntries {kind : Option Kind} {es : List Entry}
    (home : w.home.backing.folder? = some f) (fresh : w.Fresh f)
    (listed : (listEntries .home kind).ends w = (.ok es, w')) : (f.load w.disk.files kind).2 = .ok es := by
  by_cases cached : w.home.cached = true
  · obtain ⟨w₁, looked, settled⟩ := ends_cachedListing .home kind w
    rw [listEntries, ends_bind_of_ok (ends_get w), if_neg (by rw [World.store, cached]; decide),
      ends_bind_of_ok looked] at listed
    cases found : (w.listings.get w.clock (listingKey .home kind)).1 with
    | some entries =>
      obtain ⟨i, hi, key, value⟩ := Cache.exists_mem_of_get found
      rw [found] at listed
      rw [fresh cached kind i hi (by simpa using key), value]
      exact (Prod.mk.inj listed).1
    | none =>
      rw [found] at listed
      obtain ⟨entries, w₂, loaded, kept⟩ := ends_bind_eq_ok.1 listed
      obtain ⟨-, w₃, -, same⟩ := ends_bind_eq_ok.1 kept
      have home₁ : w₁.home.backing.folder? = some f :=
        ((settled.frame.sends (P := fun _ => True)).folder .home).trans home
      obtain ⟨log, read⟩ := ends_loadEntries_folder home₁ kind
      rw [← settled.frame.disk, ← Except.ok.inj (Prod.mk.inj same).1]
      exact (Prod.mk.inj (read.symm.trans loaded)).1
  · obtain ⟨log, read⟩ := ends_listEntries_folder home (by simpa using cached) kind
    exact (Prod.mk.inj (read.symm.trans listed)).1

theorem ends_fetch_folder (home : w.home.backing.folder? = some f) (key : Key) :
    (fetch .home key).ends w = (f.fetch w.disk.files key, w) := by
  have backing : (w.store .home).backing = .folder f := Backing.folder?_eq_some home
  rw [fetch, ends_bind_of_ok (ends_get w), backing]
  rw [ends_bind_of_ok (ends_get w), ends_liftExcept]

theorem write_home_discreet (key : Key) (content : String) (expected : Option Value) :
    (write .home key content expected).Moves (Sends Offer.IsDiscreet) := by
  intro w
  exact (write_sends .home key content expected w).1.mono fun o ho remote => nomatch ho ▸ remote

theorem write_remote_discreet {content : String} (unmarked : ¬Header.IsMarked content) (key : Key)
    (expected : Option Value) : (write .remote key content expected).Moves (Sends Offer.IsDiscreet) := by
  intro w
  refine (write_sends .remote key content expected w).1.mono fun o ho _ => ?_
  rw [ho]
  exact unmarked

theorem carryOut_push (h : w.Discreet f) (push : i.flow = .push)
    (safe : i.step ≠ .delete → ∀ c, f.fetch w.disk.files i.key = .ok c → ¬Header.IsMarked c) :
    Sends Offer.IsDiscreet w ((p.carryOut i).ends w).2 ∧ ((p.carryOut i).ends w).2.disk = w.disk := by
  have way : endsOf i.flow = (.home, .remote) := by
    rw [push]
    rfl
  refine carryOut_leads (I := fun w' => Sends Offer.IsDiscreet w w' ∧ w'.disk = w.disk)
    (fun w' frame => ⟨frame.sends, frame.disk⟩) (fun _ => ?_) fun step content w₁ got frame expected => ?_
  · rw [way]
    obtain ⟨sends, disk⟩ := delete_sends (P := Offer.IsDiscreet) .remote i.key (expectedOf i) w
    exact ⟨sends, disk h.remote⟩
  · have fetched : f.fetch w.disk.files i.key = .ok content := by
      rw [ends_contentFor_eq, way, ends_fetch_folder h.home] at got
      obtain ⟨content', read, passed⟩ := bind_eq_ok.1 (Prod.mk.inj got).1
      rw [Portfolio.passed, push, if_neg (by decide)] at passed
      split at passed
      · cases passed
      · rw [← Except.ok.inj passed]
        exact read
    have sends := write_remote_discreet (safe step content fetched) i.key expected w₁
    obtain ⟨-, -, disk⟩ := write_sends .remote i.key content expected w₁
    have remote : (w₁.store .remote).backing.folder? = none :=
      ((frame.sends (P := Offer.IsDiscreet)).folder .remote).trans h.remote
    rw [diskAfter, remote] at disk
    rw [way]
    exact ⟨frame.sends.trans sends, disk.trans frame.disk⟩

theorem carryOut_pull (h : w.Discreet f) (pull : i.flow = .pull) :
    Sends Offer.IsDiscreet w ((p.carryOut i).ends w).2 ∧
      (i.step ≠ .delete → ((p.carryOut i).ends w).2.disk = w.disk ∨
        ∃ content expected, ((p.carryOut i).ends w).2.disk = (f.write w.disk i.key content expected).2) := by
  have way : endsOf i.flow = (.remote, .home) := by
    rw [pull]
    rfl
  refine carryOut_leads (I := fun w' => Sends Offer.IsDiscreet w w' ∧ (i.step ≠ .delete →
      w'.disk = w.disk ∨ ∃ content expected, w'.disk = (f.write w.disk i.key content expected).2))
    (fun w' frame => ⟨frame.sends, fun _ => .inl frame.disk⟩) (fun step => ?_)
    fun _ content w₁ _ frame expected => ?_
  · obtain ⟨sends, -⟩ := delete_sends (P := Offer.IsDiscreet) (endsOf i.flow).2 i.key (expectedOf i) w
    exact ⟨sends, fun other => absurd step other⟩
  · rw [way]
    have sends := write_home_discreet i.key content expected w₁
    obtain ⟨-, -, disk⟩ := write_sends .home i.key content expected w₁
    have home : (w₁.store .home).backing.folder? = some f :=
      ((frame.sends (P := Offer.IsDiscreet)).folder .home).trans h.home
    rw [diskAfter, home, frame.disk] at disk
    exact ⟨frame.sends.trans sends, fun _ => .inr ⟨content, expected, disk⟩⟩

/-- While a plan is carried out, nothing private was sent, and the files still to be sent are as they were
listed. -/
structure Underway (f : Folder) (t : FileTree) (planned rest : List PlanItem) (w : World) : Prop where
  sub : ∀ i ∈ rest, i ∈ planned
  discreet : w.Discreet f
  kept : ∀ i ∈ rest, i.flow = .push → (i.step = .create ∨ i.step = .update) → f.Kept i.key t w.disk.files

namespace Underway

variable {t : FileTree} {here there : List Entry} {d : Direction} {m : Mode} {planned rest : List PlanItem}

theorem tail (h : Underway f t planned (i :: rest) w) : Underway f t planned rest w :=
  ⟨fun j hj => h.sub j (.tail _ hj), h.discreet, fun j hj => h.kept j (.tail _ hj)⟩

theorem push (h : Underway f t planned (i :: rest) w) (push : i.flow = .push)
    (safe : i.step ≠ .delete → ∀ c, f.fetch w.disk.files i.key = .ok c → ¬Header.IsMarked c) :
    Underway f t planned rest ((p.apply i).ends w).2 := by
  have after := p.apply_frame i w
  obtain ⟨sends, disk⟩ := carryOut_push (p := p) h.discreet push safe
  refine ⟨h.tail.sub, h.discreet.sends (sends.trans after.sends), ?_⟩
  rw [after.disk, disk]
  exact h.tail.kept

theorem pull (h : Underway f t (Plan.build here there d m).items (i :: rest) w) (pull : i.flow = .pull)
    (inside : Plan.effective d m = .both → '/' ∉ i.key.name.toList) :
    Underway f t (Plan.build here there d m).items rest ((p.apply i).ends w).2 := by
  have hi := h.sub i (.head _)
  have after := p.apply_frame i w
  obtain ⟨sends, disk⟩ := carryOut_pull (p := p) h.discreet pull
  refine ⟨h.tail.sub, h.discreet.sends (sends.trans after.sends), fun j hj push step => ?_⟩
  have hj' := h.tail.sub j hj
  obtain ⟨both, delete⟩ := both_of_flows hi hj' pull push
  have before := h.tail.kept j hj push step
  rw [after.disk]
  rcases disk delete with same | ⟨content, expected, written⟩
  · rw [same]
    exact before
  · rw [written]
    refine before.write (exists_normalize hi) (inside both) (fun key => ?_) content expected
    rw [eq_of_key hi hj' key, push] at pull
    cases pull

theorem apply (h : Underway f t (Plan.build here there d m).items (i :: rest) w) {N : Kind → String → Prop}
    (calm : ∀ kind shown sent, N kind shown → N kind sent → ¬Hides shown sent)
    (names : ∀ kind, ∀ n ∈ f.elementNames t kind, N kind n) (lists : f.Lists t here)
    (inside : Plan.effective d m = .both → i.flow = .pull → '/' ∉ i.key.name.toList)
    (unchanged : i.step ≠ .unchanged) (conflict : i.step ≠ .conflict) :
    Underway f t (Plan.build here there d m).items rest ((p.apply i).ends w).2 := by
  have hi := h.sub i (.head _)
  cases flow : i.flow with
  | both => exact absurd flow (flow_ne_both hi unchanged conflict)
  | pull => exact h.pull flow fun both => inside both flow
  | push =>
    refine h.push flow fun delete c fetched => ?_
    have step : i.step = .create ∨ i.step = .update := by
      cases h : i.step with
      | create => exact .inl rfl
      | update => exact .inr rfl
      | delete => exact absurd h delete
      | unchanged => exact absurd h unchanged
      | conflict => exact absurd h conflict
    obtain ⟨e, last, mark⟩ := exists_of_push hi flow step
    exact Folder.not_marked_of_lastWith calm names lists last mark (h.kept i (.head _) flow step) fetched

end Underway

section Calls

variable {N : Kind → String → Prop} {d : Direction} {m : Mode}
  (calm : ∀ kind shown sent, N kind shown → N kind sent → ¬Hides shown sent)
  (names : ∀ kind, ∀ n ∈ f.elementNames w.disk.files kind, N kind n) (plain : f.Plain w.disk.files)
  (fresh : w.Fresh f) (h : w.Discreet f)

include calm names plain fresh h

theorem applyAll_discreet {plan : Plan} {w₁ : World} (planned : (Portfolio.plan d m).ends w = (.ok plan, w₁))
    (pulls : Plan.effective d m = .both → ∀ i ∈ plan.items, i.flow = .pull → '/' ∉ i.key.name.toList) :
    ((p.applyAll plan.items).ends w₁).2.Discreet f := by
  have frame := plan_frame d m w
  rw [planned] at frame
  obtain ⟨here, there, w₂, listed, rfl⟩ := exists_of_plan planned
  have lists := Folder.lists_of_load plain (load_of_listEntries h.home fresh listed)
  have start : Underway f w.disk.files (Plan.build here there d m).items (Plan.build here there d m).items w₁ := by
    refine ⟨fun _ hi => hi, h.sends frame.sends, fun i hi push step => ?_⟩
    obtain ⟨e, last, -⟩ := exists_of_push hi push step
    obtain ⟨mem, key⟩ := mem_of_lastWith last
    obtain ⟨-, -, spot, stands, -⟩ := lists.made e mem
    rw [key] at stands
    rw [frame.disk]
    exact Folder.Kept.refl stands
  obtain ⟨rest, ended⟩ := applyAll_keeps (p := p) (fun _ _ _ => Underway.tail)
    (fun i _ _ underway => underway.apply calm names lists fun both => pulls both i (underway.sub i (.head _))) start
  exact ended.discreet

theorem sync_discreet (pulls : ∀ plan w', (Portfolio.plan d m).ends w = (.ok plan, w') →
      Plan.effective d m = .both → ∀ i ∈ plan.items, i.flow = .pull → '/' ∉ i.key.name.toList)
    (dryRun force confirm : Bool) : ((p.sync d m dryRun force confirm).ends w).2.Discreet f := by
  refine sync_keeps (fun frame h => h.sends frame.sends) h (fun plan w₁ planned => ?_) dryRun force confirm
  exact applyAll_discreet calm names plain fresh h planned (pulls plan w₁ planned)

theorem upload_discreet (name : String) (kind : Option Kind) (force confirm : Bool) :
    ((p.upload name kind force confirm).ends w).2.Discreet f := by
  rw [ends_upload]
  split
  · exact h
  have frame := resolveIn_frame .home name "local portfolio" kind w
  rw [ends_bind]
  rcases resolved : (resolveIn .home name "local portfolio" kind).ends w with ⟨e | entry, w₁⟩
  · rw [resolved] at frame
    exact h.sends frame.sends
  · rw [resolved] at frame
    have h₁ : w₁.Discreet f := h.sends frame.sends
    obtain ⟨es, w₂, listed, found⟩ := ends_bind_eq_ok.1 resolved
    rw [ends_liftExcept] at found
    have lists := Folder.lists_of_load plain (load_of_listEntries h.home fresh listed)
    dsimp only
    rw [ends_bind, ends_fetch_folder h₁.home]
    cases fetched : f.fetch w₁.disk.files entry.key with
    | error e => exact h₁
    | ok content =>
      rw [frame.disk] at fetched
      refine h₁.sends (p.uploadOf_moves (fun _ _ => Frame.sends) (fun free expected => ?_) force confirm w₁)
      have shown : entry.localOnly = false := by
        unfold uploadObjections at free
        cases mark : entry.localOnly with
        | false => rfl
        | true => simp [mark] at free
      exact write_remote_discreet (Folder.not_marked_of_resolve calm names lists (Prod.mk.inj found).1
        shown fetched) entry.key expected

end Calls

end Portfolio

/-- The files are edited behind the portfolio's back, or it is asked for something. -/
inductive Event where
  | edit (disk : Disk)
  | call (c : Call)

/-- When a call is made, the element files have such names, which are single steps, no listing kept of them is
out of date, and a plan both ways takes over no element with a slash in its name. -/
structure World.Suits (N : Kind → String → Prop) (f : Folder) (w : World) (c : Call) : Prop where
  names : ∀ kind, ∀ n ∈ f.elementNames w.disk.files kind, N kind n
  plain : f.Plain w.disk.files
  fresh : w.Fresh f
  pulls : ∀ {d m dryRun force confirm plan w'}, c = .sync d m dryRun force confirm →
    (Portfolio.plan d m).ends w = (.ok plan, w') → Plan.effective d m = .both →
      ∀ i ∈ plan.items, i.flow = .pull → '/' ∉ i.key.name.toList

namespace Portfolio

open TriStore.Action
open World (Sends)

variable {p : Portfolio} {N : Kind → String → Prop} {f : Folder} {w : World}

def next (p : Portfolio) (w : World) : Event → World
  | .edit disk => { w with disk }
  | .call c => p.after w c

def live (p : Portfolio) (events : List Event) (w : World) : World := events.foldl p.next w

/-- Every call is made in a state that suits it. -/
def Suited (p : Portfolio) (N : Kind → String → Prop) (f : Folder) : List Event → World → Prop
  | [], _ => True
  | .edit disk :: events, w => p.Suited N f events { w with disk }
  | .call c :: events, w => w.Suits N f c ∧ p.Suited N f events (p.after w c)

theorem after_discreet (calm : ∀ kind shown sent, N kind shown → N kind sent → ¬Hides shown sent)
    (h : w.Discreet f) {c : Call} (suits : w.Suits N f c) : (p.after w c).Discreet f := by
  cases c with
  | search query o =>
    rw [after_search]
    exact h.sends (p.search_frame query o w).sends
  | advance seconds =>
    obtain ⟨now, later⟩ := p.after_advance w seconds
    rw [later]
    exact h.sends (World.Frame.sends (.of_eq rfl rfl rfl rfl rfl))
  | sync d m dryRun force confirm =>
    rw [after_sync]
    exact sync_discreet calm suits.names suits.plain suits.fresh h
      (fun plan w' planned both => suits.pulls rfl planned both) dryRun force confirm
  | manage operation r =>
    rw [after_manage]
    cases operation with
    | listRemote => exact h.sends (listRemote_frame r.kind w).sends
    | compare => exact h.sends (compare_frame r.name r.kind r.showDiff w).sends
    | download =>
      exact h.sends (p.download_moves (fun _ _ => World.Frame.sends) write_home_discreet r.name r.kind
        r.source r.force r.confirm w)
    | upload => exact upload_discreet calm suits.names suits.plain suits.fresh h r.name r.kind r.force r.confirm

theorem live_discreet (calm : ∀ kind shown sent, N kind shown → N kind sent → ¬Hides shown sent)
    (h : w.Discreet f) {events : List Event} (suited : p.Suited N f events w) :
    (p.live events w).Discreet f := by
  induction events generalizing w with
  | nil => exact h
  | cons event events ih =>
    cases event with
    | edit disk => exact ih ⟨h.home, h.remote, h.offers⟩ suited
    | call c => exact ih (after_discreet calm h suited.1) suited.2

end Portfolio

end TriStore
