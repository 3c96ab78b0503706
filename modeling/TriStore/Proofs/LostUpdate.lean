import TriStore.Proofs.Guarded
import TriStore.Proofs.HiddenFiles
import TriStore.Proofs.SyncEffect

/-!
Plans that are carried out while somebody edits the files.
-/
namespace TriStore

open TriStore.Action
open World (Frame)

/-- The files and locks are changed by somebody else, or an item is carried out. -/
inductive Deed where
  | edit (disk : Disk)
  | carry (i : PlanItem)

/-- An item that was carried out: the world before, what was noted, and the world after. -/
structure Record where
  before : World
  item : PlanItem
  noted : Except Failure Outcome
  after : World

namespace Portfolio

variable {p : Portfolio} {f : Folder} {w w' : World} {i : PlanItem} {here there : List Entry} {d : Direction}
  {m : Mode} {path : Path} {bytes : ByteArray} {t : FileTree}

def records (p : Portfolio) : List Deed → World → List Record
  | [], _ => []
  | .edit disk :: deeds, w => p.records deeds { w with disk }
  | .carry i :: deeds, w =>
    let ended := (p.apply i).ends w
    ⟨w, i, ended.1, ended.2⟩ :: p.records deeds ended.2

theorem exists_localRevision (snapshot : (f.load t none).2 = .ok here)
    (planned : i ∈ (Plan.build here there d m).items) :
    ∃ r, i.localRevision = .text r ∧ (i.flow = .pull → i.step = .delete → r ≠ "") := by
  obtain ⟨-, -, made⟩ := Plan.mem_items planned
  have revision : i.localRevision = ((Plan.lastWith i.key here).map (·.revision)).getD (.text "") := by
    rw [made]
    rfl
  cases last : Plan.lastWith i.key here with
  | none =>
    rw [last] at revision
    refine ⟨"", revision, fun pull delete => ?_⟩
    rw [made, last] at pull delete
    cases Plan.verdict_grounds (Plan.effective d m) m ⟨none, Plan.lastWith i.key there⟩ with
    | delete _ _ _ only =>
      rw [show (Plan.verdict _ _ _).flow = .pull from pull] at only
      exact nomatch (Prod.mk.inj only).2
    | create step => cases step.symm.trans delete
    | update step => cases step.symm.trans delete
    | unchanged step => cases step.symm.trans delete
    | conflict step => cases step.symm.trans delete
  | some e =>
    obtain ⟨c, b, stored, eq⟩ := Folder.revision_of_load snapshot e (Plan.mem_of_lastWith last).1
    rw [last] at revision
    exact ⟨b, revision.trans eq, fun _ _ => Digest.blob_ne_empty stored⟩

/-- The file of an item is there, in another state than the item is planned for. -/
structure Differs (f : Folder) (t : FileTree) (i : PlanItem) (path : Path) : Prop where
  found : f.pathFor t i.key = .ok path
  other : ∃ bytes, t.read path = .ok bytes ∧ (i.step = .create ∨ i.localRevision ≠ .text (Digest.blobOfBytes bytes))

theorem expectedOf_pull (pull : i.flow = .pull) {r : String} (revision : i.localRevision = .text r) :
    expectedOf i = (if r = "" then none else some r).map .text := by
  simp only [expectedOf, pull, beq_self_eq_true, if_true, revision]
  by_cases empty : r = ""
  · simp [empty, Value.isGiven]
  · simp [empty, Value.isGiven]

theorem carryOut_differs (home : w.home.backing = .folder f) (pull : i.flow = .pull) {r : String}
    (revision : i.localRevision = .text r) (named : i.step = .delete → r ≠ "")
    (differs : Differs f w.disk.files i path) :
    ∃ e w', (p.carryOut i).ends w = (.error e, w') ∧ w'.disk = w.disk ∧
      ∀ held, w.disk.locks.take path f.wait = .ok held →
        (i.step = .delete ∨ ∃ c w₁, (p.contentFor i).ends w = (.ok c, w₁)) →
          ∃ reason, e = .conflict i.key.label reason := by
  obtain ⟨bytes, read, other⟩ := differs.other
  have expected := expectedOf_pull pull revision
  unfold carryOut
  rw [show endsOf i.flow = (.remote, .home) by rw [pull]; rfl]
  split
  · next delete =>
    have step : i.step = .delete := by simpa using delete
    have stale : Digest.blobOfBytes bytes ≠ r := by
      rintro rfl
      rcases other with create | other
      · cases step.symm.trans create
      · exact other revision
    obtain ⟨e, kept, conflict⟩ := Folder.delete_stale differs.found read stale
    obtain ⟨w', ended, frame⟩ := ends_delete_folder (s := .home) i.key (some (.text r)) home
    rw [kept] at ended frame
    rw [expected, if_neg (named step)]
    exact ⟨e, w', ended, frame.disk, fun held taken _ => conflict held taken⟩
  · next keeps =>
    have frame := p.contentFor_frame i w
    rw [ends_bind]
    rcases got : (p.contentFor i).ends w with ⟨e | content, w₁⟩
    · rw [got] at frame
      refine ⟨e, w₁, rfl, frame.disk, fun _ _ had => ?_⟩
      rcases had with delete | ⟨c, w₂, had⟩
      · simp [delete] at keeps
      · exact nomatch (Prod.mk.inj had).1
    · rw [got] at frame
      -- The revision that is named is not that of the file; a new element names none.
      obtain ⟨r', names, stale⟩ : ∃ r' : Option String, (if i.step == .update then expectedOf i else none) =
          r'.map .text ∧ some (Digest.blobOfBytes bytes) ≠ r' := by
        by_cases update : i.step = .update
        · refine ⟨if r = "" then none else some r, by simp [update, expected], ?_⟩
          split
          · exact nofun
          · rintro same
            rcases other with create | other
            · cases update.symm.trans create
            · exact other (by rw [revision, Option.some.inj same])
        · exact ⟨none, by simp [update], nofun⟩
      have backing : (w₁.store .home).backing.folder? = some f := by
        refine ((frame.sends (P := fun _ => True)).folder .home).trans ?_
        rw [World.store, home]
        rfl
      obtain ⟨e, kept, conflict⟩ := Folder.write_stale differs.found read stale content
      obtain ⟨w', ended, frame'⟩ := ends_write_folder (s := .home) i.key content (r'.map .text)
        (Backing.folder?_eq_some backing)
      rw [frame.disk, kept] at ended frame'
      dsimp only
      rw [names, ends_bind_of_error ended]
      exact ⟨e, w', rfl, frame'.disk, fun held taken _ => conflict held taken⟩

theorem apply_differs (home : w.home.backing = .folder f) (snapshot : (f.load t none).2 = .ok here)
    (planned : i ∈ (Plan.build here there d m).items) (pull : i.flow = .pull)
    (differs : Differs f w.disk.files i path) :
    (∀ o, ((p.apply i).ends w).1 = .ok o → o.status ≠ .applied) ∧ ((p.apply i).ends w).2.disk = w.disk ∧
      ∀ held, w.disk.locks.take path f.wait = .ok held →
        (i.step = .delete ∨ ∃ c w₁, (p.contentFor i).ends w = (.ok c, w₁)) →
          ∃ o, ((p.apply i).ends w).1 = .ok o ∧ o.status = .conflict := by
  obtain ⟨r, revision, named⟩ := exists_localRevision snapshot planned
  obtain ⟨e, w', ended, disk, conflict⟩ := carryOut_differs (p := p) home pull revision (named pull) differs
  rw [fst_ends_apply, (p.apply_frame i w).disk, ended]
  refine ⟨fun o noted => (outcomeOf_error noted).2.1, disk, fun held taken had => ?_⟩
  obtain ⟨reason, rfl⟩ := conflict held taken had
  exact ⟨_, rfl, rfl⟩

/-- Whatever else happens to the files while a plan is carried out, an item for a file in another state than
it was listed in is not applied, and the file keeps its content. Unless the content could not be had or the
lock is held, a conflict is noted. -/
theorem no_lost_update (home : w.home.backing = .folder f) (snapshot : (f.load t none).2 = .ok here)
    {deeds : List Deed} (planned : ∀ i, .carry i ∈ deeds → i ∈ (Plan.build here there d m).items) :
    ∀ r ∈ p.records deeds w, r.item.flow = .pull → ∀ path, Differs f r.before.disk.files r.item path →
      (∀ o, r.noted = .ok o → o.status ≠ .applied) ∧ r.after.disk = r.before.disk ∧
        ∀ held, r.before.disk.locks.take path f.wait = .ok held →
          (r.item.step = .delete ∨ ∃ c w₁, (p.contentFor r.item).ends r.before = (.ok c, w₁)) →
            ∃ o, r.noted = .ok o ∧ o.status = .conflict := by
  induction deeds generalizing w with
  | nil => exact fun _ none => absurd none List.not_mem_nil
  | cons deed deeds ih =>
    have later : ∀ i, .carry i ∈ deeds → i ∈ (Plan.build here there d m).items := fun i hi =>
      planned i (.tail _ hi)
    cases deed with
    -- An edit moves no store; only the state in which later items are carried out changes.
    | edit disk => exact ih (w := { w with disk }) home later
    | carry i =>
      intro r hr pull path differs
      rcases List.mem_cons.1 hr with rfl | hr
      · exact apply_differs home snapshot (planned i (.head _)) pull differs
      · refine ih (w := ((p.apply i).ends w).2) ?_ later r hr pull path differs
        refine Backing.folder?_eq_some (((p.apply_sends i w).folder .home).trans ?_)
        rw [World.store, home]
        rfl

def pulled : PlanItem :=
  Plan.item .pull .additive ⟨.persona, "a"⟩ ⟨none, some (entryFor ⟨.persona, "a"⟩ "x")⟩

def appeared : Disk := { files := .withFiles .persona [("a.md", "y")] }

/-- A file that appears after the plan is not written over by the element that was new then. -/
theorem no_lost_update_appeared : ∃ r, mover.records [.edit appeared, .carry pulled] (.offering "a" "x") = [r] ∧
    (∃ o, r.noted = .ok o ∧ o.status = .conflict) ∧ r.after.disk = appeared := by
  have key : (entryFor ⟨.persona, "a"⟩ "x").key = ⟨.persona, "a"⟩ := by decide +kernel
  have planned : pulled ∈ (Plan.build [] [entryFor ⟨.persona, "a"⟩ "x"] .pull .additive).items := by
    simp [Plan.build, Plan.keysOf, key, Plan.isPrivate, Plan.lastWith, Plan.effective, pulled]
  have differs : Differs .atRoot appeared.files pulled ⟨["personas", "a.md"]⟩ := by
    refine ⟨eq_ok_of_toOption (by decide +kernel), "y".toUTF8, eq_ok_of_toOption (by decide +kernel), .inl rfl⟩
  have only : ∀ i, Deed.carry i ∈ [.edit appeared, .carry pulled] →
      i ∈ (Plan.build [] [entryFor ⟨.persona, "a"⟩ "x"] .pull .additive).items := by
    intro i hi
    obtain rfl : i = pulled := by simpa using hi
    exact planned
  have empty : Orderly [] := ⟨fun x hx => absurd hx List.not_mem_nil, fun x hx => absurd hx List.not_mem_nil,
    List.Pairwise.nil, List.nodup_nil⟩
  obtain ⟨es, snapshot, none⟩ := Folder.exists_load empty .persona
  obtain rfl : es = [] := by simpa using none.symm
  obtain ⟨-, disk, conflict⟩ := no_lost_update (p := mover) (w := .offering "a" "x") rfl snapshot only _
    (.head _) rfl _ differs
  exact ⟨_, rfl, conflict _ rfl (.inr ⟨"x", _, rfl⟩), disk⟩

end Portfolio

end TriStore
