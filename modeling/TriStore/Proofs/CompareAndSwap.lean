import TriStore.Proofs.Guarded
import TriStore.Proofs.Offers
import TriStore.Proofs.SyncEffect

/-!
Writes and deletes that name the revision which the writer last saw.
-/
namespace TriStore
open FileTree Digest Folder

open TriStore.Action
open World (Frame)

/-- The revision of an element that is there: of its content in memory, or of the file at its path. -/
def Backing.revisionAt (disk : Disk) (key : Key) (p : Path) : Backing → Option String
  | .shelf x => (x.get? key).bind fun c => (Digest.blob c).toOption
  | .folder _ => (disk.files.read p).toOption.map Digest.blobOfBytes
  | _ => none

/-- The store can be written to now. Its element is a file that can be read, content with a revision, or not
there. -/
inductive Backing.Ready (disk : Disk) (key : Key) (p : Path) : Backing → Prop where
  | shelf {x : Shelf} (writable : x.writable = true) (answers : x.check = .ok ())
    (content : ∀ c, x.get? key = some c → Digest.Encodes c) : Ready disk key p (.shelf x)
  | folder {f : Folder} {held : Locks} (path : f.pathFor disk.files key = .ok p)
    (free : disk.locks.take p f.wait = .ok held)
    (content : disk.files.exists? p = .ok false ∨ ∃ bytes, disk.files.read p = .ok bytes) :
    Ready disk key p (.folder f)

theorem Backing.revisionAt_still (disk : Disk) (key : Key) (p : Path) (b : Backing) :
    b.still.revisionAt disk key p = b.revisionAt disk key p := by
  cases b <;> rfl

/-- A call that ended like this was refused for the sake of what somebody else has written. -/
def Refused {α : Type} (key : Key) (r : Except Failure α) : Prop :=
  ∃ reason, r = .error (.conflict key.label reason)

theorem not_refused_of_map {α β : Type} {key : Key} {r : Except Failure α} {f : α → β}
    (h : ∀ e, r = .error e → ¬e.IsConflict) : ¬Refused key (r.map f) := by
  rintro ⟨reason, refused⟩
  exact h _ (map_eq_error.1 refused) ⟨_, _, rfl⟩

theorem Digest.not_isConflict_of_blob {content : String} {e : Failure} (h : blob content = .error e) :
    ¬e.IsConflict := by
  rw [blob_eq_error h]
  rintro ⟨key, reason, conflict⟩
  cases conflict

theorem Shelf.checkWrite_of_get? {x : Shelf} {key : Key} {c b : String} (found : x.get? key = some c)
    (stored : Digest.blob c = .ok b) (expected : Option String) :
    x.checkWrite key (expected.map .text) = if some b = expected then .ok ()
      else .error (.conflict key.label (expected.elim "element already exists"
        fun _ => "content changed since it was indexed")) := by
  unfold checkWrite
  rw [found]
  cases expected with
  | none => rfl
  | some r =>
    dsimp only [Option.map]
    rw [stored, ok_bind, Value.same_text]
    by_cases same : b = r
    · simp [same]
      rfl
    · simp [same]
      rfl

namespace World

def revisionAt (w : World) (s : Source) (key : Key) (p : Path) : Option String :=
  (w.store s).backing.revisionAt w.disk key p

variable {w w' : World} {s : Source} {key : Key} {p : Path}

theorem Frame.revisionAt (h : Frame w w') (s : Source) (key : Key) (p : Path) :
    w'.revisionAt s key p = w.revisionAt s key p := by
  rw [World.revisionAt, ← Backing.revisionAt_still, h.backing s, Backing.revisionAt_still, h.disk]
  rfl

/-- A store holds a write to the revision that it names. -/
structure SwapsOnWrite (w : World) (s : Source) (key : Key) (p : Path) (content : String)
    (expected : Option String) : Prop where
  refused : Refused key ((write s key content (expected.map .text)).ends w).1 ↔
    w.revisionAt s key p ≠ none ∧ w.revisionAt s key p ≠ expected
  unchanged : Refused key ((write s key content (expected.map .text)).ends w).1 →
    Frame (w.offer ⟨s, key, content⟩) ((write s key content (expected.map .text)).ends w).2
  written : ∀ v, ((write s key content (expected.map .text)).ends w).1 = .ok v →
    ∃ b, Digest.blob content = .ok b ∧ v = .text b ∧
      ((write s key content (expected.map .text)).ends w).2.revisionAt s key p = some b

/-- A folder holds a delete to the revision that it names, and a store in memory does not. -/
structure SwapsOnDelete (w : World) (s : Source) (key : Key) (p : Path) (expected : Option String) : Prop where
  refused : Refused key ((delete s key (expected.map .text)).ends w).1 ↔
    (∃ f, (w.store s).backing = .folder f) ∧ w.revisionAt s key p ≠ none ∧ expected ≠ none ∧
      w.revisionAt s key p ≠ expected
  unchanged : Refused key ((delete s key (expected.map .text)).ends w).1 →
    Frame w ((delete s key (expected.map .text)).ends w).2
  deleted : ((delete s key (expected.map .text)).ends w).1 = .ok () →
    ((delete s key (expected.map .text)).ends w).2.revisionAt s key p = none

section Ways

variable {content reason : String} {expected : Option String}

theorem SwapsOnWrite.of_passed (passed : ¬Refused key ((write s key content (expected.map .text)).ends w).1)
    (current : w.revisionAt s key p = none ∨ w.revisionAt s key p = expected)
    (written : ∀ v, ((write s key content (expected.map .text)).ends w).1 = .ok v →
      ∃ b, Digest.blob content = .ok b ∧ v = .text b ∧
        ((write s key content (expected.map .text)).ends w).2.revisionAt s key p = some b) :
    w.SwapsOnWrite s key p content expected where
  refused := ⟨fun refused => absurd refused passed, fun ⟨there, other⟩ =>
    absurd current (not_or.2 ⟨there, other⟩)⟩
  unchanged refused := absurd refused passed
  written := written

theorem SwapsOnWrite.of_refused
    (ended : (write s key content (expected.map .text)).ends w = (.error (.conflict key.label reason), w'))
    (there : w.revisionAt s key p ≠ none) (other : w.revisionAt s key p ≠ expected)
    (kept : Frame (w.offer ⟨s, key, content⟩) w') : w.SwapsOnWrite s key p content expected := by
  refine ⟨⟨fun _ => ⟨there, other⟩, fun _ => ?_⟩, fun _ => ?_, fun v ok => ?_⟩
  · rw [ended]
    exact ⟨reason, rfl⟩
  · rw [ended]
    exact kept
  · rw [ended] at ok
    cases ok

theorem SwapsOnDelete.of_passed (passed : ¬Refused key ((delete s key (expected.map .text)).ends w).1)
    (current : (∃ f, (w.store s).backing = .folder f) →
      w.revisionAt s key p = none ∨ expected = none ∨ w.revisionAt s key p = expected)
    (deleted : ((delete s key (expected.map .text)).ends w).1 = .ok () →
      ((delete s key (expected.map .text)).ends w).2.revisionAt s key p = none) :
    w.SwapsOnDelete s key p expected where
  refused := by
    refine ⟨fun refused => absurd refused passed, fun ⟨folder, there, named, other⟩ => ?_⟩
    exact absurd (current folder) (not_or.2 ⟨there, not_or.2 ⟨named, other⟩⟩)
  unchanged refused := absurd refused passed
  deleted := deleted

theorem SwapsOnDelete.of_refused
    (ended : (delete s key (expected.map .text)).ends w = (.error (.conflict key.label reason), w'))
    (folder : ∃ f, (w.store s).backing = .folder f) (there : w.revisionAt s key p ≠ none)
    (named : expected ≠ none) (other : w.revisionAt s key p ≠ expected) (kept : Frame w w') :
    w.SwapsOnDelete s key p expected := by
  refine ⟨⟨fun _ => ⟨folder, there, named, other⟩, fun _ => ?_⟩, fun _ => ?_, fun ok => ?_⟩
  · rw [ended]
    exact ⟨reason, rfl⟩
  · rw [ended]
    exact kept
  · rw [ended] at ok
    cases ok

end Ways

theorem revisionAt_setShelf (w : World) (s : Source) (x : Shelf) (elapsed : Rat) (key : Key) (p : Path) :
    ({ w.setShelf s x with elapsed } : World).revisionAt s key p =
      (x.get? key).bind fun c => (Digest.blob c).toOption := by
  cases s <;> rfl

section Shelf

variable {x : Shelf} (backing : (w.store s).backing = .shelf x) (writable : x.writable = true)
  (answers : x.check = .ok ())

include backing

theorem revisionAt_shelf : w.revisionAt s key p = (x.get? key).bind fun c => (Digest.blob c).toOption := by
  rw [revisionAt, backing]
  rfl

include writable answers

theorem swapsOnWrite_accepted {expected : Option String} (free : x.checkWrite key (expected.map .text) = .ok ())
    (current : w.revisionAt s key p = none ∨ w.revisionAt s key p = expected) (content : String) :
    w.SwapsOnWrite s key p content expected := by
  obtain ⟨w', ended, frame⟩ := ends_write s key content (expected.map .text) w
  have put : x.write key content (expected.map .text) = ((Digest.blob content).map .text,
      { x.put key content with calls.write := x.calls.write + 1 }) := by
    rw [Shelf.write_eq, if_neg (by simp [writable]), answers, free]
  rw [ends_writeThrough_shelf key content _ ((backing_offer w _ s).trans backing), ends_onShelf, put]
    at ended frame
  have not : ¬Refused key ((write s key content (expected.map .text)).ends w).1 := by
    rw [ended]
    exact not_refused_of_map fun e => not_isConflict_of_blob
  refine .of_passed not current fun v ok => ?_
  rw [ended] at ok ⊢
  cases stored : Digest.blob content with
  | error e =>
    rw [stored] at ok
    cases ok
  | ok b =>
    rw [stored] at ok
    refine ⟨b, rfl, (Except.ok.inj ok).symm, ?_⟩
    rw [frame.revisionAt, revisionAt_setShelf]
    show ((x.put key content).get? key).bind _ = _
    rw [Shelf.get?_put_self, Option.bind_some, stored]
    rfl

theorem swapsOnWrite_refused {expected : Option String} {reason : String}
    (stale : x.checkWrite key (expected.map .text) = .error (.conflict key.label reason))
    (there : w.revisionAt s key p ≠ none) (other : w.revisionAt s key p ≠ expected) (content : String) :
    w.SwapsOnWrite s key p content expected := by
  obtain ⟨w', ended, frame⟩ := ends_write s key content (expected.map .text) w
  have same : x.write key content (expected.map .text) =
      (.error (.conflict key.label reason), { x with calls.write := x.calls.write + 1 }) := by
    rw [Shelf.write_eq, if_neg (by simp [writable]), answers, stale]
  have found : ((w.offer ⟨s, key, content⟩).store s).backing = .shelf x := (backing_offer w _ s).trans backing
  have kept : Frame (w.offer ⟨s, key, content⟩) _ :=
    onShelf_frame (x := x.write key content (expected.map .text)) found (by rw [same]; rfl)
  rw [ends_writeThrough_shelf key content _ found] at ended frame
  rw [ends_onShelf, same] at ended
  exact .of_refused ended there other (kept.trans frame)

theorem swapsOnWrite_shelf (encodes : ∀ c, x.get? key = some c → Digest.Encodes c) (content : String)
    (expected : Option String) : w.SwapsOnWrite s key p content expected := by
  have current : w.revisionAt s key p = _ := revisionAt_shelf backing
  cases found : x.get? key with
  | none =>
    rw [found] at current
    refine swapsOnWrite_accepted backing writable answers ?_ (.inl current) content
    unfold Shelf.checkWrite
    rw [found]
  | some c =>
    obtain ⟨b, stored⟩ := blob_eq_ok_iff.2 (encodes c found)
    rw [found, Option.bind_some, stored] at current
    have checked := Shelf.checkWrite_of_get? found stored expected
    by_cases same : some b = expected
    · rw [if_pos same] at checked
      exact swapsOnWrite_accepted backing writable answers checked (.inr (current.trans same)) content
    · rw [if_neg same] at checked
      refine swapsOnWrite_refused backing writable answers checked ?_ ?_ content
      · rw [current]
        exact nofun
      · rw [current]
        exact same

theorem swapsOnDelete_shelf (expected : Option String) : w.SwapsOnDelete s key p expected := by
  obtain ⟨w', ended, frame⟩ := ends_delete s key (expected.map .text) w
  have gone : x.delete key = (.ok (), { x.erase key with calls.delete := x.calls.delete + 1 }) := by
    rw [Shelf.delete_eq, if_neg (by simp [writable]), answers]
  rw [ends_deleteThrough_shelf key _ backing, ends_onShelf, gone] at ended frame
  have not : ¬Refused key ((delete s key (expected.map .text)).ends w).1 := by
    rw [ended]
    rintro ⟨reason, refused⟩
    cases refused
  refine .of_passed not (fun ⟨f, folder⟩ => nomatch backing.symm.trans folder) fun _ => ?_
  rw [ended, frame.revisionAt, revisionAt_setShelf]
  show ((x.erase key).get? key).bind _ = _
  rw [Shelf.get?_erase_self]
  rfl

end Shelf

section Folder

variable {f : Folder} {held : Locks} {bytes : ByteArray} {expected : Option String}
  (backing : (w.store s).backing = .folder f)

include backing

theorem revisionAt_folder : w.revisionAt s key p = (w.disk.files.read p).toOption.map Digest.blobOfBytes := by
  rw [revisionAt, backing]
  rfl

theorem revisionAt_of_read (read : w.disk.files.read p = .ok bytes) :
    w.revisionAt s key p = some (Digest.blobOfBytes bytes) := by
  rw [revisionAt_folder backing, read]
  rfl

theorem revisionAt_of_unread (unread : ∀ bytes, w.disk.files.read p ≠ .ok bytes) : w.revisionAt s key p = none := by
  rw [revisionAt_folder backing]
  cases read : w.disk.files.read p with
  | error e => rfl
  | ok bytes => exact absurd read (unread bytes)

theorem revisionAt_of_absent (absent : w.disk.files.exists? p = .ok false) : w.revisionAt s key p = none := by
  refine revisionAt_of_unread backing fun bytes read => ?_
  rw [exists_of_read read] at absent
  cases absent

variable (path : f.pathFor w.disk.files key = .ok p) (taken : w.disk.locks.take p f.wait = .ok held)

include path taken

theorem swapsOnWrite_free (free : Folder.checkFree w.disk.files p key (expected.map .text) = .ok ())
    (current : w.revisionAt s key p = none ∨ w.revisionAt s key p = expected) (content : String) :
    w.SwapsOnWrite s key p content expected := by
  obtain ⟨w', ended, frame⟩ := ends_write_folder key content (expected.map .text) backing
  rw [write_accepted path taken free content] at ended frame
  have not : ¬Refused key ((write s key content (expected.map .text)).ends w).1 := by
    rw [ended]
    rintro ⟨reason, refused⟩
    cases replaced : (w.disk.files.replace p (FileTree.encoded content)).1 with
    | error e =>
      rw [replaced] at refused
      exact not_isConflict_of_replace replaced ⟨_, _, Except.error.inj refused⟩
    | ok _ =>
      rw [replaced] at refused
      exact not_refused_of_map (fun e => not_isConflict_of_blob) ⟨reason, refused⟩
  refine .of_passed not current fun v ok => ?_
  rw [ended] at ok ⊢
  cases replaced : (w.disk.files.replace p (FileTree.encoded content)).1 with
  | error e =>
    rw [replaced] at ok
    cases ok
  | ok _ =>
    obtain ⟨bytes, encoded, read⟩ := read_replace replaced
    have stored : Digest.blob content = .ok (Digest.blobOfBytes bytes) := by
      rw [Digest.blob, show Digest.bytesOf content = .ok bytes from encoded]
      rfl
    rw [replaced, stored] at ok
    refine ⟨_, stored, (Except.ok.inj ok).symm, ?_⟩
    rw [frame.revisionAt]
    refine revisionAt_of_read (f := f) ?_ read
    exact (w.backing_offer ⟨s, key, content⟩ s).trans backing

theorem swapsOnWrite_stale (read : w.disk.files.read p = .ok bytes)
    (stale : some (Digest.blobOfBytes bytes) ≠ expected) (content : String) :
    w.SwapsOnWrite s key p content expected := by
  obtain ⟨w', ended, frame⟩ := ends_write_folder key content (expected.map .text) backing
  obtain ⟨e, kept, conflict⟩ := write_stale path read stale content
  obtain ⟨reason, rfl⟩ := conflict held taken
  rw [kept] at ended frame
  have current : w.revisionAt s key p = _ := revisionAt_of_read backing read
  exact .of_refused ended (by rw [current]; exact nofun) (by rw [current]; exact stale) frame

theorem swapsOnWrite_folder
    (content : w.disk.files.exists? p = .ok false ∨ ∃ bytes, w.disk.files.read p = .ok bytes)
    (text : String) (expected : Option String) : w.SwapsOnWrite s key p text expected := by
  rcases content with absent | ⟨bytes, read⟩
  · exact swapsOnWrite_free backing path taken (checkFree_of_absent absent)
      (.inl (revisionAt_of_absent backing absent)) text
  · by_cases same : some (Digest.blobOfBytes bytes) = expected
    · refine swapsOnWrite_free backing path taken ?_ (.inr ((revisionAt_of_read backing read).trans same)) text
      rw [checkFree_of_read read, if_pos same]
    · exact swapsOnWrite_stale backing path taken read same text

theorem swapsOnDelete_absent (absent : w.disk.files.exists? p = .ok false) : w.SwapsOnDelete s key p expected := by
  obtain ⟨w', ended, frame⟩ := ends_delete_folder key (expected.map .text) backing
  have current : w.revisionAt s key p = none := revisionAt_of_absent backing absent
  rw [delete_absent path taken absent] at ended frame
  refine .of_passed ?_ (fun _ => .inl current) fun _ => ?_
  · rw [ended]
    rintro ⟨reason, refused⟩
    cases refused
  · rw [ended, frame.revisionAt, ← current]

theorem swapsOnDelete_free (read : w.disk.files.read p = .ok bytes)
    (free : expected = none ∨ some (Digest.blobOfBytes bytes) = expected) :
    w.SwapsOnDelete s key p expected := by
  obtain ⟨w', ended, frame⟩ := ends_delete_folder key (expected.map .text) backing
  have current : w.revisionAt s key p = _ := revisionAt_of_read backing read
  rw [delete_accepted path taken read free] at ended frame
  rw [← current] at free
  -- The check is passed, so all that can fail is the removal, and that is no conflict.
  cases removed : w.disk.files.remove p with
  | error e =>
    rw [removed] at ended
    refine .of_passed ?_ (fun _ => .inr free) fun ok => ?_
    · rw [ended]
      rintro ⟨reason, refused⟩
      exact not_isConflict_of_remove removed ⟨_, _, Except.error.inj refused⟩
    · rw [ended] at ok
      cases ok
  | ok files =>
    rw [removed] at ended frame
    refine .of_passed ?_ (fun _ => .inr free) fun _ => ?_
    · rw [ended]
      rintro ⟨reason, refused⟩
      cases refused
    · rw [ended, frame.revisionAt]
      refine revisionAt_of_unread (f := f) ?_ (read_remove removed)
      exact backing

theorem swapsOnDelete_stale (read : w.disk.files.read p = .ok bytes) (named : expected ≠ none)
    (stale : some (Digest.blobOfBytes bytes) ≠ expected) : w.SwapsOnDelete s key p expected := by
  obtain ⟨w', ended, frame⟩ := ends_delete_folder key (expected.map .text) backing
  have current : w.revisionAt s key p = _ := revisionAt_of_read backing read
  obtain ⟨r, rfl⟩ := Option.ne_none_iff_exists'.1 named
  obtain ⟨e, kept, conflict⟩ := delete_stale path read (r := r) fun same => stale (by rw [same])
  obtain ⟨reason, rfl⟩ := conflict held taken
  rw [show f.delete w.disk key ((some r).map .text) = _ from kept] at ended frame
  exact .of_refused ended ⟨f, backing⟩ (by rw [current]; exact nofun) named (by rw [current]; exact stale) frame

theorem swapsOnDelete_folder
    (content : w.disk.files.exists? p = .ok false ∨ ∃ bytes, w.disk.files.read p = .ok bytes)
    (expected : Option String) : w.SwapsOnDelete s key p expected := by
  rcases content with absent | ⟨bytes, read⟩
  · exact swapsOnDelete_absent backing path taken absent
  · by_cases free : expected = none ∨ some (Digest.blobOfBytes bytes) = expected
    · exact swapsOnDelete_free backing path taken read free
    · obtain ⟨named, stale⟩ := not_or.1 free
      exact swapsOnDelete_stale backing path taken read named stale

end Folder

/-- Every store holds a write to the revision that it names, unless the element is gone; only folders hold a
delete to it. -/
theorem compare_and_swap (ready : (w.store s).backing.Ready w.disk key p) (content : String)
    (expected : Option String) :
    w.SwapsOnWrite s key p content expected ∧ w.SwapsOnDelete s key p expected := by
  generalize backing : (w.store s).backing = b at ready
  cases ready with
  | shelf writable answers encodes =>
    exact ⟨swapsOnWrite_shelf backing writable answers encodes content expected,
      swapsOnDelete_shelf backing writable answers expected⟩
  | folder path free there =>
    exact ⟨swapsOnWrite_folder backing path free there content expected,
      swapsOnDelete_folder backing path free there expected⟩

open Portfolio (crossed)

theorem ready_crossed : (crossed.store .home).backing.Ready crossed.disk ⟨.persona, "a"⟩ ⟨[]⟩ := by
  refine .shelf rfl rfl fun c found => ?_
  obtain rfl : "x" = c := Option.some.inj found
  exact ⟨_, rfl⟩

/-- A write that names another revision is refused, and one that names its own is not. -/
theorem compare_and_swap_crossed :
    Refused ⟨.persona, "a"⟩ ((write .home ⟨.persona, "a"⟩ "z" (some (.text "0"))).ends crossed).1 ∧
      ∃ b, Digest.blob "x" = .ok b ∧
        ¬Refused ⟨.persona, "a"⟩ ((write .home ⟨.persona, "a"⟩ "z" (some (.text b))).ends crossed).1 := by
  obtain ⟨b, stored⟩ : ∃ b, Digest.blob "x" = .ok b := ⟨_, rfl⟩
  have current : crossed.revisionAt .home ⟨.persona, "a"⟩ ⟨[]⟩ = some b := by
    show (Digest.blob "x").toOption = some b
    rw [stored]
    rfl
  have other : some b ≠ some "0" := by
    intro same
    have long := le_length_blob stored
    rw [Option.some.inj same] at long
    exact absurd long (by decide)
  obtain ⟨stale, -⟩ := compare_and_swap ready_crossed "z" (some "0")
  obtain ⟨fresh, -⟩ := compare_and_swap ready_crossed "z" (some b)
  refine ⟨stale.refused.2 ⟨?_, ?_⟩, b, stored, fun refused => (fresh.refused.1 refused).2 current⟩
  · rw [current]
    exact nofun
  · rw [current]
    exact other

/-- In memory, a delete that names another revision removes the element, and a write makes one that is not
there, whatever revision it names. -/
theorem revision_disregarded : crossed.held .home ⟨.persona, "a"⟩ = some "x" ∧ Digest.blob "x" ≠ .ok "0" ∧
      ((delete .home ⟨.persona, "a"⟩ (some (.text "0"))).ends crossed).1 = .ok () ∧
      ((delete .home ⟨.persona, "a"⟩ (some (.text "0"))).ends crossed).2.held .home ⟨.persona, "a"⟩ = none ∧
      crossed.held .home ⟨.persona, "b"⟩ = none ∧
      (∃ v, ((write .home ⟨.persona, "b"⟩ "z" (some (.text "0"))).ends crossed).1 = .ok v) ∧
      ((write .home ⟨.persona, "b"⟩ "z" (some (.text "0"))).ends crossed).2.held .home ⟨.persona, "b"⟩ =
        some "z" := by
  refine ⟨rfl, fun stored => ?_, rfl, rfl, rfl, ⟨_, rfl⟩, rfl⟩
  exact absurd (le_length_blob stored) (by decide)

end World

end TriStore
