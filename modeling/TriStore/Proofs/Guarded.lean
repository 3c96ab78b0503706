import TriStore.Proofs.FolderFiles

/-!
Files that are written and deleted under a revision. The lock of the path is given back in any case.
-/
namespace TriStore

theorem Value.same_text (a b : String) : same (.text a) (.text b) = (a == b) := by
  simp [same, within, sameScalar, magnitude?, Bool.beq_comm]

theorem Value.field?_record (fields : List (String × Value)) (name : String) :
    (record fields).field? name = (fields.find? (·.1 == name)).map (·.2) := by
  have one (k : String) : isOne (.text k) (.text name) = (k == name) := same_text k name
  rw [record, field?, lookup, List.find?_map, Option.map_map]
  simp [Function.comp_def, one]

/-- The failure says that something was changed by somebody else. -/
def Failure.IsConflict (e : Failure) : Prop := ∃ key reason, e = .conflict key reason

theorem Locks.release_take {l held : Locks} {p : Path} {wait : Wait} (h : l.take p wait = .ok held) :
    held.release p = l := by
  obtain ⟨busy, tested, h⟩ := bind_eq_ok.1 h
  obtain ⟨seconds, -, h⟩ := bind_eq_ok.1 h
  split at h
  · cases h
  · next free =>
    have absent : p.straight ∉ l.held := by
      unfold test at tested
      split at tested
      · cases tested
      · rw [← Except.ok.inj tested] at free
        simpa [isHeld] using free
    -- Only the lock that was added is given back: it was not held before.
    rw [← Except.ok.inj h, release]
    have kept : l.held.filter (· != p.straight) = l.held := by
      rw [List.filter_eq_self]
      intro q hq
      rw [bne_iff_ne]
      rintro rfl
      exact absent hq
    simp [kept]

theorem Path.not_isConflict_of_fault {p : Path} {e : Failure} (h : p.fault? = some e) : ¬e.IsConflict := by
  obtain ⟨step, -, fault⟩ := List.exists_of_findSome?_eq_some h
  unfold stepFault? at fault
  rintro ⟨key, reason, rfl⟩
  split at fault
  · cases fault
  · split at fault <;> cases fault

namespace FileTree

variable {t : FileTree} {p : Path} {e : Failure}

theorem not_isConflict_of_place (h : t.place p = .error e) : ¬e.IsConflict := by
  unfold place at h
  split at h
  · next fault => exact Except.error.inj h ▸ Path.not_isConflict_of_fault fault
  · rintro ⟨key, reason, rfl⟩
    split at h
    · cases h
    · split at h <;> cases h

theorem not_isConflict_of_look (h : t.look p = .error e) : ¬e.IsConflict := by
  unfold look at h
  split at h
  · cases h
  · next placed => exact Except.error.inj h ▸ not_isConflict_of_place placed
  · cases h

theorem not_isConflict_of_placed {α : Type} {act : List String → Except Failure α}
    (there : ∀ spot e, act spot = .error e → ¬e.IsConflict) (h : t.place p >>= act = .error e) :
    ¬e.IsConflict := by
  cases placed : t.place p with
  | error e' =>
    rw [placed] at h
    exact Except.error.inj h ▸ not_isConflict_of_place placed
  | ok spot =>
    rw [placed, ok_bind] at h
    exact there spot e h

theorem not_isConflict_of_makeFolder (h : t.makeFolder p = .error e) : ¬e.IsConflict := by
  refine not_isConflict_of_placed (fun spot e failed => ?_) h
  rintro ⟨key, reason, rfl⟩
  split at failed <;> cases failed

theorem not_isConflict_of_makeFolders {n : Nat} (h : (makeFolders n t p).1 = .error e) : ¬e.IsConflict := by
  induction n generalizing t p e with
  | zero =>
    rintro ⟨key, reason, rfl⟩
    cases h
  | succ n ih =>
    unfold makeFolders at h
    split at h
    · cases h
    · split at h
      · next parents =>
        exact ih (by rw [parents]; exact h)
      · split at h
        · cases h
        · next made => exact Except.error.inj h ▸ not_isConflict_of_makeFolder made
    · next made => exact Except.error.inj h ▸ not_isConflict_of_makeFolder made

theorem not_isConflict_of_replaceFault (h : t.replaceFault? p = some e) : ¬e.IsConflict := by
  unfold replaceFault? at h
  split at h
  · next looked => exact Option.some.inj h ▸ not_isConflict_of_look looked
  · next fault _ => exact Option.some.inj h ▸ Path.not_isConflict_of_fault fault
  · rintro ⟨key, reason, rfl⟩
    split at h
    · cases h
    · split at h
      · cases h
      · split at h <;> cases h

theorem not_isConflict_of_write {bytes : ByteArray} (h : t.write p bytes = .error e) : ¬e.IsConflict := by
  refine not_isConflict_of_placed (fun spot e failed => ?_) h
  rintro ⟨key, reason, rfl⟩
  split at failed <;> cases failed

theorem not_isConflict_of_replace {content : String} (h : (t.replace p (encoded content)).1 = .error e) :
    ¬e.IsConflict := by
  unfold replace at h
  split at h
  · next made => exact not_isConflict_of_makeFolders (n := mostMissing) (by rw [← h]; exact congrArg _ made)
  · dsimp only at h
    split at h
    · next written =>
      rw [← Except.error.inj h]
      split at written
      · rintro ⟨key, reason, rfl⟩
        cases written
      · cases bytes : encoded content with
        | error e' =>
          rw [bytes] at written
          rw [← Except.error.inj written]
          rintro ⟨key, reason, rfl⟩
          unfold encoded at bytes
          cases found : Text.utf8? content with
          | none =>
            rw [found] at bytes
            cases bytes
          | some bs =>
            rw [found] at bytes
            cases bytes
        | ok bs =>
          rw [bytes, ok_bind] at written
          split at written
          · next fault => exact Except.error.inj written ▸ not_isConflict_of_replaceFault fault
          · exact not_isConflict_of_write written
    · cases h

theorem not_isConflict_of_remove (h : t.remove p = .error e) : ¬e.IsConflict := by
  refine not_isConflict_of_placed (fun spot e failed => ?_) h
  rintro ⟨key, reason, rfl⟩
  split at failed <;> cases failed

end FileTree

namespace Folder

variable {f : Folder} {d : Disk} {key : Key} {p : Path} {held : Locks} {t : FileTree} {bytes : ByteArray}
  {expected : Option Value}

theorem isExpected_of_read (read : t.read p = .ok bytes) (r : Value) :
    isExpected t p r = .ok (Value.same (.text (Digest.blobOfBytes bytes)) r) := by
  rw [isExpected, read]
  rfl

theorem checkFree_of_absent (absent : t.exists? p = .ok false) : checkFree t p key expected = .ok () := by
  unfold checkFree
  rw [absent]
  rfl

theorem checkFree_of_read (read : t.read p = .ok bytes) (expected : Option String) :
    checkFree t p key (expected.map .text) = if some (Digest.blobOfBytes bytes) = expected then .ok ()
      else .error (.conflict key.label (expected.elim "local file already exists"
        fun _ => "local file changed since it was indexed")) := by
  unfold checkFree
  rw [FileTree.exists_of_read read, ok_bind, if_pos rfl]
  cases expected with
  | none => rfl
  | some r =>
    dsimp only [Option.map]
    rw [isExpected_of_read read, ok_bind, Value.same_text]
    by_cases same : Digest.blobOfBytes bytes = r
    · simp [same]
      rfl
    · simp [same]
      rfl

theorem underLock_eq (path : f.pathFor d.files key = .ok p) (taken : d.locks.take p f.wait = .ok held)
    (act : Path → Except Failure Unit × FileTree) :
    f.underLock d key act = ((act p).1, ⟨(act p).2, d.locks⟩) := by
  rw [underLock, path]
  dsimp only
  rw [taken]
  dsimp only
  rw [Locks.release_take taken]

theorem underLock_keeps (path : f.pathFor d.files key = .ok p) (act : Path → Except Failure Unit × FileTree)
    {e : Failure} (fails : act p = (.error e, d.files)) :
    ∃ e', f.underLock d key act = (.error e', d) ∧ ∀ held, d.locks.take p f.wait = .ok held → e' = e := by
  cases taken : d.locks.take p f.wait with
  | error e' =>
    refine ⟨e', ?_, nofun⟩
    rw [underLock, path]
    dsimp only
    rw [taken]
  | ok held =>
    refine ⟨e, ?_, fun _ _ => rfl⟩
    rw [underLock_eq path taken, fails]

theorem write_stale (path : f.pathFor d.files key = .ok p) (read : d.files.read p = .ok bytes)
    {expected : Option String} (stale : some (Digest.blobOfBytes bytes) ≠ expected) (content : String) :
    ∃ e, f.write d key content (expected.map .text) = (.error e, d) ∧
      ∀ held, d.locks.take p f.wait = .ok held → ∃ reason, e = .conflict key.label reason := by
  have refused : checkFree d.files p key (expected.map .text) = _ := checkFree_of_read read expected
  rw [if_neg stale] at refused
  have fails : writeAt d.files p key content (expected.map .text) =
      (.error (.conflict key.label (expected.elim "local file already exists"
        fun _ => "local file changed since it was indexed")), d.files) := by
    rw [writeAt, refused]
  obtain ⟨e, ended, conflict⟩ := underLock_keeps path
    (fun p => writeAt d.files p key content (expected.map .text)) fails
  refine ⟨e, ?_, fun held taken => ⟨_, conflict held taken⟩⟩
  rw [write, ended]
  rfl

theorem delete_stale (path : f.pathFor d.files key = .ok p) (read : d.files.read p = .ok bytes) {r : String}
    (stale : Digest.blobOfBytes bytes ≠ r) : ∃ e, f.delete d key (some (.text r)) = (.error e, d) ∧
      ∀ held, d.locks.take p f.wait = .ok held → ∃ reason, e = .conflict key.label reason := by
  have refused : deleteAt d.files p key (some (.text r)) = .error (changed key) := by
    rw [deleteAt, FileTree.exists_of_read read, ok_bind]
    dsimp only
    rw [if_neg (by decide), isExpected_of_read read, ok_bind, Value.same_text]
    simp [stale]
    rfl
  have kept : ∃ e, f.delete d key (some (.text r)) = (.error e, d) ∧
      ∀ held, d.locks.take p f.wait = .ok held → e = changed key := by
    refine underLock_keeps path _ ?_
    rw [refused]
  obtain ⟨e, ended, conflict⟩ := kept
  exact ⟨e, ended, fun held taken => ⟨_, conflict held taken⟩⟩

theorem write_accepted (path : f.pathFor d.files key = .ok p) (taken : d.locks.take p f.wait = .ok held)
    (free : checkFree d.files p key expected = .ok ()) (content : String) : f.write d key content expected =
      ((d.files.replace p (FileTree.encoded content)).1.bind fun _ => (Digest.blob content).map .text,
        ⟨(d.files.replace p (FileTree.encoded content)).2, d.locks⟩) := by
  rw [write, underLock_eq path taken, writeAt, free]

theorem delete_absent (path : f.pathFor d.files key = .ok p) (taken : d.locks.take p f.wait = .ok held)
    (absent : d.files.exists? p = .ok false) (expected : Option Value) :
    f.delete d key expected = (.ok (), d) := by
  rw [delete, underLock_eq path taken, deleteAt, absent]
  rfl

theorem delete_accepted (path : f.pathFor d.files key = .ok p) (taken : d.locks.take p f.wait = .ok held)
    (read : d.files.read p = .ok bytes) {expected : Option String}
    (free : expected = none ∨ some (Digest.blobOfBytes bytes) = expected) :
    f.delete d key (expected.map .text) = match d.files.remove p with
      | .ok files => (.ok (), ⟨files, d.locks⟩)
      | .error e => (.error e, d) := by
  have passed : deleteAt d.files p key (expected.map .text) = d.files.remove p := by
    unfold deleteAt
    rw [FileTree.exists_of_read read, ok_bind, if_neg (by decide)]
    cases expected with
    | none => rfl
    | some r =>
      have same : Digest.blobOfBytes bytes = r := by simpa using free
      dsimp only [Option.map]
      rw [isExpected_of_read read, ok_bind, Value.same_text, same]
      simp
  rw [delete, underLock_eq path taken, passed]
  cases d.files.remove p <;> rfl

end Folder

end TriStore
