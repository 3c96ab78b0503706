import TriStore.Proofs.CompareAndSwap
import TriStore.Proofs.Confinement

/-!
Writes and deletes change one file or none and give back their lock. Moving a passing file into place comes
to the same.
-/
namespace TriStore

namespace FileTree

variable {t t' : FileTree} {p q : Path} {spot : List String} {bytes : ByteArray}

def fileAt (t : FileTree) (spot : List String) : Option ByteArray :=
  match t.get? spot with
  | some (.file bytes) => some bytes
  | _ => none

theorem fileAt_ensureFolder (t : FileTree) (p : Path) (spot : List String) :
    (t.ensureFolder p).2.fileAt spot = t.fileAt spot := by
  have changed : ChangedIn (fun _ => False) t (t.ensureFolder p).2 := changedIn_makeFolders _ t p
  rcases changed.files spot with same | ⟨absent, made⟩ | ⟨_, _, _, nowhere, _⟩
  · rw [fileAt, same, fileAt]
  · rw [fileAt, made, fileAt, absent]
  · exact nowhere.elim

theorem extra_makeFolder (made : t.makeFolder p = .ok t') : t'.extra = t.extra := by
  obtain ⟨spot, -, made⟩ := bind_eq_ok.1 made
  split at made
  · cases made
    rfl
  · cases made
  · cases made
    rw [put]
    split <;> rfl

theorem extra_ensureFolder (t : FileTree) (p : Path) : (t.ensureFolder p).2.extra = t.extra := by
  rw [ensureFolder]
  generalize mostMissing = n
  induction n generalizing p with
  | zero => rfl
  | succ n ih =>
    rw [makeFolders]
    split
    · next made => exact extra_makeFolder made
    · have above := ih p.parent
      split
      · next made => rwa [made] at above
      · next made =>
        rw [made] at above
        split
        · next again => exact (extra_makeFolder again).trans above
        · exact above
    · rfl

def discard (t : FileTree) (p : Path) : FileTree := (t.remove p).toOption.getD t

def rename (t : FileTree) (q p : Path) : Except Failure FileTree := do
  let bytes ← t.read q
  if p.name == ".." then throw (.file .busy p.toText (some p.toText)) else (t.discard q).write p bytes

/-- Replaces the content of a file by way of a passing one, which is discarded on a failure. -/
def replaceThrough (t : FileTree) (p q : Path) (content : Except Failure ByteArray) :
    Except Failure Unit × FileTree :=
  match t.ensureFolder p.parent with
  | (.error e, t) => (.error e, t)
  | (.ok (), t) =>
    match if p.steps.isEmpty then .error (.noName p.toText) else content with
    | .error e => (.error e, t)
    | .ok bytes =>
      match t.write q bytes with
      | .error e => (.error e, t.discard q)
      | .ok written =>
        match written.rename q p with
        | .error e => (.error e, written.discard q)
        | .ok t => (.ok (), t)

/-- A path beside another one, with a name longer by so much, that can be written if the other can. -/
structure IsPassing (extra : Nat) (p q : Path) : Prop where
  steps : ∃ m, q.steps = p.steps.dropLast ++ [m] ∧ m ≠ ".." ∧ storedSize m = storedSize p.name + extra
  size : storedSize q.toText = storedSize p.toText + extra
  fault : q.fault? = p.fault?

def IsUnused (t : FileTree) (q : Path) : Prop := ∀ spot, t.place q = .ok spot → t.get? spot = none

theorem write_eq_ok : t.write p bytes = .ok t' ↔
    ∃ spot, t.place p = .ok spot ∧ t.get? spot ≠ some .folder ∧ t' = t.put spot (.file bytes) := by
  simp only [write, bind_eq_ok]
  refine exists_congr fun spot => and_congr_right fun _ => ?_
  cases t.get? spot with
  | none => simp [pure, Except.pure, eq_comm]
  | some item => cases item <;> simp [pure, Except.pure, throw, throwThe, MonadExceptOf.throw, eq_comm]

theorem replaceFault?_eq_none_iff (writes : t.write p bytes = .ok t') : t.replaceFault? p = none ↔
    p.name ≠ ".." ∧ storedSize p.name + t.extra ≤ longestName ∧ storedSize p.toText + t.extra ≤ longestPath := by
  obtain ⟨spot, placed, free, -⟩ := write_eq_ok.1 writes
  rw [replaceFault?, look_of_place placed, (place_eq_ok.1 placed).1]
  dsimp only
  split
  · next long =>
    simp only [Bool.or_eq_true, decide_eq_true_eq] at long
    refine iff_of_false (by simp) ?_
    rintro ⟨-, name, size⟩
    omega
  · next short =>
    simp only [Bool.or_eq_true, decide_eq_true_eq, not_or, Nat.not_lt] at short
    split
    · next dots => simpa using fun other => absurd (beq_iff_eq.1 dots) other
    · next dots =>
      refine iff_of_true ?_ ⟨by simpa using dots, short⟩
      split
      · next folder => exact absurd folder free
      · rfl

theorem erase_put (absent : t.get? spot = none) (i : FileItem) : (t.put spot i).erase spot = t := by
  rw [get?] at absent
  split at absent
  · cases absent
  · have others : t.items.filter (·.1 != spot) = t.items := by
      rw [List.filter_eq_self]
      intro x hx
      have other := List.lookup_eq_none_iff.1 absent x hx
      rw [bne_iff_ne] at other ⊢
      exact other.symm
    rw [put, absent, erase]
    simp [others]

section Passing

variable (passing : IsPassing t.extra p q) (unused : t.IsUnused q)

include passing in
theorem fits_of_place {start : List String} (placed : t.place q = .ok start) :
    storedSize p.name + t.extra ≤ longestName ∧ storedSize p.toText + t.extra ≤ longestPath := by
  obtain ⟨m, steps, dots, name⟩ := passing.steps
  obtain ⟨-, size, walked⟩ := place_eq_ok.1 placed
  rw [steps, walk_append] at walked
  obtain ⟨here, -, last⟩ := bind_eq_ok.1 walked
  exact ⟨name ▸ (walk_step_eq_ok dots last).2.1, passing.size ▸ size⟩

include unused in
theorem discard_unused : t.discard q = t := by
  unfold discard
  cases removed : t.remove q with
  | error e => rfl
  | ok t' =>
    obtain ⟨spot, bytes, placed, file, -⟩ := remove_eq_ok.1 removed
    simp [unused spot placed] at file

include passing unused in
/-- Where the file can be replaced, there is room for the passing one. -/
theorem exists_write_passing (named : p.steps ≠ []) (fits : t.replaceFault? p = none)
    (writes : t.write p bytes = .ok t') : ∃ written, t.write q bytes = .ok written := by
  obtain ⟨m, steps, dots, name⟩ := passing.steps
  obtain ⟨dots', name', size'⟩ := (replaceFault?_eq_none_iff writes).1 fits
  obtain ⟨spot, placed, -, -⟩ := write_eq_ok.1 writes
  obtain ⟨fault, -, walked⟩ := place_eq_ok.1 placed
  have whole : p.steps = p.steps.dropLast ++ [p.name] := by
    rw [Path.name, List.getLastD_eq_getLast?, List.getLast?_eq_some_getLast named, Option.getD_some,
      List.dropLast_append_getLast]
  rw [whole, walk_append] at walked
  obtain ⟨here, first, last⟩ := bind_eq_ok.1 walked
  obtain ⟨folder, -, -⟩ := walk_step_eq_ok dots' last
  have beside : t.place q = .ok (here ++ [m]) := by
    refine place_eq_ok.2 ⟨passing.fault.trans fault, passing.size ▸ size', ?_⟩
    rw [steps, walk_append, first, ok_bind, walk_step folder dots, if_neg (Nat.not_lt.2 (name ▸ name'))]
  exact ⟨_, write_eq_ok.2 ⟨_, beside, by simp [unused _ beside], rfl⟩⟩

variable {written : FileTree} (writes : t.write q bytes = .ok written)

include unused writes

theorem read_discard_written : written.read q = .ok bytes ∧ written.discard q = t := by
  obtain ⟨start, placed, free, rfl⟩ := write_eq_ok.1 writes
  have again := (keepsFolders_put free (.file bytes)).place placed
  have there := get?_put_self free (.file bytes)
  refine ⟨read_eq_ok.2 ⟨start, again, there⟩, ?_⟩
  rw [discard, remove_eq_ok.2 ⟨start, bytes, again, there, rfl⟩]
  exact erase_put (unused start placed) _

theorem rename_written : written.rename q p =
    if p.name == ".." then throw (.file .busy p.toText (some p.toText)) else t.write p bytes := by
  obtain ⟨read, discarded⟩ := read_discard_written unused writes
  rw [rename, read, ok_bind, discarded]

end Passing

/-- Replacing a file by way of a passing one comes to the same as replacing it in one step. -/
theorem replaceThrough_eq (passing : IsPassing t.extra p q) (content : Except Failure ByteArray)
    (unused : (t.ensureFolder p.parent).2.IsUnused q) :
    (t.replaceThrough p q content).2 = (t.replace p content).2 ∧
      (t.replaceThrough p q content).1.toOption = (t.replace p content).1.toOption := by
  unfold replaceThrough replace
  rcases made : t.ensureFolder p.parent with ⟨e | u, t₁⟩
  · exact ⟨rfl, rfl⟩
  · have same : t₁.extra = t.extra := by rw [← extra_ensureFolder t p.parent, made]
    rw [made] at unused
    rw [← same] at passing
    dsimp only
    by_cases empty : p.steps.isEmpty = true
    · rw [if_pos empty, if_pos empty]
      exact ⟨rfl, rfl⟩
    · rw [if_neg empty, if_neg empty]
      cases content with
      | error e => exact ⟨rfl, rfl⟩
      | ok bytes =>
        dsimp only
        rw [ok_bind]
        cases writes : t₁.write q bytes with
        | error e =>
          rw [discard_unused unused]
          cases fits : t₁.replaceFault? p with
          | some e => exact ⟨rfl, rfl⟩
          | none =>
            cases direct : t₁.write p bytes with
            | error e => exact ⟨rfl, rfl⟩
            | ok t' =>
              obtain ⟨_, room⟩ := exists_write_passing passing unused (by simpa using empty) fits direct
              cases writes.symm.trans room
        | ok written =>
          dsimp only
          rw [rename_written unused writes, (read_discard_written unused writes).2]
          obtain ⟨start, placed, -, -⟩ := write_eq_ok.1 writes
          cases direct : t₁.write p bytes with
          | error e =>
            cases t₁.replaceFault? p <;> cases p.name == ".." <;> exact ⟨rfl, rfl⟩
          | ok t' =>
            have fits := replaceFault?_eq_none_iff direct
            by_cases dots : p.name = ".."
            · obtain ⟨e, faulty⟩ := Option.ne_none_iff_exists'.1 fun none => (fits.1 none).1 dots
              rw [faulty, if_pos (beq_iff_eq.2 dots)]
              exact ⟨rfl, rfl⟩
            · rw [fits.2 ⟨dots, fits_of_place passing placed⟩, if_neg (by simpa using dots)]
              exact ⟨rfl, rfl⟩

/-- One file at most has changed, and none on a failure. -/
def ChangesOne (t : FileTree) (p : Path) (done : FileTree → Prop) (x : Except Failure Unit × FileTree) : Prop :=
  (x.1 = .ok () ∧ done x.2 ∧ ∀ spot, x.2.place p ≠ .ok spot → x.2.fileAt spot = t.fileAt spot) ∨
    ∃ e, x.1 = .error e ∧ ∀ spot, x.2.fileAt spot = t.fileAt spot

theorem changesOne_replace (t : FileTree) (p : Path) (content : String) :
    t.ChangesOne p (fun t' => ∃ bytes, Text.utf8? content = some bytes ∧ t'.read p = .ok bytes)
      (t.replace p (encoded content)) := by
  rcases t.replace_cases p (encoded content) with ⟨e, failed⟩ | ⟨s, bytes, encodes, placed, free, put⟩
  · rw [failed]
    exact .inr ⟨e, rfl, fileAt_ensureFolder t p.parent⟩
  · have again := (keepsFolders_put free (.file bytes)).place placed
    have known : Text.utf8? content = some bytes := by
      unfold encoded at encodes
      cases found : Text.utf8? content with
      | none => simp [found] at encodes
      | some bs => simpa [found] using encodes
    rw [put]
    refine .inl ⟨rfl, ⟨bytes, known, read_eq_ok.2 ⟨s, again, get?_put_self free _⟩⟩, fun spot other => ?_⟩
    have elsewhere : spot ≠ s := by
      rintro rfl
      exact other again
    rw [← fileAt_ensureFolder t p.parent, fileAt, get?_put_ne _ _ elsewhere, fileAt]

theorem changesOne_remove (removed : t.remove p = .ok t') :
    t.ChangesOne p (·.exists? p = .ok false) (.ok (), t') := by
  obtain ⟨s, bytes, placed, file, rfl⟩ := remove_eq_ok.1 removed
  have free : t.get? s ≠ some .folder := by simp [file]
  have named : s ≠ [] := by
    rintro rfl
    exact free rfl
  have again := (keepsFolders_erase free).place placed
  refine .inl ⟨rfl, ?_, fun spot other => ?_⟩
  · show (t.erase s).exists? p = _
    rw [exists?, look_of_place again, get?_erase_self named]
    rfl
  · have elsewhere : spot ≠ s := by
      rintro rfl
      exact other again
    rw [fileAt, get?_erase_ne _ elsewhere, fileAt]

end FileTree

namespace Folder

variable {f : Folder} {d : Disk} {key : Key} {done : FileTree → Path → Prop}

/-- How a call ends that changes the file of an element: the file that the key named when it began has
changed, and no other, or the call fails and none has. The same locks are held. While that of the file is held
nothing is touched: the call gives up in time, or waits without end if its time is less than nothing. -/
structure EndsAtomic {α : Type} (f : Folder) (d : Disk) (key : Key) (done : FileTree → Path → Prop)
    (r : Except Failure α) (d' : Disk) : Prop where
  locks : d'.locks = d.locks
  files : (∃ a p, r = .ok a ∧ f.pathFor d.files key = .ok p ∧ done d'.files p ∧
      ∀ spot, d'.files.place p ≠ .ok spot → d'.files.fileAt spot = d.files.fileAt spot) ∨
    ∃ e, r = .error e ∧ ∀ spot, d'.files.fileAt spot = d.files.fileAt spot
  held : ∀ p seconds, f.pathFor d.files key = .ok p → f.wait = .ok seconds → d.locks.test p = .ok true →
    r = .error (if seconds < 0 then .endless else .lockTimeout p.straight.toText seconds) ∧ d' = d

theorem underLock_atomic {α : Type} {next : Unit → Except Failure α} {act : Path → Except Failure Unit × FileTree}
    (acts : ∀ p, d.files.ChangesOne p (done · p) (act p)) (goesOn : (∃ t p, done t p) → ∃ a, next () = .ok a) :
    f.EndsAtomic d key done ((f.underLock d key act).1.bind next) (f.underLock d key act).2 := by
  cases path : f.pathFor d.files key with
  | error e =>
    rw [underLock, path]
    exact ⟨rfl, .inr ⟨e, rfl, fun _ => rfl⟩, fun p _ found => by cases path.symm.trans found⟩
  | ok p =>
    cases taken : d.locks.take p f.wait with
    | error e =>
      rw [underLock, path]
      dsimp only
      rw [taken]
      refine ⟨rfl, .inr ⟨e, rfl, fun _ => rfl⟩, fun p' seconds found waits held => ⟨?_, rfl⟩⟩
      obtain rfl := Except.ok.inj (path.symm.trans found)
      rw [Locks.take, held, waits] at taken
      exact congrArg _ (Except.error.inj taken).symm
    | ok locks =>
      rw [underLock_eq path taken]
      refine ⟨rfl, ?_, fun p' seconds found waits held => ?_⟩
      · rcases acts p with ⟨succeeds, changed, others⟩ | ⟨e, fails, same⟩
        · obtain ⟨a, ends⟩ := goesOn ⟨_, p, changed⟩
          exact .inl ⟨a, p, by rw [succeeds]; exact ends, path, changed, others⟩
        · exact .inr ⟨e, by rw [fails]; rfl, same⟩
      · obtain rfl := Except.ok.inj (path.symm.trans found)
        rw [Locks.take, held, waits] at taken
        cases taken

theorem write_atomic (content : String) (expected : Option Value) :
    f.EndsAtomic d key (fun t p => ∃ bytes, Text.utf8? content = some bytes ∧ t.read p = .ok bytes)
      (f.write d key content expected).1 (f.write d key content expected).2 := by
  show f.EndsAtomic d key _ ((f.underLock d key fun p => writeAt d.files p key content expected).1.bind _) _
  refine underLock_atomic (fun p => ?_) ?_
  · unfold writeAt
    cases checkFree d.files p key expected with
    | error e => exact .inr ⟨e, rfl, fun _ => rfl⟩
    | ok u => exact d.files.changesOne_replace p content
  · rintro ⟨_, _, bytes, encodes, -⟩
    exact ⟨.text (Digest.blobOfBytes bytes), by rw [Digest.blob, Digest.bytesOf, encodes]; rfl⟩

theorem delete_atomic (expected : Option Value) : f.EndsAtomic d key (fun t p => t.exists? p = .ok false)
    (f.delete d key expected).1 (f.delete d key expected).2 := by
  have same : (f.delete d key expected).1 = (f.delete d key expected).1.bind .ok := by
    cases (f.delete d key expected).1 <;> rfl
  rw [same]
  refine underLock_atomic (fun p => ?_) fun _ => ⟨(), rfl⟩
  cases deleted : deleteAt d.files p key expected with
  | error e => exact .inr ⟨e, rfl, fun _ => rfl⟩
  | ok t =>
    rcases deleteAt_cases deleted with ⟨absent, rfl⟩ | removed
    · exact .inl ⟨rfl, absent, fun _ _ => rfl⟩
    · exact FileTree.changesOne_remove removed

end Folder

/-- A write and a delete in a folder change one file or none, as a whole, and leave the locks as they were.
The way by a passing file with an unused name leads to the same files. -/
theorem files_change_whole (w : World) (s : Source) (f : Folder) (folder : (w.store s).backing = .folder f)
    (key : Key) (content : String) (expected : Option Value) :
    f.EndsAtomic w.disk key (fun t p => ∃ bytes, Text.utf8? content = some bytes ∧ t.read p = .ok bytes)
      ((Action.write s key content expected).ends w).1 ((Action.write s key content expected).ends w).2.disk ∧
    f.EndsAtomic w.disk key (fun t p => t.exists? p = .ok false)
      ((Action.delete s key expected).ends w).1 ((Action.delete s key expected).ends w).2.disk ∧
    ∀ (t : FileTree) p q, FileTree.IsPassing t.extra p q → (t.ensureFolder p.parent).2.IsUnused q →
      (t.replaceThrough p q (FileTree.encoded content)).2 = (t.replace p (FileTree.encoded content)).2 ∧
      (t.replaceThrough p q (FileTree.encoded content)).1.toOption =
        (t.replace p (FileTree.encoded content)).1.toOption := by
  refine ⟨?_, ?_, fun t p q passing unused => FileTree.replaceThrough_eq passing _ unused⟩
  · obtain ⟨w', ended, frame⟩ := Action.ends_write_folder key content expected folder
    rw [ended, frame.disk]
    exact Folder.write_atomic content expected
  · obtain ⟨w', ended, frame⟩ := Action.ends_delete_folder key expected folder
    rw [ended, frame.disk]
    exact Folder.delete_atomic expected

/-- Somebody holds the lock of a file that is to be written. -/
def World.lockedOut : World :=
  { World.offering "a" "x" with disk := { locks := { held := [⟨["personas", "a.md"]⟩] } } }

/-- A passing file of process 1234567 and thread 1234567890123. -/
def FileTree.passingFile : Path := ⟨["personas", ".a.md.1234567.1234567890123.tmp"]⟩

theorem FileTree.isPassing_passingFile : IsPassing 27 ⟨["personas", "a.md"]⟩ passingFile where
  steps := ⟨_, rfl, by decide, by decide +kernel⟩
  size := by decide +kernel
  fault := (Option.isNone_iff_eq_none.1 (by decide +kernel)).trans
    (Option.isNone_iff_eq_none.1 (by decide +kernel)).symm

theorem files_change_whole_cases : (((Action.write .home ⟨.persona, "a"⟩ "x" none).ends .lockedOut).1 =
        .error (.lockTimeout "/personas/a.md" 10) ∧
      ((Action.write .home ⟨.persona, "a"⟩ "x" none).ends .lockedOut).2.disk = World.lockedOut.disk) ∧
    (∃ bytes, Text.utf8? "x" = some bytes ∧
      ((Action.write .home ⟨.persona, "a"⟩ "x" none).ends (.offering "a" "x")).2.disk.files.read
        ⟨["personas", "a.md"]⟩ = .ok bytes) ∧
    ((Action.delete .home ⟨.persona, "a"⟩ none).ends (.ofFiles .persona [("a.md", "x")])).2.disk.files.exists?
      ⟨["personas", "a.md"]⟩ = .ok false ∧
    (FileTree.replaceThrough {} ⟨["personas", "a.md"]⟩ FileTree.passingFile (FileTree.encoded "x")).2 =
      (FileTree.replace {} ⟨["personas", "a.md"]⟩ (FileTree.encoded "x")).2 := by
  have path (w : World) (h : (Folder.atRoot.pathFor w.disk.files ⟨.persona, "a"⟩).toOption =
      some ⟨["personas", "a.md"]⟩) := eq_ok_of_toOption h
  refine ⟨?_, ?_, ?_, ?_⟩
  · exact (files_change_whole .lockedOut .home .atRoot rfl ⟨.persona, "a"⟩ "x" none).1.held _ _
      (path .lockedOut (by decide +kernel)) rfl (eq_ok_of_toOption (by decide +kernel))
  · have written : ((Action.write .home ⟨.persona, "a"⟩ "x" none).ends (.offering "a" "x")).1.toOption.isSome :=
      by decide +kernel
    rcases (files_change_whole (.offering "a" "x") .home .atRoot rfl ⟨.persona, "a"⟩ "x" none).1.files with
      ⟨_, p, -, found, done, -⟩ | ⟨e, failed, -⟩
    · cases found.symm.trans (path (.offering "a" "x") (by decide +kernel))
      exact done
    · rw [failed] at written
      cases written
  · have deleted : ((Action.delete .home ⟨.persona, "a"⟩ none).ends
      (.ofFiles .persona [("a.md", "x")])).1.toOption.isSome := by decide +kernel
    rcases (files_change_whole (.ofFiles .persona [("a.md", "x")]) .home .atRoot rfl ⟨.persona, "a"⟩ "x"
      none).2.1.files with ⟨_, p, -, found, done, -⟩ | ⟨e, failed, -⟩
    · cases found.symm.trans (path (.ofFiles .persona [("a.md", "x")]) (by decide +kernel))
      exact done
    · rw [failed] at deleted
      cases deleted
  · have placed : (FileTree.ensureFolder {} (Path.parent ⟨["personas", "a.md"]⟩)).2.place FileTree.passingFile =
        .ok ["personas", ".a.md.1234567.1234567890123.tmp"] := eq_ok_of_toOption (by decide +kernel)
    refine ((files_change_whole .lockedOut .home .atRoot rfl ⟨.persona, "a"⟩ "x" none).2.2 {} _ _
      FileTree.isPassing_passingFile fun spot found => ?_).1
    cases placed.symm.trans found
    exact Option.isNone_iff_eq_none.1 (by decide +kernel)

end TriStore
