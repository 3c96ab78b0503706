import TriStore.Proofs.HiddenFiles

/-!
The file of an element whose name has no slash lies in the folder of its kind, and no call changes files
elsewhere.
-/
namespace TriStore
open FileTree

namespace FileTree

variable {F G : Path → Prop} {t t' t'' : FileTree} {spot s : List String} {n : String} {p : Path}

/-- Only files that lie directly in such folders differ, but for folders that were added. -/
structure ChangedIn (F : Path → Prop) (t t' : FileTree) : Prop where
  folders : KeepsFolders t t'
  files : ∀ spot, t'.get? spot = t.get? spot ∨ (t.get? spot = none ∧ t'.get? spot = some .folder) ∨
    ∃ p front n, F p ∧ t'.walk [] p.steps = .ok front ∧ IsFileName n ∧ spot = front ++ [n]

theorem ChangedIn.refl (t : FileTree) : ChangedIn F t t := ⟨fun _ h => h, fun _ => .inl rfl⟩

theorem ChangedIn.trans (h : ChangedIn F t t') (h' : ChangedIn F t' t'') : ChangedIn F t t'' where
  folders s folder := h'.folders s (h.folders s folder)
  files spot := by
    -- What an earlier step changed in a folder is in it still, for the folder stays where it is.
    rcases h'.files spot with same | ⟨none, folder⟩ | inside
    · rcases h.files spot with same' | ⟨none, folder⟩ | ⟨p, front, n, hp, walked, file, rfl⟩
      · exact .inl (same.trans same')
      · exact .inr (.inl ⟨none, same.trans folder⟩)
      · exact .inr (.inr ⟨p, front, n, hp, h'.folders.walk walked, file, rfl⟩)
    · rcases h.files spot with same' | ⟨-, folder'⟩ | ⟨p, front, n, hp, walked, file, rfl⟩
      · exact .inr (.inl ⟨same'.symm.trans none, folder⟩)
      · cases none.symm.trans folder'
      · exact .inr (.inr ⟨p, front, n, hp, h'.folders.walk walked, file, rfl⟩)
    · exact .inr (.inr inside)

theorem ChangedIn.mono (h : ChangedIn F t t') (le : ∀ p, F p → G p) : ChangedIn G t t' where
  folders := h.folders
  files spot := by
    rcases h.files spot with same | added | ⟨p, front, n, hp, inside⟩
    · exact .inl same
    · exact .inr (.inl added)
    · exact .inr (.inr ⟨p, front, n, le p hp, inside⟩)

theorem place_join_eq_ok (file : IsFileName n) (h : t.place (p.join n) = .ok s) :
    ∃ front, t.walk [] p.steps = .ok front ∧ s = front ++ [n] := by
  obtain ⟨-, -, walked⟩ := place_eq_ok.1 h
  rw [file.join, walk_append] at walked
  obtain ⟨front, first, last⟩ := bind_eq_ok.1 walked
  exact ⟨front, first, (walk_step_eq_ok file.ne_dots last).2.2⟩

section Folders

theorem changedIn_makeFolder (h : t.makeFolder p = .ok t') : ChangedIn F t t' := by
  obtain ⟨spot, -, made⟩ := bind_eq_ok.1 h
  split at made
  · rw [← Except.ok.inj made]
    exact .refl t
  · cases made
  · next absent =>
    rw [← Except.ok.inj made]
    have free : t.get? spot ≠ some .folder := by
      rw [absent]
      exact nofun
    refine ⟨keepsFolders_put free .folder, fun s => ?_⟩
    by_cases here : s = spot
    · rw [here]
      exact .inr (.inl ⟨absent, get?_put_self free _⟩)
    · exact .inl (get?_put_ne t _ here)

theorem changedIn_makeFolders (n : Nat) (t : FileTree) (p : Path) : ChangedIn F t (makeFolders n t p).2 := by
  induction n generalizing t p with
  | zero => exact .refl t
  | succ n ih =>
    unfold makeFolders
    split
    · next made => exact changedIn_makeFolder made
    · -- The folder it lies in was missing, and comes first.
      have above := ih t p.parent
      split
      · next failed =>
        rw [failed] at above
        exact above
      · next parents =>
        rw [parents] at above
        split
        · next made => exact above.trans (changedIn_makeFolder made)
        · exact above
    · exact .refl t

end Folders

theorem changedIn_replace (file : IsFileName n) (hp : F p) (content : Except Failure ByteArray) :
    ChangedIn F t (t.replace (p.join n) content).2 := by
  have made : ChangedIn F t (t.ensureFolder (p.join n).parent).2 := changedIn_makeFolders _ t _
  rcases t.replace_cases (p.join n) content with ⟨e, failed⟩ | ⟨s, bytes, -, placed, free, put⟩
  · rw [failed]
    exact made
  · rw [put]
    obtain ⟨front, walked, rfl⟩ := place_join_eq_ok file placed
    have keeps := keepsFolders_put free (.file bytes)
    refine made.trans ⟨keeps, fun spot => ?_⟩
    by_cases here : spot = front ++ [n]
    · exact .inr (.inr ⟨p, front, n, hp, keeps.walk walked, file, here⟩)
    · exact .inl (get?_put_ne _ _ here)

theorem changedIn_remove (file : IsFileName n) (hp : F p) (h : t.remove (p.join n) = .ok t') :
    ChangedIn F t t' := by
  obtain ⟨s, bytes, placed, found, rfl⟩ := remove_eq_ok.1 h
  obtain ⟨front, walked, rfl⟩ := place_join_eq_ok file placed
  have keeps : KeepsFolders t (t.erase (front ++ [n])) := keepsFolders_erase (by rw [found]; exact nofun)
  refine ⟨keeps, fun spot => ?_⟩
  by_cases here : spot = front ++ [n]
  · exact .inr (.inr ⟨p, front, n, hp, keeps.walk walked, file, here⟩)
  · exact .inl (get?_erase_ne t here)

end FileTree

namespace Folder

open FileTree (ChangedIn)

theorem deleteAt_cases {t t' : FileTree} {p : Path} {k : Key} {expected : Option Value}
    (h : deleteAt t p k expected = .ok t') : (t.exists? p = .ok false ∧ t' = t) ∨ t.remove p = .ok t' := by
  obtain ⟨there, found, h⟩ := bind_eq_ok.1 h
  split at h
  · next absent => exact .inl ⟨found.trans (by simpa using absent), (Except.ok.inj h).symm⟩
  · split at h
    · exact .inr h
    · obtain ⟨same, -, h⟩ := bind_eq_ok.1 h
      split at h
      · cases h
      · exact .inr h

variable {F : Path → Prop} {k : Key} (normal : ∃ s, k.name = Name.normalize s)
  (slash : '/' ∉ k.name.toList) (f : Folder) (hF : F (f.folderOf k.kind)) (d : Disk)
  (expected : Option Value)

include normal slash hF

theorem changedIn_write (content : String) : ChangedIn F d.files (f.write d k content expected).2.files := by
  rcases f.write_cases d k content expected with same | ⟨p, path, replaced⟩
  · rw [same]
    exact .refl _
  · obtain ⟨n, file, -, rfl, -⟩ := exists_of_pathFor normal slash path
    rw [replaced]
    exact changedIn_replace file hF _

theorem changedIn_delete : ChangedIn F d.files (f.delete d k expected).2.files := by
  unfold delete underLock
  cases path : f.pathFor d.files k with
  | error e => exact .refl _
  | ok p =>
    obtain ⟨n, file, -, rfl, -⟩ := exists_of_pathFor normal slash path
    dsimp only
    split
    · exact .refl _
    · cases deleted : deleteAt d.files ((f.folderOf k.kind).join n) k expected with
      | error e => exact .refl _
      | ok t =>
        rcases deleteAt_cases deleted with ⟨-, rfl⟩ | removed
        · exact .refl _
        · exact changedIn_remove file hF removed

end Folder

namespace World

open TriStore.Action

variable {w₀ w w' : World} {s : Source} {key : Key}

def KindFolder (w : World) (p : Path) : Prop :=
  ∃ s f kind, (w.store s).backing.folder? = some f ∧ p = f.folderOf kind

/-- The stores lie where they did, and files differ at most directly in the folders of their kinds. -/
structure Confined (w w' : World) : Prop where
  stores : ∀ s, (w'.store s).backing.folder? = (w.store s).backing.folder?
  changed : w.disk.files.ChangedIn w.KindFolder w'.disk.files

/-- The name of an element that a store on the disk is asked to keep is one step. -/
def Holds (w : World) (s : Source) (key : Key) : Prop :=
  (w.store s).backing.folder? ≠ none → '/' ∉ key.name.toList

theorem Confined.refl (w : World) : Confined w w := ⟨fun _ => rfl, .refl _⟩

theorem Confined.trans (h : Confined w₀ w) (h' : Confined w w') : Confined w₀ w' where
  stores s := (h'.stores s).trans (h.stores s)
  changed := h.changed.trans (h'.changed.mono fun _ ⟨s, f, kind, found, eq⟩ =>
    ⟨s, f, kind, (h.stores s).symm.trans found, eq⟩)

theorem Confined.frame (h : Confined w₀ w) (frame : Frame w w') : Confined w₀ w' where
  stores s := ((frame.sends (P := fun _ => True)).folder s).trans (h.stores s)
  changed := by
    rw [frame.disk]
    exact h.changed

section Changes

variable (h : Confined w₀ w) (normal : ∃ t, key.name = Name.normalize t) (holds : w₀.Holds s key)
  (expected : Option Value)

include h normal holds

theorem Confined.write (content : String) : Confined w₀ ((write s key content expected).ends w).2 := by
  obtain ⟨sends, -, disk⟩ := write_sends s key content expected w
  refine ⟨fun t => (sends.folder t).trans (h.stores t), ?_⟩
  rw [disk, diskAfter, h.stores s]
  cases found : (w₀.store s).backing.folder? with
  | none => exact h.changed
  | some f =>
    have inside : w₀.KindFolder (f.folderOf key.kind) := ⟨s, f, key.kind, found, rfl⟩
    exact h.changed.trans (f.changedIn_write normal (holds (by simp [found])) inside w.disk expected content)

theorem Confined.delete : Confined w₀ ((delete s key expected).ends w).2 := by
  obtain ⟨sends, still⟩ := delete_sends (P := fun _ => True) s key expected w
  refine ⟨fun t => (sends.folder t).trans (h.stores t), ?_⟩
  cases found : (w₀.store s).backing.folder? with
  | none =>
    rw [still ((h.stores s).trans found)]
    exact h.changed
  | some f =>
    have inside : w₀.KindFolder (f.folderOf key.kind) := ⟨s, f, key.kind, found, rfl⟩
    have backing := Backing.folder?_eq_some ((h.stores s).trans found)
    obtain ⟨w', ended, frame⟩ := ends_delete_folder key expected backing
    rw [ended, frame.disk]
    exact h.changed.trans (f.changedIn_delete normal (holds (by simp [found])) inside w.disk expected)

end Changes

end World

namespace Portfolio

variable {s : Source} {kind : Option Kind} {name : String}

open TriStore.Action
open World (Frame Confined)

variable {p : Portfolio} {w₀ w : World} {d : Direction} {m : Mode}

theorem carryOut_confined {i : PlanItem} (h : Confined w₀ w) (normal : ∃ t, i.key.name = Name.normalize t)
    (holds : w₀.Holds (endsOf i.flow).2 i.key) : Confined w₀ ((p.carryOut i).ends w).2 :=
  carryOut_leads (fun _ frame => h.frame frame) (fun _ => h.delete normal holds (expectedOf i))
    fun _ content _ _ frame expected => (h.frame frame).write normal holds expected content

theorem sync_confined (h : Confined w₀ w) (holds : ∀ plan w', (Portfolio.plan d m).ends w = (.ok plan, w') →
      ∀ i ∈ plan.items, w₀.Holds (endsOf i.flow).2 i.key)
    (dryRun force confirm : Bool) : Confined w₀ ((p.sync d m dryRun force confirm).ends w).2 := by
  refine sync_keeps (fun frame h => h.frame frame) h (fun plan w₁ planned => ?_) dryRun force confirm
  have frame := plan_frame d m w
  rw [planned] at frame
  obtain ⟨here, there, -, -, rfl⟩ := exists_of_plan planned
  refine applyAll_keeps_of_mem (fun i hi _ _ w h => ?_) (h.frame frame)
  exact (carryOut_confined h (Plan.exists_normalize hi) (holds _ w₁ planned i hi)).frame (p.apply_frame i w)

theorem staysConfined_of_frame (w w' : World) (frame : Frame w w') : Stays (Confined w₀) w w' :=
  fun h => h.frame frame

theorem download_confined (holds : ∀ entry w', (resolveIn (originOf s) name s.title kind).ends w = (.ok entry, w') →
      w.Holds .home entry.key)
    (force confirm : Bool) : Confined w ((p.download name kind s force confirm).ends w).2 := by
  refine p.download_leads (R := Stays (Confined w)) staysConfined_of_frame
    (fun entry w' resolved content expected w₁ h => ?_) force confirm (.refl w)
  exact h.write entry.exists_normalize (holds entry w' resolved) expected content

theorem upload_confined
    (holds : ∀ entry w', (resolveIn .home name "local portfolio" kind).ends w = (.ok entry, w') →
      w.Holds .remote entry.key)
    (force confirm : Bool) : Confined w ((p.upload name kind force confirm).ends w).2 := by
  rw [ends_upload]
  split
  · exact .refl w
  · refine resolveIn_leads (R := Stays (Confined w)) staysConfined_of_frame (fun entry w' resolved => ?_) (.refl w)
    refine ((fetch_frame .home entry.key).mono staysConfined_of_frame).bind fun content => ?_
    refine p.uploadOf_moves staysConfined_of_frame (fun _ expected w₁ h => ?_) force confirm
    exact h.write entry.exists_normalize (holds entry w' resolved) expected content

/-- What a call asks a store on the disk to keep, or to give up, has a name of one step. -/
def Tame (w : World) : Call → Prop
  | .search _ _ | .advance _ => True
  | .sync d m _ _ _ => ∀ plan w', (Portfolio.plan d m).ends w = (.ok plan, w') →
      ∀ i ∈ plan.items, w.Holds (endsOf i.flow).2 i.key
  | .manage .download r => ∀ entry w',
      (resolveIn (originOf r.source) r.name r.source.title r.kind).ends w = (.ok entry, w') →
        w.Holds .home entry.key
  | .manage .upload r => ∀ entry w',
      (resolveIn .home r.name "local portfolio" r.kind).ends w = (.ok entry, w') →
        w.Holds .remote entry.key
  | .manage .listRemote _ | .manage .compare _ => True

theorem after_confined {c : Call} (tame : Tame w c) : Confined w (p.after w c) := by
  have read : ∀ {w'}, Frame w w' → Confined w w' := (Confined.refl w).frame
  cases c with
  | search query o =>
    rw [after_search]
    exact read (p.search_frame query o w)
  | advance seconds =>
    obtain ⟨now, later⟩ := p.after_advance w seconds
    rw [later]
    exact read (.of_eq rfl rfl rfl rfl rfl)
  | sync d m dryRun force confirm =>
    rw [after_sync]
    exact sync_confined (.refl w) tame dryRun force confirm
  | manage operation r =>
    rw [after_manage]
    cases operation with
    | listRemote => exact read (listRemote_frame r.kind w)
    | compare => exact read (compare_frame r.name r.kind r.showDiff w)
    | download => exact download_confined tame r.force r.confirm
    | upload => exact upload_confined tame r.force r.confirm

theorem run_confined {calls : List Call} (tame : p.Along Tame calls w) : Confined w (p.run calls w) :=
  run_keeps_along (I := Confined w) (fun _ _ tame h => h.trans (after_confined tame)) tame (.refl w)

end Portfolio

namespace Catalog

variable {kind : Kind} {name item group document : Value} {e : Entry} {es : List Entry}

/-- The path of an item has no last step to name it by, and its name has a slash. -/
structure SlashNamed (item : Value) : Prop where
  path : ∃ path, (item.field? "path").getD (.text "") = .text path ∧ Text.afterLast '/' path = ""
  name : ∃ n, (item.field? "name").getD .null = .text n ∧ '/' ∈ n.toList

theorem slash_not_mem_afterLast (s : String) : '/' ∉ (Text.afterLast '/' s).toList := by
  rw [Text.afterLast, String.toList_ofList, List.mem_reverse]
  intro mem
  exact absurd (List.mem_takeWhile_imp mem) (by decide)

theorem eq_of_nameOfValue {n : String} (h : nameOfValue name = .ok n) (slash : '/' ∈ n.toList) :
    name = .text n := by
  unfold nameOfValue at h
  split at h
  · rw [Except.ok.inj h]
  · split at h
    · cases h
    · rw [← Except.ok.inj h] at slash
      exact absurd slash (by decide)

theorem slashNamed_of_entryOf (h : entryOf kind ((item.field? "name").getD .null) item = .ok e)
    (slash : '/' ∈ e.key.name.toList) : SlashNamed item := by
  unfold entryOf at h
  split at h
  · next path given =>
    obtain ⟨n, named, made⟩ := bind_eq_ok.1 h
    have key : e.key.name = Name.normalize (Name.normalize n) := by
      rw [← Except.ok.inj made]
      rfl
    -- No normal form loses or gains a slash, so it comes from the name that was taken.
    rw [key, Name.slash_mem_normalize, Name.slash_mem_normalize] at slash
    split at named
    · next last => exact ⟨⟨path, given, by simpa using last⟩, n, eq_of_nameOfValue named slash, slash⟩
    · rw [← Except.ok.inj named] at slash
      exact absurd slash (slash_not_mem_afterLast path)
  · cases h

theorem slashNamed_of_entryOf? (h : entryOf? group item = .ok (some e))
    (slash : '/' ∈ e.key.name.toList) : SlashNamed item := by
  unfold entryOf? at h
  split at h
  · dsimp only at h
    split at h
    · cases h
    · split at h
      · obtain ⟨made, entry, same⟩ := bind_eq_ok.1 h
        rw [Option.some.inj (Except.ok.inj same)] at entry
        exact slashNamed_of_entryOf entry slash
      · cases h
      · cases h
  · cases h

theorem exists_slashNamed (h : entries document = .ok es) (he : e ∈ es) (slash : '/' ∈ e.key.name.toList) :
    ∃ x ∈ itemsOf document, SlashNamed x.2 := by
  unfold entries at h
  split at h
  · obtain ⟨found, made, same⟩ := bind_eq_ok.1 h
    rw [← Except.ok.inj same, List.mem_filterMap] at he
    obtain ⟨entry, mem, eq⟩ := he
    obtain ⟨x, hx, entered⟩ := (mapM_eq_ok made).2 entry mem
    rw [show entry = some e from eq] at entered
    exact ⟨x, hx, slashNamed_of_entryOf? entered slash⟩
  · rw [← Except.ok.inj h] at he
    exact absurd he List.not_mem_nil

end Catalog

namespace Portfolio

open TriStore.Action
open World (Confined)

/-- Tame calls change files only directly in the folders of the kinds. The file of an entry without a slash in
its name is there, and an index lists a name with one only for want of another. -/
theorem files_confined (p : Portfolio) {calls : List Call} {w : World} (tame : p.Along Tame calls w) :
    Confined w (p.run calls w) ∧ (∀ (f : Folder) (t : FileTree) (e : Entry) (path : Path), '/' ∉ e.key.name.toList →
        f.pathFor t e.key = .ok path → ∃ n, IsFileName n ∧ path = ⟨(f.folderOf e.key.kind).steps ++ [n]⟩) ∧
      ∀ (document : Value) (es : List Entry), Catalog.entries document = .ok es →
        ∀ e ∈ es, '/' ∈ e.key.name.toList → ∃ x ∈ Catalog.itemsOf document, Catalog.SlashNamed x.2 := by
  refine ⟨run_confined tame, fun f t e path slash found => ?_,
    fun document es listed e he slash => Catalog.exists_slashNamed listed he slash⟩
  obtain ⟨n, file, -, rfl, -⟩ := Folder.exists_of_pathFor e.exists_normalize slash found
  exact ⟨n, file, file.join _⟩

/-- A name that is one step leads into the folder of the kind. -/
theorem files_confined_step :
    Confined (.offering "x" "") (mover.run [.manage .download { name := "x" }] (.offering "x" "")) ∧
      ((mover.run [.manage .download { name := "x" }] (.offering "x" "")).disk.files.get?
        ["personas", "x.md"]).isSome = true := by
  have tame : mover.Along Tame [.manage .download { name := "x" }] (.offering "x" "") := by
    refine ⟨fun entry w' resolved _ => ?_, trivial⟩
    have named : ((resolveIn (originOf .remote) "x" Source.remote.title none).ends
        (.offering "x" "")).1.map (·.key.name) = .ok "x" := eq_ok_of_toOption (by decide +kernel)
    rw [resolved] at named
    rw [show entry.key.name = "x" from Except.ok.inj named]
    decide
  exact ⟨(files_confined mover tame).1, by decide +kernel⟩

theorem not_confined_of_beside {w w' : World} {n : String}
    (absent : (w.disk.files.get? [n]).isSome = false) (there : (w'.disk.files.get? [n]).isSome = true)
    (file : w'.disk.files.isFolderAt [n] = false) : ¬Confined w w' := by
  intro confined
  rcases confined.changed.files [n] with
    same | ⟨-, folder⟩ | ⟨-, front, n', ⟨s, f, kind, -, rfl⟩, walked, -, eq⟩
  · rw [same, absent] at there
    exact Bool.false_ne_true there
  · rw [FileTree.isFolderAt, folder] at file
    exact Bool.false_ne_true file.symm
  · rw [Folder.folderOf_eq, walk_append] at walked
    obtain ⟨top, -, step⟩ := bind_eq_ok.1 walked
    obtain ⟨-, -, rfl⟩ := walk_step_eq_ok (Folder.label_ne_dots kind) step
    -- What lies in the folder of a kind is two steps down at least.
    have depth := congrArg List.length eq
    simp at depth

/-- An index can list a name that leads out of the folder of its kind, and such an element is taken over to
there. -/
theorem taken_over_outside : ((Catalog.entries (.map [(.text "elements", .list [.map [(.text "name", .text "../x"),
      (.text "type", .text "personas")]])])).toOption.map (·.map (·.key))) = some [⟨.persona, "../x"⟩] ∧
    ∀ c ∈ [Call.manage .download { name := "../x" }, .sync .pull .additive false false false],
      ¬Confined (.offering "../x" "") (mover.after (.offering "../x" "") c) := by
  refine ⟨by decide +kernel, fun c hc => ?_⟩
  rcases List.mem_cons.1 hc with rfl | hc
  · exact not_confined_of_beside (n := "x.md") (by decide +kernel) (by decide +kernel) (by decide +kernel)
  · obtain rfl := List.mem_singleton.1 hc
    exact not_confined_of_beside (n := "x.md") (by decide +kernel) (by decide +kernel) (by decide +kernel)

end Portfolio

end TriStore
