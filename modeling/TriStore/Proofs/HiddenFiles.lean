import TriStore.Proofs.Privacy

/-!
Private content gets out past a file that hides it, and past a listing kept from before it became private.
-/
namespace TriStore
open List FileTree Folder

def secretText : String := "---\nlocal_only: true\n---\n"

/-- Content that can be kept in a file and listed. -/
structure Legible (c : String) : Prop where
  decoded : Text.Utf8.decode c.toUTF8 = .ok c
  listed : ∀ kind n, ∃ e, Folder.entryOf kind n c = .ok e

namespace Legible

variable {c : String}

theorem of_toOption (decoded : (Text.Utf8.decode c.toUTF8).toOption = some c)
    (listed : (Folder.entryOf .persona "" c).toOption.isSome = true) : Legible c where
  decoded := eq_ok_of_toOption decoded
  listed kind n := by
    obtain ⟨e, found⟩ := Option.isSome_iff_exists.1 listed
    have made := eq_ok_of_toOption found
    simp only [Folder.entryOf, Entry.ofContent, bind_eq_ok] at made ⊢
    obtain ⟨blob, hblob, -, ⟨fields, hfields, version, hversion, description, hdescription, tags, htags,
      author, hauthor, digest, hdigest, blob', hblob', -⟩, -⟩ := made
    exact ⟨_, blob, hblob, _, ⟨fields, hfields, version, hversion, description, hdescription, tags,
      htags, author, hauthor, digest, hdigest, blob', hblob', rfl⟩, rfl⟩

theorem empty : Legible "" := of_toOption (by decide +kernel) (by decide +kernel)

theorem secret : Legible secretText := of_toOption (by decide +kernel) (by decide +kernel)

end Legible

theorem isPrivate_of_toOption {c : String} {b : Bool} {fields : Value}
    (h : (Header.fields c).toOption.map Header.isPrivate = some b) (parsed : Header.fields c = .ok fields) :
    Header.isPrivate fields = b := by
  simpa [parsed, Except.toOption] using h

theorem isMarked_secret : Header.IsMarked secretText := by
  have mark : (Header.fields secretText).toOption.map Header.isPrivate = some true := by decide +kernel
  cases h : Header.fields secretText with
  | error e => simp [h, Except.toOption] at mark
  | ok fields => exact ⟨fields, h, isPrivate_of_toOption mark h⟩

namespace Folder

variable {kind : Kind} {n : String} {e : Entry}

theorem localOnly_secret (h : entryOf kind n secretText = .ok e) : e.localOnly = true := by
  obtain ⟨-, fields, parsed, mark⟩ := entryOf_eq_ok h
  rw [mark]
  exact isPrivate_of_toOption (by decide +kernel) parsed

theorem localOnly_empty (h : entryOf kind n "" = .ok e) : e.localOnly = false := by
  obtain ⟨-, fields, parsed, mark⟩ := entryOf_eq_ok h
  rw [mark]
  exact isPrivate_of_toOption (by decide +kernel) parsed

def atRoot : Folder := { root := ⟨[]⟩ }

end Folder

/-- One folder with these files, and their contents. -/
def FileTree.withFiles (kind : Kind) (files : List (String × String)) : FileTree where
  items := ([kind.label], .folder) :: files.map fun x => ([kind.label, x.1], .file x.2.toUTF8)

/-- Files that can be listed one after the other. -/
structure Orderly (files : List (String × String)) : Prop where
  nameable : ∀ x ∈ files, Nameable x.1
  legible : ∀ x ∈ files, Legible x.2
  sorted : (files.map (·.1)).Pairwise fun a b => Text.le a b = true
  nodup : (files.map (·.1)).Nodup

namespace FileTree

variable {kind kind' : Kind} {files : List (String × String)} {n : String}

theorem get?_withFiles (kind : Kind) (files : List (String × String)) (n : String) :
    (withFiles kind files).get? [kind.label, n] = (files.lookup n).map fun c => .file c.toUTF8 := by
  unfold withFiles get?
  rw [if_neg (by simp), lookup_cons, beq_eq_false_iff_ne.2 (by simp)]
  dsimp only
  induction files with
  | nil => rfl
  | cons x files ih =>
    obtain ⟨m, c⟩ := x
    rw [map_cons, lookup_cons, lookup_cons, ih]
    by_cases same : n = m
    · simp [same]
    · have other : ([kind.label, n] == [kind.label, m]) = false := by simpa using same
      rw [other, beq_eq_false_iff_ne.2 same]

theorem place_folderOf (t : FileTree) (kind : Kind) : t.place (Folder.atRoot.folderOf kind) = .ok [kind.label] := by
  rw [folderOf_eq, place_eq_ok]
  refine ⟨?_, ?_, ?_⟩
  · cases kind <;> decide
  · cases kind <;> decide
  · show t.walk [] [kind.label] = _
    rw [walk_step rfl (label_ne_dots kind), if_neg (by cases kind <;> decide)]
    rfl

theorem get?_folder_withFiles (kind kind' : Kind) (files : List (String × String)) :
    (withFiles kind files).get? [kind'.label] = if kind' = kind then some .folder else none := by
  have none : (files.map fun x => ([kind.label, x.1], FileItem.file x.2.toUTF8)).lookup [kind'.label] = none := by
    rw [lookup_eq_none_iff]
    intro x hx
    obtain ⟨y, -, rfl⟩ := mem_map.1 hx
    simp
  unfold withFiles get?
  rw [if_neg (by simp), lookup_cons, none]
  by_cases same : kind' = kind
  · simp [same]
  · have other : ([kind'.label] == [kind.label]) = false := by
      rw [beq_eq_false_iff_ne]
      exact fun eq => same (Kind.label_inj (singleton_inj.1 eq))
    rw [other, if_neg same]

theorem isFolder_withFiles (kind kind' : Kind) (files : List (String × String)) :
    (withFiles kind files).isFolder (Folder.atRoot.folderOf kind') = .ok (decide (kind' = kind)) := by
  rw [isFolder, look_of_place (place_folderOf _ _), get?_folder_withFiles, ok_bind]
  by_cases same : kind' = kind
  · simp [same]
    rfl
  · simp [same]
    rfl

theorem names_withFiles (kind : Kind) (files : List (String × String)) :
    (withFiles kind files).names [kind.label] = files.map (·.1) := by
  have children : (files.map fun x => ([kind.label, x.1], FileItem.file x.2.toUTF8)).filterMap
      (fun x => childName? [kind.label] x.1) = files.map (·.1) := by
    rw [filterMap_map, ← filterMap_eq_map]
    congr 1
    funext x
    simp [childName?]
  unfold names withFiles
  rw [filterMap_cons, show childName? [kind.label] [kind.label] = none by simp [childName?], children]

end FileTree

namespace Folder

variable {x : String × String} {t : FileTree}

open FileTree (withFiles)

variable {kind : Kind} {files : List (String × String)} {n c : String} {k : Key}

theorem stands_withFiles (kind : Kind) (files : List (String × String)) :
    atRoot.Stands (withFiles kind files) kind [kind.label] where
  place := place_folderOf _ kind
  folder := by rw [FileTree.get?_folder_withFiles, if_pos rfl]

theorem foundNames_withFiles (h : Orderly files) (kind kind' : Kind) :
    atRoot.foundNames (withFiles kind files) kind' = if kind' = kind then files.map (·.1) else [] := by
  unfold foundNames FileTree.namesIn
  rw [place_folderOf]
  dsimp only
  unfold FileTree.isFolderAt
  rw [FileTree.get?_folder_withFiles]
  by_cases same : kind' = kind
  · subst same
    have all : (files.map (·.1)).filter (·.endsWith ".md") = files.map (·.1) := by
      rw [filter_eq_self]
      intro n hn
      obtain ⟨x, hx, rfl⟩ := mem_map.1 hn
      exact (h.nameable x hx).extension
    simp only [if_true, names_withFiles, all]
  · simp [same]

theorem elementNames_withFiles (h : Orderly files) (kind kind' : Kind) :
    atRoot.elementNames (withFiles kind files) kind' = if kind' = kind then files.map (·.1) else [] := by
  rw [elementNames, foundNames_withFiles h]
  split
  · exact mergeSort_of_pairwise h.sorted
  · exact mergeSort_nil

theorem hasFile_withFiles (h : Orderly files) (kind : Kind) (hx : x ∈ files) :
    atRoot.HasFile (withFiles kind files) kind x.1 x.2 := by
  have stands := stands_withFiles kind files
  have name := h.nameable x hx
  have path : (atRoot.folderOf kind).join x.1 = ⟨[kind.label, x.1]⟩ := by
    rw [name.join, folderOf_eq]
    rfl
  have placed := (stands.place_join name.toIsFileName).2
    ⟨name.free, by rw [path]; exact storedSize_path kind name.size, name.size, rfl⟩
  have found : files.lookup x.1 = some x.2 := by
    obtain ⟨l₁, l₂, split⟩ := append_of_mem hx
    have nodup := h.nodup
    rw [split, map_append, nodup_append] at nodup
    rw [lookup_eq_some_iff]
    refine ⟨l₁, l₂, split, fun y hy => ?_⟩
    rw [bne_iff_ne]
    exact fun same => nodup.2.2 y.1 (mem_map_of_mem hy) x.1 (by simp) same.symm
  refine ⟨name.toIsFileName, readText_eq_ok.2 ⟨x.2.toUTF8, read_eq_ok.2 ⟨_, placed, ?_⟩, (h.legible x hx).decoded⟩⟩
  exact (FileTree.get?_withFiles kind files x.1).trans (by rw [found]; rfl)

theorem exists_entriesOf (kind : Kind) (h : ∀ x ∈ files, readText t ((atRoot.folderOf kind).join x.1) = .ok x.2)
    (legible : ∀ x ∈ files, Legible x.2) : ∃ es, (atRoot.entriesOf t kind (files.map (·.1))).2 = .ok es ∧
      files.map (fun x => entryOf kind x.1 x.2) = es.map .ok := by
  induction files with
  | nil => exact ⟨[], rfl, rfl⟩
  | cons x files ih =>
    obtain ⟨es, listed, made⟩ := ih (fun y hy => h y (.tail _ hy))
      fun y hy => legible y (.tail _ hy)
    obtain ⟨e, entry⟩ := (legible x (.head _)).listed kind x.1
    refine ⟨e :: es, ?_, by rw [map_cons, map_cons, made, entry]⟩
    rw [map_cons, entriesOf, h x (.head _)]
    dsimp only
    rw [entry]
    rw [listed]
    rfl

theorem loadKinds_only (only : ∀ kind', t.isFolder (atRoot.folderOf kind') = .ok (decide (kind' = kind))) :
    (atRoot.loadKinds t Kind.all).2 = (atRoot.entriesOf t kind (atRoot.elementNames t kind)).2 := by
  have skip : ∀ kinds, kind ∉ kinds → (atRoot.loadKinds t kinds).2 = .ok [] := by
    intro kinds
    induction kinds with
    | nil => exact fun _ => rfl
    | cons kind' kinds ih =>
      intro none
      rw [mem_cons, not_or] at none
      rw [loadKinds, only, decide_eq_false (Ne.symm none.1)]
      exact ih none.2
  have reach : ∀ kinds, kinds.Nodup → kind ∈ kinds → (atRoot.loadKinds t kinds).2 =
      (atRoot.entriesOf t kind (atRoot.elementNames t kind)).2 := by
    intro kinds
    induction kinds with
    | nil => exact fun _ none => absurd none not_mem_nil
    | cons kind' kinds ih =>
      intro nodup some
      rw [nodup_cons] at nodup
      by_cases here : kind' = kind
      · subst here
        rw [loadKinds, only, decide_eq_true rfl]
        rcases atRoot.entriesOf t kind' (atRoot.elementNames t kind') with ⟨lines, e | es⟩
        · rfl
        · dsimp only
          rw [skip kinds nodup.1]
          show Except.ok (es ++ []) = _
          rw [append_nil]
      · rw [loadKinds, only, decide_eq_false here]
        refine ih nodup.2 ?_
        rcases mem_cons.1 some with same | some
        · exact absurd same.symm here
        · exact some
  exact reach Kind.all (by decide) (by cases kind <;> decide)

theorem exists_load (h : Orderly files) (kind : Kind) : ∃ es, (atRoot.load (withFiles kind files) none).2 = .ok es ∧
      files.map (fun x => entryOf kind x.1 x.2) = es.map .ok := by
  obtain ⟨es, listed, made⟩ := exists_entriesOf kind
    (fun x hx => (hasFile_withFiles h kind hx).text) h.legible
  refine ⟨es, ?_, made⟩
  have root : (withFiles kind files).exists? atRoot.root = .ok true := rfl
  rw [load, root]
  dsimp only [Option.elim]
  rw [loadKinds_only fun kind' => isFolder_withFiles kind kind' files, elementNames_withFiles h,
    if_pos rfl, listed]

theorem exists_of_hasFile {f : Folder} (h : f.HasFile t kind n c) :
    t.exists? ((f.folderOf kind).join n) = .ok true := by
  obtain ⟨bytes, read, -⟩ := readText_eq_ok.1 h.text
  exact exists_of_read read

theorem exists_withFiles_of_absent (kind : Kind) (name : IsFileName n)
    (fits : Path.stepFault? n = none → FileTree.storedSize n ≤ FileTree.longestName)
    (absent : ∀ x ∈ files, x.1 ≠ n) :
    (withFiles kind files).exists? ((atRoot.folderOf kind).join n) = .ok false := by
  have path : (atRoot.folderOf kind).join n = ⟨[kind.label, n]⟩ := by
    rw [name.join, folderOf_eq]
    rfl
  have none : (withFiles kind files).look ((atRoot.folderOf kind).join n) = .ok none := by
    cases fault : Path.stepFault? n with
    | none =>
      have placed := ((stands_withFiles kind files).place_join name).2
        ⟨fault, by rw [path]; exact storedSize_path kind (fits fault), fits fault, rfl⟩
      have missing : files.lookup n = Option.none := by
        rw [lookup_eq_none_iff]
        exact fun x hx => bne_iff_ne.2 (absent x hx).symm
      rw [look_of_place placed]
      exact congrArg Except.ok ((FileTree.get?_withFiles kind files n).trans (by rw [missing]; rfl))
    | some e =>
      have whole : Path.fault? ⟨[kind.label, n]⟩ = some e := by
        have label : Path.stepFault? kind.label = Option.none := by cases kind <;> decide
        simp [Path.fault?, label, fault]
      rw [path, FileTree.look, FileTree.place, whole]
      unfold Path.stepFault? at fault
      split at fault
      · obtain rfl := Option.some.inj fault
        rfl
      · split at fault
        · obtain rfl := Option.some.inj fault
          rfl
        · cases fault
  rw [FileTree.exists?, none]
  rfl

theorem fetch_withFiles (h : Orderly files) (hx : x ∈ files) (sought : Sought (Name.normalize x.1))
    (first : x.1 = Name.normalize x.1 ++ ".md" ∨ (∀ y ∈ files, y.1 ≠ Name.normalize x.1 ++ ".md") ∧
        (files.map (·.1)).find? (Name.normalize · == Name.normalize x.1) = some x.1) :
    atRoot.fetch (withFiles kind files) ⟨kind, Name.normalize x.1⟩ = .ok x.2 := by
  have file := hasFile_withFiles h kind hx
  have folder : (withFiles kind files).isFolder (atRoot.folderOf kind) = .ok true := by
    rw [isFolder_withFiles, decide_eq_true rfl]
  have path : atRoot.pathFor (withFiles kind files) ⟨kind, Name.normalize x.1⟩ =
      .ok ((atRoot.folderOf kind).join x.1) := by
    rcases first with named | ⟨absent, first⟩
    · unfold pathFor
      dsimp only
      rw [show Key.filename ⟨kind, Name.normalize x.1⟩ = x.1 from named.symm, exists_of_hasFile file,
        ok_bind, folder]
      rfl
    · have slash : '/' ∉ (Name.normalize x.1).toList := by
        rw [Name.slash_mem_normalize]
        exact file.name.step
      have missing := exists_withFiles_of_absent kind
        (isFileName_filename (k := ⟨kind, Name.normalize x.1⟩) slash) sought absent
      unfold pathFor
      dsimp only
      rw [missing, ok_bind, folder, ok_bind, if_neg (by decide), foundNames_withFiles h, if_pos rfl, first]
      rfl
  rw [fetch, path, ok_bind, file.text]
  rfl

end Folder

namespace Plan

variable {es : List Entry} {e : Entry} {k : Key}

theorem check_push (es : List Entry) : check es [] .push .additive = .ok () := by
  unfold check
  generalize (keysOf es []).filter (!isPrivate es ·) = keys
  induction keys with
  | nil => rfl
  | cons k keys ih =>
    have one : checkPair (effective .push .additive) .additive ⟨lastWith k es, lastWith k []⟩ = .ok () := by
      cases lastWith k es <;> rfl
    simp only [List.forM, one]
    exact ih

theorem items_push (last : lastWith k es = some e) (plain : e.localOnly = false)
    (others : ∀ e' ∈ es, e'.key ≠ k → isPrivate es e'.key = true) :
    (build es [] .push .additive).items = [item .push .additive k ⟨some e, none⟩] := by
  have nodup : ((keysOf es []).filter (!isPrivate es ·)).Nodup := (nodup_keysOf es []).filter _
  have mem : k ∈ (keysOf es []).filter (!isPrivate es ·) := by
    obtain ⟨listed, key⟩ := mem_of_lastWith last
    exact mem_filter.2 ⟨mem_keysOf.2 (.inl ⟨e, listed, key⟩), by simp [isPrivate, last, plain]⟩
  have only : ∀ k' ∈ (keysOf es []).filter (!isPrivate es ·), k' = k := by
    intro k' hk'
    obtain ⟨listed, shown⟩ := mem_filter.1 hk'
    rcases mem_keysOf.1 listed with ⟨e', he', rfl⟩ | ⟨e', he', -⟩
    · apply Classical.byContradiction
      intro other
      simp [others e' he' other] at shown
    · exact absurd he' not_mem_nil
  have keys : (keysOf es []).filter (!isPrivate es ·) = [k] := by
    generalize (keysOf es []).filter (!isPrivate es ·) = l at nodup mem only
    cases l with
    | nil => exact absurd mem not_mem_nil
    | cons k' l =>
      obtain rfl := only k' (.head _)
      cases l with
      | nil => rfl
      | cons k'' l =>
        have again := only k'' (.tail _ (.head _))
        simp [again] at nodup
  show ((keysOf es []).filter (!isPrivate es ·)).map _ = _
  rw [keys, map_cons, map_nil, last]
  rfl

end Plan

namespace Portfolio

open TriStore.Action

variable {w w₁ : World} {f : Folder} {es : List Entry} {e : Entry} {k : Key} {c : String}

/-- The remote store is in memory and empty, and it is listed anew each time. -/
structure Vacant (w : World) : Prop where
  shelf : ∃ x : Shelf, w.remote.backing = .shelf x ∧ x.contents = [] ∧ x.delay = .ok 0 ∧ x.failure = none
  uncached : w.remote.cached = false

theorem Vacant.ends_listEntries (h : Vacant w) :
    ∃ y elapsed, (listEntries .remote none).ends w = (.ok [], { w.setShelf .remote y with elapsed }) := by
  obtain ⟨x, backing, contents, delay, failure⟩ := h.shelf
  have entries : (x.load none).1 = .ok [] := by
    simp [Shelf.load, Shelf.entries, Shelf.check, Shelf.sorted, delay, failure, contents]
    rfl
  have ended : (listEntries .remote none).ends w = (onShelf .remote x (x.load none)).ends w := by
    rw [listEntries, ends_bind_of_ok (ends_get w), if_pos (by rw [World.store, h.uncached]; rfl),
      loadEntries, ends_bind_of_ok (ends_get w), show (w.store .remote).backing = .shelf x from backing]
  rw [ends_onShelf, entries] at ended
  exact ⟨_, _, ended⟩

theorem ends_plan_push (listed : (listEntries .home none).ends w = (.ok es, w₁)) (vacant : Vacant w₁) :
    ∃ y elapsed, (plan .push .additive).ends w =
      (.ok (Plan.build es [] .push .additive), { w₁.setShelf .remote y with elapsed }) := by
  obtain ⟨y, elapsed, there⟩ := vacant.ends_listEntries
  refine ⟨y, elapsed, ?_⟩
  rw [plan, ends_bind_of_ok listed, ends_bind_of_ok there]
  show ends (liftExcept (Plan.make es [] .push .additive)) _ = _
  rw [Plan.make_eq_ok_iff.2 ⟨Plan.check_push es, rfl⟩, ends_liftExcept]

theorem Vacant.frame (h : Vacant w) (frame : World.Frame w w₁) : Vacant w₁ := by
  obtain ⟨x, backing, contents, delay, failure⟩ := h.shelf
  have still : w₁.remote.backing.still = (Backing.shelf x).still := by
    rw [← backing]
    exact frame.backing .remote
  obtain ⟨calls, found⟩ := Backing.exists_of_still still
  exact ⟨⟨_, found, contents, delay, failure⟩, (frame.cached .remote).trans h.uncached⟩

theorem carryOut_sends {p : Portfolio} {i : PlanItem} (home : w.home.backing.folder? = some f)
    (push : i.flow = .push) (step : i.step = .create) (fetched : f.fetch w.disk.files i.key = .ok c)
    (free : findSecrets c = []) : ⟨.remote, i.key, c⟩ ∈ ((p.carryOut i).ends w).2.offers := by
  have content : (p.contentFor i).ends w = (.ok c, w) := by
    rw [contentFor, show endsOf i.flow = (.home, .remote) by rw [push]; rfl,
      ends_bind_of_ok ((ends_fetch_folder home i.key).trans (by rw [fetched])), push, free]
    rw [if_neg (by decide), if_neg (by simp), ends_pure]
  unfold carryOut
  rw [show endsOf i.flow = (.home, .remote) by rw [push]; rfl, step]
  rw [if_neg (by decide), ends_bind_of_ok content, snd_ends_discard]
  exact (write_sends .remote i.key c _ w).2.1

def mover : Portfolio := { home := default }

theorem push_sends (listed : (listEntries .home none).ends w = (.ok es, w₁))
    (home : w.home.backing.folder? = some f) (vacant : Vacant w) (last : Plan.lastWith k es = some e)
    (plain : e.localOnly = false) (others : ∀ e' ∈ es, e'.key ≠ k → Plan.isPrivate es e'.key = true)
    (fetched : f.fetch w.disk.files k = .ok c) (free : findSecrets c = []) :
    ⟨.remote, k, c⟩ ∈ (mover.after w (.sync .push .additive false false false)).offers := by
  have frame := listEntries_frame .home none w
  rw [listed] at frame
  obtain ⟨y, elapsed, planned⟩ := ends_plan_push listed (vacant.frame frame)
  have frame' := plan_frame .push .additive w
  rw [planned] at frame'
  generalize { w₁.setShelf .remote y with elapsed } = w₂ at planned frame'
  have sends : ⟨.remote, k, c⟩ ∈
      ((mover.carryOut (Plan.item .push .additive k ⟨some e, none⟩)).ends w₂).2.offers := by
    refine carryOut_sends (f := f) ?_ rfl rfl ?_ free
    · exact ((frame'.sends (P := fun _ => True)).folder .home).trans home
    · rw [frame'.disk]
      exact fetched
  have items := Plan.items_push last plain others
  have waits : needsConfirmation (Plan.build es [] .push .additive) false false = false := rfl
  have admitted : (liftExcept (checkBulk mover.settings.sync (Plan.effective .push .additive)) :
      Action Unit).ends w = (.ok (), w) := rfl
  -- The plan has one item, and what follows it offers nothing.
  have applied : ⟨.remote, k, c⟩ ∈
      ((mover.applyAll (Plan.build es [] .push .additive).items).ends w₂).2.offers := by
    have after := mover.apply_frame (Plan.item .push .additive k ⟨some e, none⟩) w₂
    rw [items]
    show _ ∈ (ends (mover.apply (Plan.item .push .additive k ⟨some e, none⟩) >>= fun outcome =>
      mover.applyAll [] >>= fun rest => pure (outcome :: rest)) w₂).2.offers
    rw [ends_bind]
    rcases ended : (mover.apply (Plan.item .push .additive k ⟨some e, none⟩)).ends w₂ with
      ⟨failure | outcome, w₃⟩
    · rw [ended] at after
      rw [after.offers]
      exact sends
    · rw [ended] at after
      show _ ∈ w₃.offers
      rw [after.offers]
      exact sends
  rw [after_sync, sync, if_pos (by decide), ends_bind_of_ok admitted, ends_bind_of_ok planned, if_neg (by decide),
    waits, if_neg (by decide), ends_bind]
  rcases ended : (mover.applyAll (Plan.build es [] .push .additive).items).ends w₂ with ⟨failure | rest, w₃⟩
  · rw [ended] at applied
    exact applied
  · rw [ended] at applied
    exact applied

end Portfolio

/-- The store here has these files, and the remote store is in memory and empty. -/
def World.ofFiles (kind : Kind) (files : List (String × String)) : World where
  home := { backing := .folder .atRoot }
  remote := { backing := .shelf { source := .remote, writable := true } }
  registry := { backing := .shelf { source := .registry, writable := false } }
  disk := { files := .withFiles kind files }
  results := { name := .text "search", maxEntries := .whole 1, maxMemory := .whole 1, ttl := none }

def World.offering (name content : String) : World := (ofFiles .persona []).setShelf .remote
  { source := .remote, writable := true, contents := [(⟨.persona, name⟩, content)] }

/-- Two files in the order of their names, of which the one that is sent is private. -/
def hidingFiles (shown sent : String) : List (String × String) :=
  if Text.le sent shown then [(sent, secretText), (shown, "")] else [(shown, ""), (sent, secretText)]

namespace Hides

variable {shown sent : String} (h : Hides shown sent)

include h

theorem orderly : Orderly (hidingFiles shown sent) := by
  have back : ¬Text.le sent shown = true → Text.le shown sent = true := fun above => by
    simpa [above] using Text.le_total sent shown
  unfold hidingFiles
  split
  · next below =>
    exact ⟨by simp [h.listed, h.fetched], by simp [Legible.empty, Legible.secret], by simp [below],
      by simp [h.differ]⟩
  · next above =>
    exact ⟨by simp [h.listed, h.fetched], by simp [Legible.empty, Legible.secret], by simp [back above],
      by simp [Ne.symm h.differ]⟩

theorem fetch_eq (kind : Kind) :
    Folder.atRoot.fetch (.withFiles kind (hidingFiles shown sent)) ⟨kind, Name.normalize sent⟩ =
      .ok secretText := by
  have mem : (sent, secretText) ∈ hidingFiles shown sent := by
    unfold hidingFiles
    split <;> simp
  refine fetch_withFiles (x := (sent, secretText)) h.orderly mem h.sought ?_
  by_cases named : sent = Name.normalize sent ++ ".md"
  · exact .inl named
  · have other : shown ≠ Name.normalize sent ++ ".md" := by
      intro eq
      refine h.unnamed ?_ eq
      rw [eq, Name.normalize_extension]
    refine .inr ⟨?_, ?_⟩
    · unfold hidingFiles
      split <;> simp [named, other]
    · unfold hidingFiles
      split
      · simp
      · next above =>
        -- The file that is sent is listed under another key, so the other one has another normal name.
        have apart : Name.normalize shown ≠ Name.normalize sent := by
          intro same
          refine above (h.order ?_)
          rw [← same, h.key, ← same]
        simp [apart]

theorem exists_listing (kind : Kind) :
    ∃ es e, (Folder.atRoot.load (.withFiles kind (hidingFiles shown sent)) none).2 = .ok es ∧
      Plan.lastWith ⟨kind, Name.normalize sent⟩ es = some e ∧ e.localOnly = false ∧
      ∀ e' ∈ es, e'.key ≠ ⟨kind, Name.normalize sent⟩ → Plan.isPrivate es e'.key = true := by
  obtain ⟨es, loaded, made⟩ := exists_load h.orderly kind
  obtain ⟨e, entry⟩ := Legible.empty.listed kind shown
  obtain ⟨hidden, entry'⟩ := Legible.secret.listed kind sent
  have key : e.key = ⟨kind, Name.normalize sent⟩ := by rw [(entryOf_eq_ok entry).1, h.key]
  have mark := localOnly_secret entry'
  refine ⟨es, e, loaded, ?_⟩
  unfold hidingFiles at made
  split at made
  · next below =>
    have whole : es = [hidden, e] := by
      simpa [entry, entry', map_eq_cons_iff, eq_comm] using made
    subst whole
    refine ⟨by simp [Plan.lastWith, key], localOnly_empty entry, fun e' he' other => ?_⟩
    rcases mem_cons.1 he' with rfl | he'
    · simp [Plan.isPrivate, Plan.lastWith, key, Ne.symm other, mark]
    · exact absurd (mem_singleton.1 he' ▸ key) other
  · next above =>
    have whole : es = [e, hidden] := by
      simpa [entry, entry', map_eq_cons_iff, eq_comm] using made
    subst whole
    have apart : hidden.key ≠ ⟨kind, Name.normalize sent⟩ := by
      rw [(entryOf_eq_ok entry').1]
      intro same
      exact above (h.order (Key.mk.inj same).2)
    refine ⟨by simp [Plan.lastWith, key, apart], localOnly_empty entry, fun e' he' other => ?_⟩
    rcases mem_cons.1 he' with rfl | he'
    · exact absurd key other
    · rw [mem_singleton.1 he']
      simp [Plan.isPrivate, Plan.lastWith, mark]

end Hides

namespace Portfolio

open TriStore.Action

variable {N : Kind → String → Prop}

theorem vacant_ofFiles (kind : Kind) (files : List (String × String)) :
    Vacant (.ofFiles kind files) := ⟨⟨_, rfl, rfl, rfl, rfl⟩, rfl⟩

theorem discreet_ofFiles (kind : Kind) (files : List (String × String)) :
    (World.ofFiles kind files).Discreet .atRoot := ⟨rfl, rfl, nofun⟩

theorem hidden_sends {shown sent : String} (h : Hides shown sent) (kind : Kind) :
    ⟨.remote, ⟨kind, Name.normalize sent⟩, secretText⟩ ∈
      (mover.after (.ofFiles kind (hidingFiles shown sent)) (.sync .push .additive false false false)).offers := by
  obtain ⟨es, e, loaded, last, plain, others⟩ := h.exists_listing kind
  let w := World.ofFiles kind (hidingFiles shown sent)
  obtain ⟨log, listed⟩ := ends_listEntries_folder (w := w) rfl rfl none
  rw [show (Folder.load .atRoot w.disk.files none).2 = .ok es from loaded] at listed
  exact push_sends listed rfl (vacant_ofFiles kind _) last plain others (h.fetch_eq kind) (by decide +kernel)

/-- Private content stays here in all that can happen, as long as each call finds files with such names only,
exactly when no file with such a name can hide another. -/
theorem private_content_stays_iff (N : Kind → String → Prop) :
    (∀ (p : Portfolio) (f : Folder) (w : World) (events : List Event), w.Discreet f →
      p.Suited N f events w → ∀ o ∈ (p.live events w).offers, o.IsDiscreet) ↔
    ∀ kind shown sent, N kind shown → N kind sent → ¬Hides shown sent := by
  constructor
  · intro stays kind shown sent hshown hsent hides
    let w := World.ofFiles kind (hidingFiles shown sent)
    have names : ∀ kind', ∀ n ∈ Folder.atRoot.elementNames w.disk.files kind', N kind' n ∧ '/' ∉ n.toList := by
      intro kind' n hn
      rw [show w.disk.files = .withFiles kind (hidingFiles shown sent) from rfl,
        elementNames_withFiles hides.orderly] at hn
      split at hn
      · next same =>
        have two : n = sent ∨ n = shown := by
          unfold hidingFiles at hn
          split at hn
          · simpa using hn
          · simpa [or_comm] using hn
        rw [same]
        rcases two with rfl | rfl
        · exact ⟨hsent, hides.fetched.step⟩
        · exact ⟨hshown, hides.listed.step⟩
      · exact absurd hn not_mem_nil
    have suits : w.Suits N .atRoot (.sync .push .additive false false false) :=
      ⟨fun kind' n hn => (names kind' n hn).1, fun kind' n hn => (names kind' n hn).2, nofun,
        fun same _ both => by cases same; exact nomatch both⟩
    exact stays mover .atRoot w [.call (.sync .push .additive false false false)]
      (discreet_ofFiles kind _) ⟨suits, trivial⟩ _ (hidden_sends hides kind) rfl isMarked_secret
  · intro calm p f w events h suited
    exact (live_discreet calm h suited).offers

def keeping (w : World) (size : Nat) : World := { w with
  home.cached := true
  listings := { name := .text "listing", maxEntries := .whole 1, maxMemory := .whole size, ttl := none } }

/-- Private content gets out: past a file that hides it, and past a listing from before it became private. -/
theorem private_content_sent : Header.IsMarked secretText ∧ ⟨.remote, ⟨.persona, "a"⟩, secretText⟩ ∈
        (mover.live [.call (.sync .push .additive false false false)]
          (.ofFiles .persona [("a.md", secretText), ("a_.md", "")])).offers ∧
      ∃ size, ⟨.remote, ⟨.persona, "a"⟩, secretText⟩ ∈
        (mover.live [.call (.sync .push .additive true false false),
            .edit { files := .withFiles .persona [("a.md", secretText)] },
            .call (.sync .push .additive false false false)]
          (keeping (.ofFiles .persona [("a.md", "")]) size)).offers := by
  have hides : Hides "a_.md" "a.md" :=
    ⟨⟨⟨Text.endsWith_iff.2 (by decide), by decide⟩, by decide, by decide⟩,
      ⟨⟨Text.endsWith_iff.2 (by decide), by decide⟩, by decide, by decide⟩,
      fun _ => by decide +kernel, by decide, by decide +kernel, fun _ => by decide, fun _ => by decide +kernel⟩
  have hidden := hidden_sends hides .persona
  exact ⟨isMarked_secret, hidden, 1000000, by decide +kernel⟩

end Portfolio

end TriStore
