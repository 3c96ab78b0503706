import TriStore.Proofs.FileTree
import TriStore.Proofs.NormalName
import TriStore.Proofs.Shelf

/-!
A store in a folder, file by file. A listing has one entry for each element file that can be read,
in the order of the names.
-/
namespace TriStore
open List FileTree

theorem Entry.exists_normalize (e : Entry) : ∃ s, e.key.name = Name.normalize s := by
  unfold key
  dsimp only
  split
  · exact ⟨_, rfl⟩
  · exact ⟨"", by decide⟩

namespace Folder

variable {f : Folder} {t t' : FileTree} {kind : Kind} {k : Key} {spot : List String} {n c : String}
  {es : List Entry} {e : Entry}

/-- The folder of a kind is there, in this place. -/
structure Stands (f : Folder) (t : FileTree) (kind : Kind) (spot : List String) : Prop where
  place : t.place (f.folderOf kind) = .ok spot
  folder : t.get? spot = some .folder

/-- An element file with this name can be read and has this content. -/
structure HasFile (f : Folder) (t : FileTree) (kind : Kind) (n c : String) : Prop where
  name : IsFileName n
  text : readText t ((f.folderOf kind).join n) = .ok c

theorem exists_stands (h : t.isFolder (f.folderOf kind) = .ok true) : ∃ spot, f.Stands t kind spot := by
  obtain ⟨spot, place, folder⟩ := place_of_isFolder h
  exact ⟨spot, place, folder⟩

theorem readText_eq_ok {p : Path} : readText t p = .ok c ↔
    ∃ bytes, t.read p = .ok bytes ∧ Text.Utf8.decode bytes = .ok c := by
  simp only [readText, bind_eq_ok]
  constructor
  · rintro ⟨bytes, read, decoded⟩
    refine ⟨bytes, read, ?_⟩
    split at decoded
    · next whole => rw [whole, Except.ok.inj decoded]
    · cases decoded
  · rintro ⟨bytes, read, decoded⟩
    exact ⟨bytes, read, by rw [decoded]; rfl⟩

namespace Stands

theorem place_join (h : f.Stands t kind spot) (file : IsFileName n) {s : List String} :
    t.place ((f.folderOf kind).join n) = .ok s ↔ Path.stepFault? n = none ∧
        FileTree.storedSize ((f.folderOf kind).join n).toText ≤ FileTree.longestPath ∧
        FileTree.storedSize n ≤ FileTree.longestName ∧ s = spot ++ [n] := by
  obtain ⟨fault, -, walked⟩ := place_eq_ok.1 h.place
  rw [place_eq_ok, file.join]
  have faults : Path.fault? ⟨(f.folderOf kind).steps ++ [n]⟩ = none ↔ Path.stepFault? n = none := by
    unfold Path.fault? at fault ⊢
    simp [List.findSome?_append, fault]
  rw [faults, walk_append, walked, ok_bind, walk_step h.folder file.ne_dots]
  by_cases long : FileTree.storedSize n > FileTree.longestName
  · simp [long, Nat.not_le.2 long]
  · simp [long, Nat.le_of_not_gt long, eq_comm]

theorem hasFile_congr (h : f.Stands t kind spot) (h' : f.Stands t' kind spot)
    (same : t'.get? (spot ++ [n]) = t.get? (spot ++ [n])) :
    f.HasFile t' kind n c ↔ f.HasFile t kind n c := by
  have reads : ∀ {t₁ t₂ : FileTree}, f.Stands t₁ kind spot → f.Stands t₂ kind spot →
      t₂.get? (spot ++ [n]) = t₁.get? (spot ++ [n]) → f.HasFile t₁ kind n c → f.HasFile t₂ kind n c := by
    intro t₁ t₂ h₁ h₂ same file
    obtain ⟨bytes, read, decoded⟩ := readText_eq_ok.1 file.text
    obtain ⟨s, placed, found⟩ := read_eq_ok.1 read
    have free := (h₁.place_join file.name).1 placed
    rw [free.2.2.2, ← same] at found
    have again := (h₂.place_join file.name).2 ⟨free.1, free.2.1, free.2.2.1, rfl⟩
    exact ⟨file.name, readText_eq_ok.2 ⟨bytes, read_eq_ok.2 ⟨_, again, found⟩, decoded⟩⟩
  exact ⟨reads h' h same.symm, reads h h' same⟩

theorem mem_elementNames (h : f.Stands t kind spot) (file : f.HasFile t kind n c) : n ∈ f.elementNames t kind := by
  obtain ⟨bytes, read, -⟩ := readText_eq_ok.1 file.text
  obtain ⟨s, placed, found⟩ := read_eq_ok.1 read
  obtain ⟨-, -, -, rfl⟩ := (h.place_join file.name).1 placed
  have listed : t.namesIn (f.folderOf kind) = t.names spot := by
    rw [FileTree.namesIn, h.place]
    simp [FileTree.isFolderAt, h.folder]
  rw [elementNames, mem_mergeSort, foundNames, listed, mem_filter]
  exact ⟨mem_names (by rw [found]; rfl), file.name.extension⟩

theorem nameable (h : f.Stands t kind spot) (file : f.HasFile t kind n c) :
    Path.stepFault? n = none ∧ FileTree.storedSize n ≤ FileTree.longestName := by
  obtain ⟨bytes, read, -⟩ := readText_eq_ok.1 file.text
  obtain ⟨s, placed, -⟩ := read_eq_ok.1 read
  obtain ⟨free, -, size, -⟩ := (h.place_join file.name).1 placed
  exact ⟨free, size⟩

theorem fits_of_exists (h : f.Stands t kind spot) (file : IsFileName n) {b : Bool}
    (looked : t.exists? ((f.folderOf kind).join n) = .ok b) (free : Path.stepFault? n = none) :
    FileTree.storedSize n ≤ FileTree.longestName := by
  apply Classical.byContradiction
  intro long
  obtain ⟨fault, -, walked⟩ := place_eq_ok.1 h.place
  have clear : ((f.folderOf kind).join n).fault? = none := by
    unfold Path.fault? at fault ⊢
    rw [file.join]
    simp [List.findSome?_append, fault, free]
  have blocked : t.walk [] ((f.folderOf kind).join n).steps = .error .nameTooLong := by
    rw [file.join, walk_append, walked, ok_bind, walk_step h.folder file.ne_dots,
      if_pos (Nat.lt_of_not_le long)]
  have fails : t.place ((f.folderOf kind).join n) =
      .error (.file .nameTooLong ((f.folderOf kind).join n).toText none) := by
    rw [FileTree.place, clear, blocked]
    exact ite_self _
  rw [FileTree.exists?, FileTree.look, fails] at looked
  cases looked

end Stands

section Fetching

theorem isFileName_filename (slash : '/' ∉ k.name.toList) : IsFileName k.filename where
  extension := Text.endsWith_iff.2 (by simp [Key.filename])
  step := by
    rw [Key.filename, String.toList_append, mem_append]
    rintro (h | h)
    · exact slash h
    · exact absurd h (by decide)

theorem normalize_filename (normal : ∃ s, k.name = Name.normalize s) : Name.normalize k.filename = k.name := by
  obtain ⟨s, name⟩ := normal
  rw [Key.filename, name, Name.normalize_extension]

theorem exists_of_pathFor {p : Path} (normal : ∃ s, k.name = Name.normalize s)
    (slash : '/' ∉ k.name.toList) (h : f.pathFor t k = .ok p) :
    ∃ n, IsFileName n ∧ Name.normalize n = k.name ∧ p = (f.folderOf k.kind).join n ∧
      (∃ b, t.exists? ((f.folderOf k.kind).join k.filename) = .ok b) ∧
      ∀ c, f.HasFile t k.kind k.filename c → n = k.filename := by
  obtain ⟨there, looked, h⟩ := bind_eq_ok.1 h
  have canonical : ∃ n, IsFileName n ∧ Name.normalize n = k.name ∧
      (f.folderOf k.kind).join k.filename = (f.folderOf k.kind).join n ∧
      (∃ b, t.exists? ((f.folderOf k.kind).join k.filename) = .ok b) ∧
      ∀ c, f.HasFile t k.kind k.filename c → n = k.filename :=
    ⟨k.filename, isFileName_filename slash, normalize_filename normal, rfl, ⟨there, looked⟩, fun _ _ => rfl⟩
  have absent : there = false → ∀ c, ¬f.HasFile t k.kind k.filename c := by
    rintro rfl c file
    obtain ⟨bytes, read, -⟩ := readText_eq_ok.1 file.text
    rw [exists_of_read read] at looked
    cases looked
  obtain ⟨isFolder, -, h⟩ := bind_eq_ok.1 h
  split at h
  · obtain rfl := Except.ok.inj h
    exact canonical
  · next missing =>
    split at h
    · next name found =>
      obtain rfl := Except.ok.inj h
      have same : Name.normalize name = k.name := by simpa using List.find?_some found
      have listed := mem_of_find?_eq_some found
      refine ⟨name, ⟨(mem_filter.1 listed).2, ?_⟩, same, rfl, ⟨there, looked⟩, fun c file => ?_⟩
      · rw [← Name.slash_mem_normalize, same]
        exact slash
      · refine absurd file (absent ?_ c)
        cases there with
        | true => exact absurd rfl missing
        | false => rfl
    · obtain rfl := Except.ok.inj h
      exact canonical

theorem exists_of_fetch (normal : ∃ s, k.name = Name.normalize s) (slash : '/' ∉ k.name.toList)
    (h : f.fetch t k = .ok c) : ∃ n, f.HasFile t k.kind n c ∧ Name.normalize n = k.name ∧
      (∃ b, t.exists? ((f.folderOf k.kind).join k.filename) = .ok b) ∧
      ∀ c', f.HasFile t k.kind k.filename c' → n = k.filename := by
  obtain ⟨p, path, fetched⟩ := bind_eq_ok.1 h
  obtain ⟨n, file, same, rfl, looked, first⟩ := exists_of_pathFor normal slash path
  refine ⟨n, ⟨file, ?_⟩, same, looked, first⟩
  split at fetched
  · next whole => rw [whole, Except.ok.inj fetched]
  · cases fetched
  · cases fetched
  · cases fetched
  · cases fetched

end Fetching

section Listing

theorem entryOf_eq_ok (h : entryOf kind n c = .ok e) : e.key = ⟨kind, Name.normalize (Name.normalize n)⟩ ∧
      ∃ fields, Header.fields c = .ok fields ∧ e.localOnly = Header.isPrivate fields := by
  obtain ⟨blob, -, h⟩ := bind_eq_ok.1 h
  obtain ⟨e', made, h⟩ := bind_eq_ok.1 h
  obtain rfl := Except.ok.inj h
  obtain ⟨key, -, -, fields, parsed, mark⟩ := Entry.ofContent_eq_ok made
  exact ⟨key, fields, parsed, mark⟩

theorem exists_of_entriesOf {names : List String} (h : (f.entriesOf t kind names).2 = .ok es) :
    ∃ files : List (String × String), (files.map (·.1)).Sublist names ∧
      (∀ x ∈ files, readText t ((f.folderOf kind).join x.1) = .ok x.2) ∧
      (∀ n ∈ names, ∀ c, readText t ((f.folderOf kind).join n) = .ok c → (n, c) ∈ files) ∧
      files.map (fun x => entryOf kind x.1 x.2) = es.map .ok := by
  induction names generalizing es with
  | nil =>
    obtain rfl := Except.ok.inj h
    exact ⟨[], List.Sublist.slnil, nofun, nofun, rfl⟩
  | cons name rest ih =>
    unfold entriesOf at h
    dsimp only at h
    split at h
    · next unread =>
      obtain ⟨files, names, read, all, made⟩ := ih h
      refine ⟨files, names.cons name, read, fun n hn c text => ?_, made⟩
      rcases mem_cons.1 hn with rfl | hn
      · cases unread.symm.trans text
      · exact all n hn c text
    · next content text =>
      split at h
      · cases h
      · next entry made =>
        cases others : (f.entriesOf t kind rest).2 with
        | error e =>
          rw [others] at h
          cases h
        | ok es' =>
          rw [others] at h
          obtain rfl := Except.ok.inj h
          obtain ⟨files, names, read, all, tail⟩ := ih others
          refine ⟨(name, content) :: files, names.cons_cons name, ?_, fun n hn c text' => ?_, ?_⟩
          · intro x hx
            rcases mem_cons.1 hx with rfl | hx
            · exact text
            · exact read x hx
          · rcases mem_cons.1 hn with rfl | hn
            · rw [Except.ok.inj (text.symm.trans text')]
              exact (.head _)
            · exact mem_cons_of_mem _ (all n hn c text')
          · rw [map_cons, map_cons, tail, made]

theorem lastWith_append (k : Key) (es es' : List Entry) :
    Plan.lastWith k (es ++ es') = (Plan.lastWith k es').or (Plan.lastWith k es) := by
  simp [Plan.lastWith]

theorem exists_of_lastWith {files : List (String × String)}
    (made : files.map (fun x => entryOf kind x.1 x.2) = es.map .ok)
    (sorted : files.Pairwise fun x y => Text.le x.1 y.1 = true) (h : Plan.lastWith k es = some e) :
    ∃ x ∈ files, entryOf kind x.1 x.2 = .ok e ∧
      ∀ y ∈ files, ∀ e', entryOf kind y.1 y.2 = .ok e' → e'.key = k → Text.le y.1 x.1 = true := by
  induction files generalizing es with
  | nil =>
    obtain rfl := map_eq_nil_iff.1 made.symm
    cases h
  | cons x files ih =>
    obtain ⟨e₀, es, rfl, first, rest⟩ := map_eq_cons_iff.1 made.symm
    obtain ⟨before, sorted⟩ := pairwise_cons.1 sorted
    rw [← singleton_append, lastWith_append] at h
    cases last : Plan.lastWith k es with
    | some e' =>
      rw [last] at h
      obtain rfl := Option.some.inj h
      obtain ⟨x', hx', entry, after⟩ := ih rest.symm sorted last
      refine ⟨x', mem_cons_of_mem _ hx', entry, fun y hy => ?_⟩
      rcases mem_cons.1 hy with rfl | hy
      · exact fun _ _ _ => before x' hx'
      · exact after y hy
    | none =>
      rw [last] at h
      obtain ⟨mem, -⟩ := Plan.mem_of_lastWith h
      obtain rfl := mem_singleton.1 mem
      refine ⟨x, (.head _), first.symm, fun y hy e' entry key => ?_⟩
      rcases mem_cons.1 hy with rfl | hy
      · simpa using Text.le_total y.1 y.1
      · have listed : entryOf kind y.1 y.2 ∈ es.map Except.ok := by
          rw [rest]
          exact mem_map_of_mem hy
        rw [entry] at listed
        obtain ⟨e'', he'', same⟩ := mem_map.1 listed
        rw [← Except.ok.inj same] at key
        exact absurd key (Plan.lastWith_eq_none_iff.1 last e'' he'')

/-- What a listing says of the files: each entry comes from one, each kind is listed whole, and the last entry
under a key comes from the last file under it. -/
structure Lists (f : Folder) (t : FileTree) (es : List Entry) : Prop where
  made : ∀ e ∈ es, ∃ n c spot, f.Stands t e.key.kind spot ∧ f.HasFile t e.key.kind n c ∧
    entryOf e.key.kind n c = .ok e
  whole : ∀ e ∈ es, ∀ n c, f.HasFile t e.key.kind n c → ∃ e' ∈ es, entryOf e.key.kind n c = .ok e'
  last : ∀ k e, Plan.lastWith k es = some e → ∃ n c, f.HasFile t k.kind n c ∧
    entryOf k.kind n c = .ok e ∧ ∀ n' c', f.HasFile t k.kind n' c' →
      Name.normalize (Name.normalize n') = k.name → Text.le n' n = true

theorem Lists.nil : f.Lists t [] := ⟨forall_mem_nil _, forall_mem_nil _, fun _ _ none => by cases none⟩

theorem Lists.append {es' : List Entry} (h : f.Lists t es) (h' : f.Lists t es') : f.Lists t (es ++ es') where
  made e he := (mem_append.1 he).elim (h.made e) (h'.made e)
  whole e he n c file := by
    rcases mem_append.1 he with he | he
    · obtain ⟨e', he', made⟩ := h.whole e he n c file
      exact ⟨e', mem_append_left _ he', made⟩
    · obtain ⟨e', he', made⟩ := h'.whole e he n c file
      exact ⟨e', mem_append_right _ he', made⟩
  last k e last := by
    rw [lastWith_append] at last
    rcases Option.or_eq_some_iff.1 last with later | ⟨-, earlier⟩
    · exact h'.last k e later
    · exact h.last k e earlier

/-- The names of the element files here are single steps. -/
def Plain (f : Folder) (t : FileTree) : Prop :=
  ∀ kind, ∀ n ∈ f.elementNames t kind, '/' ∉ n.toList

theorem pairwise_elementNames (f : Folder) (t : FileTree) (kind : Kind) :
    (f.elementNames t kind).Pairwise fun a b => Text.le a b = true := by
  have trans : ∀ a b c, Text.le a b = true → Text.le b c = true → Text.le a c = true :=
    fun _ _ _ => Text.le_trans
  have total : ∀ a b, (Text.le a b || Text.le b a) = true := Text.le_total
  exact pairwise_mergeSort trans total _

theorem lists_of_entriesOf (plain : f.Plain t) (folder : t.isFolder (f.folderOf kind) = .ok true)
    (h : (f.entriesOf t kind (f.elementNames t kind)).2 = .ok es) : f.Lists t es := by
  obtain ⟨files, names, read, all, made⟩ := exists_of_entriesOf h
  obtain ⟨spot, stands⟩ := exists_stands folder
  have sorted : files.Pairwise fun x y => Text.le x.1 y.1 = true :=
    pairwise_map.1 ((pairwise_elementNames f t kind).sublist names)
  have hasFile : ∀ x ∈ files, f.HasFile t kind x.1 x.2 := by
    intro x hx
    have listed := names.subset (mem_map_of_mem hx)
    exact ⟨⟨(mem_filter.1 (mem_mergeSort.1 listed)).2, plain kind x.1 listed⟩, read x hx⟩
  have fromFile : ∀ e ∈ es, ∃ x ∈ files, entryOf kind x.1 x.2 = .ok e := by
    intro e he
    have listed : Except.ok e ∈ files.map fun x => entryOf kind x.1 x.2 := by
      rw [made]
      exact mem_map_of_mem he
    exact mem_map.1 listed
  have ofKind : ∀ e ∈ es, e.key.kind = kind := by
    intro e he
    obtain ⟨x, -, entry⟩ := fromFile e he
    rw [(entryOf_eq_ok entry).1]
  have entries : ∀ n c, f.HasFile t kind n c → ∃ e ∈ es, entryOf kind n c = .ok e := by
    intro n c file
    have listed := mem_map_of_mem (f := fun x => entryOf kind x.1 x.2)
      (all n (stands.mem_elementNames file) c file.text)
    rw [made] at listed
    obtain ⟨e, he, entry⟩ := mem_map.1 listed
    exact ⟨e, he, entry.symm⟩
  refine ⟨fun e he => ?_, fun e he => ?_, fun k e last => ?_⟩
  · obtain ⟨x, hx, entry⟩ := fromFile e he
    rw [ofKind e he]
    exact ⟨x.1, x.2, spot, stands, hasFile x hx, entry⟩
  · rw [ofKind e he]
    exact entries
  · obtain ⟨mem, key⟩ := Plan.mem_of_lastWith last
    have same : k.kind = kind := by rw [← key, ofKind e mem]
    obtain ⟨x, hx, entry, after⟩ := exists_of_lastWith made sorted last
    rw [same]
    refine ⟨x.1, x.2, hasFile x hx, entry, fun n c file name => ?_⟩
    obtain ⟨e', -, entry'⟩ := entries n c file
    refine after (n, c) (all n (stands.mem_elementNames file) c file.text) e' entry' ?_
    rw [(entryOf_eq_ok entry').1, name, ← same]

theorem of_loadKinds {M : List Entry → Prop} (nil : M []) (append : ∀ {es es'}, M es → M es' → M (es ++ es'))
    (one : ∀ {kind es}, t.isFolder (f.folderOf kind) = .ok true →
      (f.entriesOf t kind (f.elementNames t kind)).2 = .ok es → M es)
    {kinds : List Kind} (h : (f.loadKinds t kinds).2 = .ok es) : M es := by
  induction kinds generalizing es with
  | nil =>
    obtain rfl := Except.ok.inj h
    exact nil
  | cons kind kinds ih =>
    unfold loadKinds at h
    split at h
    · cases h
    · exact ih h
    · next folder =>
      split at h
      · cases h
      · next lines entries listed =>
        dsimp only at h
        cases others : (f.loadKinds t kinds).2 with
        | error e =>
          rw [others] at h
          cases h
        | ok es' =>
          rw [others] at h
          obtain rfl := Except.ok.inj h
          exact append (one folder (by rw [listed])) (ih others)

theorem of_load {M : List Entry → Prop} (nil : M []) (append : ∀ {es es'}, M es → M es' → M (es ++ es'))
    (one : ∀ {kind es}, t.isFolder (f.folderOf kind) = .ok true →
      (f.entriesOf t kind (f.elementNames t kind)).2 = .ok es → M es)
    {kind : Option Kind} (h : (f.load t kind).2 = .ok es) : M es := by
  unfold load at h
  split at h
  · cases h
  · obtain rfl := Except.ok.inj h
    exact nil
  · exact of_loadKinds nil append one h

theorem lists_of_load (plain : f.Plain t) {kind : Option Kind} (h : (f.load t kind).2 = .ok es) : f.Lists t es :=
  of_load .nil .append (lists_of_entriesOf plain) h

theorem revision_of_load {kind : Option Kind} (h : (f.load t kind).2 = .ok es) :
    ∀ e ∈ es, ∃ c b, Digest.blob c = .ok b ∧ e.revision = .text b := by
  refine of_load (M := fun es => ∀ e ∈ es, ∃ c b, Digest.blob c = .ok b ∧ e.revision = .text b) nofun
    (fun first second e he => (mem_append.1 he).elim (first e) (second e)) (fun {kind es} _ listed => ?_) h
  obtain ⟨files, -, -, -, made⟩ := exists_of_entriesOf listed
  intro e he
  have listed : Except.ok e ∈ files.map fun x => entryOf kind x.1 x.2 := by
    rw [made]
    exact mem_map_of_mem he
  obtain ⟨x, -, entry⟩ := mem_map.1 listed
  obtain ⟨b, stored, entry⟩ := bind_eq_ok.1 entry
  obtain ⟨e', made', entry⟩ := bind_eq_ok.1 entry
  obtain rfl := Except.ok.inj entry
  obtain ⟨-, ⟨b', -, revision⟩, -, -⟩ := Entry.ofContent_eq_ok made'
  refine ⟨x.2, b, stored, ?_⟩
  rw [show ({ e' with modified := some .file } : Entry).revision = e'.revision from rfl, revision, if_pos]
  simpa [Value.isGiven] using Digest.blob_ne_empty stored

end Listing

section Writing

variable {kind' : Kind} {top : List String}

theorem folderOf_eq (f : Folder) (kind : Kind) : f.folderOf kind = ⟨f.root.steps ++ [kind.label]⟩ :=
  kind.join_label f.root

theorem label_ne_dots (kind : Kind) : kind.label ≠ ".." := by cases kind <;> decide

theorem Stands.exists_top (h : f.Stands t kind spot) :
    ∃ top, t.walk [] f.root.steps = .ok top ∧ t.get? top = some .folder ∧ spot = top ++ [kind.label] := by
  obtain ⟨-, -, walked⟩ := place_eq_ok.1 h.place
  rw [folderOf_eq, walk_append] at walked
  obtain ⟨top, root, step⟩ := bind_eq_ok.1 walked
  obtain ⟨folder, -, rfl⟩ := walk_step_eq_ok (label_ne_dots kind) step
  exact ⟨top, root, folder, rfl⟩

theorem Stands.ensureFolder (h : f.Stands t kind (top ++ [kind.label])) (kind' : Kind) :
    (t.ensureFolder (f.folderOf kind')).2 = t ∨ t.get? (top ++ [kind'.label]) = none ∧
        (t.ensureFolder (f.folderOf kind')).2 = t.put (top ++ [kind'.label]) .folder := by
  obtain ⟨top', root, folder, eq⟩ := h.exists_top
  obtain ⟨rfl, -⟩ := append_inj' eq rfl
  have clear : (f.folderOf kind').fault? = none := by
    obtain ⟨fault, -, -⟩ := place_eq_ok.1 h.place
    rw [folderOf_eq] at fault ⊢
    unfold Path.fault? at fault ⊢
    have free : Path.stepFault? kind'.label = none := by cases kind' <;> decide
    simp only [List.findSome?_append, Option.or_eq_none_iff] at fault ⊢
    exact ⟨fault.1, by simp [free]⟩
  have walked : t.walk [] (f.folderOf kind').steps =
      if FileTree.storedSize kind'.label > FileTree.longestName then .error .nameTooLong
      else .ok (top ++ [kind'.label]) := by
    rw [folderOf_eq, walk_append, root, ok_bind, walk_step folder (label_ne_dots kind')]
  cases placed : t.place (f.folderOf kind') with
  | error e =>
    have long : e = .file .nameTooLong (f.folderOf kind').toText none := by
      unfold FileTree.place at placed
      rw [clear, walked] at placed
      dsimp only at placed
      split at placed
      · exact (Except.error.inj placed).symm
      · split at placed
        · next ok =>
          cases placed
        · next fault failed =>
          split at failed
          · rw [← Except.error.inj failed] at placed
            exact (Except.error.inj placed).symm
          · cases failed
    left
    have fails : t.makeFolder (f.folderOf kind') = .error e := by
      rw [FileTree.makeFolder, placed]
      rfl
    rw [FileTree.ensureFolder, FileTree.mostMissing, FileTree.makeFolders, fails, long]
  | ok s =>
    obtain ⟨-, -, there⟩ := place_eq_ok.1 placed
    rw [walked] at there
    split at there
    · cases there
    · obtain rfl := Except.ok.inj there
      cases found : t.get? (top ++ [kind'.label]) with
      | none =>
        right
        have made : t.makeFolder (f.folderOf kind') = .ok (t.put (top ++ [kind'.label]) .folder) := by
          rw [FileTree.makeFolder, placed, ok_bind, found]
          rfl
        exact ⟨rfl, by rw [FileTree.ensureFolder, FileTree.mostMissing, FileTree.makeFolders, made]⟩
      | some item =>
        left
        rw [FileTree.ensureFolder, FileTree.mostMissing, FileTree.makeFolders, FileTree.makeFolder, placed,
          ok_bind, found]
        cases item <;> rfl

theorem write_cases (f : Folder) (d : Disk) (k : Key) (content : String) (expected : Option Value) :
    (f.write d k content expected).2.files = d.files ∨ ∃ p, f.pathFor d.files k = .ok p ∧
        (f.write d k content expected).2.files = (d.files.replace p (FileTree.encoded content)).2 := by
  unfold write underLock
  cases path : f.pathFor d.files k with
  | error e => exact .inl rfl
  | ok p =>
    dsimp only
    split
    · exact .inl rfl
    · unfold writeAt
      split
      · exact .inl rfl
      · exact .inr ⟨p, rfl, rfl⟩

theorem Stands.put (h : f.Stands t kind spot) {s : List String} (free : t.get? s ≠ some .folder)
    (i : FileItem) : f.Stands (t.put s i) kind spot where
  place := (keepsFolders_put free i).place h.place
  folder := keepsFolders_put free i spot h.folder

theorem Stands.place_beside (h : f.Stands t kind (top ++ [kind.label])) (file : IsFileName n)
    {s : List String} (placed : t.place ((f.folderOf kind').join n) = .ok s) :
    s = top ++ [kind'.label] ++ [n] := by
  obtain ⟨top', root, -, eq⟩ := h.exists_top
  obtain ⟨rfl, -⟩ := append_inj' eq rfl
  obtain ⟨-, -, walked⟩ := place_eq_ok.1 placed
  rw [file.join, walk_append, folderOf_eq, walk_append, root, ok_bind] at walked
  obtain ⟨s', label, step⟩ := bind_eq_ok.1 walked
  obtain ⟨-, -, rfl⟩ := walk_step_eq_ok (label_ne_dots kind') label
  exact (walk_step_eq_ok file.ne_dots step).2.2

theorem Stands.write {d : Disk} (h : f.Stands d.files kind spot) (normal : ∃ s, k.name = Name.normalize s)
    (slash : '/' ∉ k.name.toList) (content : String) (expected : Option Value) :
    f.Stands (f.write d k content expected).2.files kind spot ∧ ∀ n, ¬(k.kind = kind ∧ k.name = Name.normalize n) →
        (f.write d k content expected).2.files.get? (spot ++ [n]) = d.files.get? (spot ++ [n]) := by
  rcases f.write_cases d k content expected with same | ⟨p, path, replaced⟩
  · rw [same]
    exact ⟨h, fun _ _ => rfl⟩
  rw [replaced]
  obtain ⟨top, -, -, rfl⟩ := h.exists_top
  obtain ⟨file, name, hname, rfl, -, -⟩ := exists_of_pathFor normal slash path
  have parent : ((f.folderOf k.kind).join file).parent = f.folderOf k.kind := by
    rw [name.join, Path.parent, dropLast_concat]
  -- First the folder of the key's kind is made, if it is missing.
  have made : f.Stands (d.files.ensureFolder (f.folderOf k.kind)).2 kind (top ++ [kind.label]) ∧
      ∀ n, (d.files.ensureFolder (f.folderOf k.kind)).2.get? (top ++ [kind.label] ++ [n]) =
        d.files.get? (top ++ [kind.label] ++ [n]) := by
    rcases h.ensureFolder k.kind with same | ⟨missing, made⟩
    · rw [same]
      exact ⟨h, fun _ => rfl⟩
    · rw [made]
      refine ⟨h.put (by simp [missing]) _, fun n => FileTree.get?_put_ne _ _ fun eq => ?_⟩
      simpa using congrArg List.length eq
  rcases d.files.replace_cases ((f.folderOf k.kind).join file) (FileTree.encoded content) with
    ⟨e, failed⟩ | ⟨s, bytes, -, placed, free, put⟩
  · rw [failed, parent]
    exact ⟨made.1, fun n _ => made.2 n⟩
  rw [parent] at placed free put
  rw [put]
  have place := made.1.place_beside name placed
  refine ⟨made.1.put free _, fun n other => ?_⟩
  rw [FileTree.get?_put_ne, made.2]
  rw [place]
  intro eq
  obtain ⟨front, same⟩ := append_inj' eq rfl
  obtain ⟨-, label⟩ := append_inj' front rfl
  exact other ⟨Kind.label_inj (singleton_inj.1 label).symm, by rw [singleton_inj.1 same, hname]⟩

end Writing

end Folder

end TriStore
