import Mathlib.Data.List.Nodup
import TriStore.Proofs.FolderFiles

/-!
When a listing and the contents behind it agree. The entry of an element carries its own key.
-/
namespace TriStore
open List

theorem mapM_eq_ok_iff {α β ε : Type} {f : α → Except ε β} {l : List α} {bs : List β} :
    l.mapM f = .ok bs ↔ l.map f = bs.map .ok := by
  induction l generalizing bs with
  | nil => cases bs <;> simp [pure, Except.pure]
  | cons a l ih =>
    rw [mapM_cons, bind_eq_ok]
    constructor
    · rintro ⟨b, first, h⟩
      obtain ⟨bs', rest, h⟩ := bind_eq_ok.1 h
      obtain rfl : b :: bs' = bs := Except.ok.inj h
      rw [map_cons, map_cons, first, ih.1 rest]
    · intro h
      cases bs with
      | nil => cases h
      | cons b bs =>
        obtain ⟨first, rest⟩ := List.cons.inj h
        exact ⟨b, first, bind_eq_ok.2 ⟨bs, ih.2 rest, rfl⟩⟩

/-- A listing agrees with the contents that can be fetched: its keys are distinct, the content under the key
of an entry has its digest, and a look for the key finds the entry. -/
def Coherent (list : Option Kind → Except Failure (List Entry)) (fetch : Key → Except Failure String) : Prop :=
  ∃ es, list none = .ok es ∧ (es.map Entry.key).Nodup ∧ ∀ e ∈ es,
    (∃ c d, fetch e.key = .ok c ∧ Digest.ofContent c = .ok d ∧ e.digest = .text d) ∧
    (list (some e.key.kind)).map (·.find? (·.key == e.key)) = .ok (some e)

/-- The elements behind a listing: the kind and normal name under which each is kept, its content and its
entry. -/
structure Stock (ρ : Type) where
  elements : List ρ
  kind : ρ → Kind
  name : ρ → String
  content : ρ → String
  entry : ρ → Except Failure Entry
  normal : ∀ r ∈ elements, ∃ s, name r = Name.normalize s
  entry_eq_ok : ∀ {r e}, entry r = .ok e → e.key = Key.of (kind r) (name r) ∧
    ∃ d, Digest.ofContent (content r) = .ok d ∧ e.digest = .text d

namespace Stock

variable {ρ : Type} (S : Stock ρ)

def key (r : ρ) : Key := Key.of (S.kind r) (S.name r)

def list (kind : Option Kind) : Except Failure (List Entry) :=
  (S.elements.filter fun r => kind.all (· == S.kind r)).mapM S.entry

variable {S} {es : List Entry}

theorem key_of_entry {r : ρ} {e : Entry} (h : S.entry r = .ok e) : e.key = S.key r := (S.entry_eq_ok h).1

theorem keys_of_map {rs : List ρ} (h : rs.map S.entry = es.map .ok) : es.map Entry.key = rs.map S.key := by
  induction rs generalizing es with
  | nil =>
    obtain rfl := map_eq_nil_iff.1 h.symm
    rfl
  | cons r rs ih =>
    obtain ⟨e, es, rfl, first, rest⟩ := map_eq_cons_iff.1 h.symm
    rw [map_cons, map_cons, ih rest.symm, key_of_entry first.symm]

theorem find?_key {e : Entry} (nodup : (es.map Entry.key).Nodup) (he : e ∈ es) :
    es.find? (·.key == e.key) = some e := by
  obtain ⟨e', found⟩ : ∃ e', es.find? (·.key == e.key) = some e' :=
    Option.isSome_iff_exists.1 (List.find?_isSome.2 ⟨e, he, by simp⟩)
  have same : e'.key = e.key := by simpa using List.find?_some found
  rw [found, inj_on_of_nodup_map nodup (mem_of_find?_eq_some found) he same]

theorem coherent_iff {fetch : Key → Except Failure String} :
    Coherent S.list fetch ↔ (∀ r ∈ S.elements, ∃ e, S.entry r = .ok e) ∧ (S.elements.map S.key).Nodup ∧
      ∀ r ∈ S.elements, ∃ c, fetch (S.key r) = .ok c ∧ Digest.ofContent c = Digest.ofContent (S.content r) := by
  have all : S.list none = S.elements.mapM S.entry := by
    exact congrArg _ (filter_eq_self.2 fun _ _ => rfl)
  constructor
  · rintro ⟨es, listed, nodup, agrees⟩
    rw [all] at listed
    obtain ⟨entries, -⟩ := mapM_eq_ok listed
    have keys := keys_of_map (mapM_eq_ok_iff.1 listed)
    refine ⟨fun r hr => ?_, keys ▸ nodup, fun r hr => ?_⟩
    · obtain ⟨e, -, made⟩ := entries r hr
      exact ⟨e, made⟩
    · obtain ⟨e, he, made⟩ := entries r hr
      obtain ⟨-, d, digest, named⟩ := S.entry_eq_ok made
      obtain ⟨⟨c, d', fetched, digest', named'⟩, -⟩ := agrees e he
      obtain rfl : d' = d := by simpa [named'] using named
      rw [key_of_entry made] at fetched
      exact ⟨c, fetched, digest'.trans digest.symm⟩
  · rintro ⟨entries, nodup, agrees⟩
    obtain ⟨es, listed⟩ := exists_mapM_eq_ok entries
    have keys := keys_of_map (mapM_eq_ok_iff.1 listed)
    refine ⟨es, all.trans listed, keys ▸ nodup, fun e he => ?_⟩
    obtain ⟨r, hr, made⟩ := (mapM_eq_ok listed).2 e he
    obtain ⟨-, d, digest, named⟩ := S.entry_eq_ok made
    rw [key_of_entry made]
    constructor
    · obtain ⟨c, fetched, same⟩ := agrees r hr
      exact ⟨c, d, fetched, same.trans digest, named⟩
    · have part (r' : ρ) (hr : r' ∈ S.elements.filter fun r' => (some (S.key r).kind).all (· == S.kind r')) :=
        entries r' (mem_filter.1 hr).1
      obtain ⟨es', listed'⟩ := exists_mapM_eq_ok part
      have keys' := keys_of_map (mapM_eq_ok_iff.1 listed')
      have nodup' : (es'.map Entry.key).Nodup :=
        keys' ▸ nodup.sublist (filter_sublist.map _)
      obtain ⟨e', he', made'⟩ := (mapM_eq_ok listed').1 r
        (mem_filter.2 ⟨hr, by simp [key, Key.of]⟩)
      obtain rfl : e = e' := Except.ok.inj (made.symm.trans made')
      rw [list, listed', ← key_of_entry made]
      exact congrArg Except.ok (find?_key nodup' he')

theorem stable_of_found (nodup : (S.elements.map S.key).Nodup)
    (found : ∀ r ∈ S.elements, ∃ r' ∈ S.elements, S.kind r' = S.kind r ∧
      S.name r' = Name.normalize (S.name r)) : ∀ r ∈ S.elements, Name.normalize (S.name r) = S.name r := by
  -- A name that is not normal leads to a shorter one, which then is normal and has the same key.
  intro r
  induction size : (S.name r).length using Nat.strongRecOn generalizing r with
  | _ n ih =>
    intro hr
    obtain ⟨s, hs⟩ := S.normal r hr
    rcases Name.normalize_normalize_or s with ⟨-, same⟩ | ⟨-, shorter⟩
    · rw [hs, same]
    · obtain ⟨r', hr', kind, name⟩ := found r hr
      have less : (S.name r').length < n := by
        rw [name, ← size, hs]
        exact shorter
      have normal := ih _ less r' rfl hr'
      have keys : S.key r' = S.key r := by
        rw [key, key, Key.of, Key.of, normal, name, kind]
      rw [← name, inj_on_of_nodup_map nodup hr' hr keys]

end Stock

namespace Shelf

/-- A shelf as calls leave it: one content under each key, and keys made from names. -/
structure Kept (x : Shelf) : Prop where
  nodup : (x.contents.map (·.1)).Nodup
  made : ∀ kc ∈ x.contents, ∃ s, kc.1.name = Name.normalize s

namespace Kept

variable {x y : Shelf} {key : Key}

theorem put (kept : x.Kept) (made : ∃ s, key.name = Name.normalize s) (content : String) :
    (x.put key content).Kept where
  nodup := nodup_put kept.nodup key content
  made kc hkc := by
    rcases mem_putIn hkc with rfl | hkc
    · exact made
    · exact kept.made kc hkc

theorem erase (kept : x.Kept) (key : Key) : (x.erase key).Kept where
  nodup := kept.nodup.sublist (filter_sublist.map _)
  made kc hkc := kept.made kc (mem_filter.1 hkc).1

theorem add {kind : Value} {draft : Draft} {content : Option String} (kept : x.Kept)
    (h : x.add kind draft content = .ok (key, y)) : y.Kept := by
  obtain ⟨k, made, h⟩ := bind_eq_ok.1 h
  obtain ⟨kind, -, made⟩ := bind_eq_ok.1 made
  obtain ⟨name, -, made⟩ := bind_eq_ok.1 made
  have named : ∃ s, k.name = Name.normalize s := ⟨name, by rw [← Except.ok.inj made, Key.of]⟩
  cases content with
  | none =>
    obtain ⟨text, -, h⟩ := bind_eq_ok.1 h
    cases h
    exact kept.put named text
  | some text =>
    cases h
    exact kept.put named text

def stock (kept : x.Kept) : Stock (Key × String) where
  elements := x.sorted
  kind kc := kc.1.kind
  name kc := kc.1.name
  content kc := kc.2
  entry := entryOf
  normal kc hkc := kept.made kc (mem_mergeSort.1 hkc)
  entry_eq_ok made := ⟨(entryOf_eq_ok made).1, (entryOf_eq_ok made).2.2.1⟩

theorem stock_name (kept : x.Kept) (kc : Key × String) : kept.stock.name kc = kc.1.name := rfl

theorem stock_key (kept : x.Kept) (kc : Key × String) :
    kept.stock.key kc = ⟨kc.1.kind, Name.normalize kc.1.name⟩ := rfl

theorem entries_eq (kept : x.Kept) (answers : x.check = .ok ()) : x.entries = kept.stock.list := by
  funext kind
  rw [entries, answers, ok_bind]
  rfl

theorem mem_elements (kept : x.Kept) {kc : Key × String} : kc ∈ kept.stock.elements ↔ kc ∈ x.contents :=
  mem_mergeSort

theorem coherent_iff (kept : x.Kept) (answers : x.check = .ok ()) : Coherent x.entries x.content ↔
      ∀ kc ∈ x.contents, (∃ e, entryOf kc = .ok e) ∧ Name.normalize kc.1.name = kc.1.name := by
  rw [kept.entries_eq answers, Stock.coherent_iff]
  constructor
  · rintro ⟨entries, nodup, agrees⟩
    have stable := Stock.stable_of_found nodup fun kc hkc => by
      obtain ⟨c, fetched, -⟩ := agrees kc hkc
      obtain ⟨-, found⟩ := content_eq_ok_iff.1 fetched
      refine ⟨(⟨kc.1.kind, Name.normalize kc.1.name⟩, c), kept.mem_elements.2 (mem_of_get? found), rfl, ?_⟩
      rw [kept.stock_name, kept.stock_name]
    intro kc hkc
    exact ⟨entries kc (kept.mem_elements.2 hkc), stable kc (kept.mem_elements.2 hkc)⟩
  · intro h
    have tidy : x.Tidy := ⟨kept.nodup, fun kc hkc => (h kc hkc).2⟩
    have keys (kc : Key × String) (hkc : kc ∈ x.contents) : kept.stock.key kc = kc.1 := by
      rw [kept.stock_key, tidy.normal kc hkc]
    refine ⟨fun kc hkc => (h kc (kept.mem_elements.1 hkc)).1, ?_, fun kc hkc => ?_⟩
    · have same : kept.stock.elements.map kept.stock.key = x.sorted.map (·.1) :=
        map_congr_left fun kc hkc => keys kc (kept.mem_elements.1 hkc)
      rw [same]
      exact (((mergeSort_perm x.contents _).map _).nodup_iff).2 kept.nodup
    · have hkc := kept.mem_elements.1 hkc
      refine ⟨kc.2, content_eq_ok_iff.2 ⟨answers, ?_⟩, rfl⟩
      rw [keys kc hkc]
      exact tidy.get?_of_mem hkc

end Kept

end Shelf

namespace Folder

variable {f : Folder} {t : FileTree} {kind : Kind} {n : String}

/-- The folder is there, and all element files in the folders of the kinds can be read. -/
structure Readable (f : Folder) (t : FileTree) : Prop where
  root : t.exists? f.root = .ok true
  folders : ∀ kind, ∃ there, t.isFolder (f.folderOf kind) = .ok there
  files : ∀ kind, ∀ n ∈ f.elementNames t kind, ∃ c, f.HasFile t kind n c

/-- The element files of a kind have different normal names, which stay as they are when made normal again,
and it is no error to look for their files. -/
structure WellNamed (f : Folder) (t : FileTree) (kind : Kind) : Prop where
  unique : ((f.elementNames t kind).map Name.normalize).Nodup
  stable : ∀ n ∈ f.elementNames t kind, Name.normalize (Name.normalize n) = Name.normalize n
  sought : ∀ n ∈ f.elementNames t kind,
    ∃ there, t.exists? ((f.folderOf kind).join (Name.normalize n ++ ".md")) = .ok there

def textOf (f : Folder) (t : FileTree) (x : Kind × String) : String :=
  (readText t ((f.folderOf x.1).join x.2)).toOption.getD ""

def filesOf (f : Folder) (t : FileTree) (kinds : List Kind) : List (Kind × String) :=
  kinds.flatMap fun kind => (f.elementNames t kind).map (kind, ·)

theorem mem_filesOf {kinds : List Kind} {x : Kind × String} :
    x ∈ f.filesOf t kinds ↔ x.1 ∈ kinds ∧ x.2 ∈ f.elementNames t x.1 := by
  obtain ⟨kind, n⟩ := x
  simp [filesOf]

theorem HasFile.textOf {c : String} (h : f.HasFile t kind n c) : f.textOf t (kind, n) = c := by
  rw [Folder.textOf, h.text]
  rfl

theorem Readable.readText (h : f.Readable t) (listed : n ∈ f.elementNames t kind) :
    readText t ((f.folderOf kind).join n) = .ok (f.textOf t (kind, n)) := by
  obtain ⟨c, file⟩ := h.files kind n listed
  rw [file.text, file.textOf]

theorem stands_of_mem (listed : n ∈ f.elementNames t kind) : ∃ spot, f.Stands t kind spot := by
  have inside := (mem_filter.1 (mem_mergeSort.1 listed)).1
  rw [FileTree.namesIn] at inside
  split at inside
  · next spot place =>
    split at inside
    · next folder =>
      refine ⟨spot, place, ?_⟩
      rw [FileTree.isFolderAt] at folder
      split at folder
      · assumption
      · cases folder
    · cases inside
  · cases inside

theorem isFolder_of_stands {spot : List String} (h : f.Stands t kind spot) :
    t.isFolder (f.folderOf kind) = .ok true := by
  rw [FileTree.isFolder, FileTree.look_of_place h.place, ok_bind, h.folder]
  rfl

namespace Readable

theorem entriesOf_eq (h : f.Readable t) {names : List String} (listed : ∀ n ∈ names, n ∈ f.elementNames t kind) :
    (f.entriesOf t kind names).2 = (names.map (kind, ·)).mapM fun x => entryOf x.1 x.2 (f.textOf t x) := by
  induction names with
  | nil => rfl
  | cons n names ih =>
    rw [entriesOf, h.readText (listed n (.head _)), map_cons, mapM_cons]
    dsimp only
    cases made : entryOf kind n (f.textOf t (kind, n)) with
    | error e => rfl
    | ok e =>
      rw [ok_bind, ← ih fun m hm => listed m (mem_cons_of_mem n hm)]
      cases (f.entriesOf t kind names).2 <;> rfl

theorem loadKinds_eq (h : f.Readable t) (kinds : List Kind) :
    (f.loadKinds t kinds).2 = (f.filesOf t kinds).mapM fun x => entryOf x.1 x.2 (f.textOf t x) := by
  induction kinds with
  | nil => rfl
  | cons kind kinds ih =>
    obtain ⟨there, folder⟩ := h.folders kind
    have whole : f.filesOf t (kind :: kinds) = (f.elementNames t kind).map (kind, ·) ++ f.filesOf t kinds := rfl
    rw [loadKinds, folder, whole, mapM_append, ← ih, ← h.entriesOf_eq fun n (hn : n ∈ f.elementNames t kind) => hn]
    cases there with
    | false =>
      have none : f.elementNames t kind = [] := by
        refine eq_nil_iff_forall_not_mem.2 fun n hn => ?_
        obtain ⟨spot, stands⟩ := stands_of_mem hn
        rw [isFolder_of_stands stands] at folder
        cases folder
      rw [none]
      cases (f.loadKinds t kinds).2 <;> rfl
    | true =>
      dsimp only
      rcases f.entriesOf t kind (f.elementNames t kind) with ⟨lines, _ | es⟩
      · rfl
      · cases (f.loadKinds t kinds).2 <;> rfl

theorem entry_facts {x : Kind × String} {c : String} {e : Entry} (h : entryOf x.1 x.2 c = .ok e) :
    e.key = Key.of x.1 (Name.normalize x.2) ∧ ∃ d, Digest.ofContent c = .ok d ∧ e.digest = .text d := by
  obtain ⟨blob, -, h⟩ := bind_eq_ok.1 h
  obtain ⟨e', made, h⟩ := bind_eq_ok.1 h
  obtain rfl := Except.ok.inj h
  obtain ⟨key, -, digest, -⟩ := Entry.ofContent_eq_ok made
  exact ⟨key, digest⟩

def stock (_ : f.Readable t) : Stock (Kind × String) where
  elements := f.filesOf t Kind.all
  kind x := x.1
  name x := Name.normalize x.2
  content := f.textOf t
  entry x := entryOf x.1 x.2 (f.textOf t x)
  normal x _ := ⟨x.2, rfl⟩
  entry_eq_ok := entry_facts

theorem stock_name (h : f.Readable t) (x : Kind × String) : h.stock.name x = Name.normalize x.2 := rfl

theorem stock_key (h : f.Readable t) (x : Kind × String) :
    h.stock.key x = ⟨x.1, Name.normalize (Name.normalize x.2)⟩ := rfl

theorem mem_elements (h : f.Readable t) {x : Kind × String} :
    x ∈ h.stock.elements ↔ x.2 ∈ f.elementNames t x.1 := by
  have all : x.1 ∈ Kind.all := by cases x.1 <;> decide
  exact mem_filesOf.trans (and_iff_right all)

theorem filter_filesOf (f : Folder) (t : FileTree) (kind : Kind) :
    ((f.filesOf t Kind.all).filter fun x => kind == x.1) = f.filesOf t [kind] := by
  have one (kind' : Kind) : ((f.elementNames t kind').map (kind', ·)).filter (fun x => kind == x.1) =
      if kind = kind' then (f.elementNames t kind).map (kind, ·) else [] := by
    split
    · next same =>
      subst same
      exact filter_eq_self.2 fun x hx => by obtain ⟨n, -, rfl⟩ := mem_map.1 hx; simp
    · next other =>
      refine filter_eq_nil_iff.2 fun x hx => ?_
      obtain ⟨n, -, rfl⟩ := mem_map.1 hx
      simpa using other
  rw [filesOf, filter_flatMap]
  simp only [one]
  cases kind <;> simp [Kind.all, filesOf]

theorem load_eq (h : f.Readable t) : (fun kind => (f.load t kind).2) = h.stock.list := by
  funext kind
  rw [load, h.root]
  rw [h.loadKinds_eq, Stock.list]
  cases kind with
  | none => exact congrArg _ (filter_eq_self.2 fun _ _ => rfl).symm
  | some kind => exact congrArg _ (filter_filesOf f t kind).symm

theorem mem_of_exists (file : IsFileName n) {spot : List String} (stands : f.Stands t kind spot)
    (h : t.exists? ((f.folderOf kind).join n) = .ok true) : n ∈ f.elementNames t kind := by
  obtain ⟨item, looked, found⟩ := bind_eq_ok.1 h
  have there : item.isSome = true := Except.ok.inj found
  cases placed : t.place ((f.folderOf kind).join n) with
  | error e =>
    rw [FileTree.look, placed] at looked
    split at looked
    · next fault => cases fault
    · cases looked
    · cases looked
      cases there
  | ok spot' =>
    rw [FileTree.look_of_place placed] at looked
    obtain rfl := Except.ok.inj looked
    obtain ⟨-, -, -, rfl⟩ := (stands.place_join file).1 placed
    have names : t.namesIn (f.folderOf kind) = t.names spot := by
      rw [FileTree.namesIn, stands.place]
      simp [FileTree.isFolderAt, stands.folder]
    rw [elementNames, mem_mergeSort, foundNames, names]
    exact mem_filter.2 ⟨FileTree.mem_names there, file.extension⟩

theorem fetch_eq_ok (h : f.Readable t) (listed : n ∈ f.elementNames t kind)
    (unique : ((f.elementNames t kind).map Name.normalize).Nodup) {there : Bool}
    (sought : t.exists? ((f.folderOf kind).join (Name.normalize n ++ ".md")) = .ok there) :
    f.fetch t ⟨kind, Name.normalize n⟩ = .ok (f.textOf t (kind, n)) := by
  obtain ⟨spot, stands⟩ := stands_of_mem listed
  obtain ⟨c, file⟩ := h.files kind n listed
  have only {m : String} (other : m ∈ f.elementNames t kind) (same : Name.normalize m = Name.normalize n) :
      m = n := inj_on_of_nodup_map unique other listed same
  have path : f.pathFor t ⟨kind, Name.normalize n⟩ = .ok ((f.folderOf kind).join n) := by
    rw [pathFor]
    dsimp only [Key.filename]
    rw [sought, ok_bind, isFolder_of_stands stands, ok_bind]
    cases there with
    | true =>
      have canonical : IsFileName (Name.normalize n ++ ".md") :=
        isFileName_filename (k := ⟨kind, Name.normalize n⟩) fun slash =>
          file.name.step (Name.slash_mem_normalize.1 slash)
      rw [only (mem_of_exists canonical stands sought) (Name.normalize_extension n)]
      rfl
    | false =>
      have found : ∃ m, (f.foundNames t kind).find? (Name.normalize · == Name.normalize n) = some m :=
        Option.isSome_iff_exists.1 (List.find?_isSome.2 ⟨n, mem_mergeSort.1 listed, beq_self_eq_true _⟩)
      obtain ⟨m, found⟩ := found
      have same : Name.normalize m = Name.normalize n := by simpa using List.find?_some found
      rw [if_neg (by decide), found, only (mem_mergeSort.2 (mem_of_find?_eq_some found)) same]
      rfl
  rw [fetch, path, ok_bind, h.readText listed]
  rfl

theorem nodup_key_iff (h : f.Readable t) : (h.stock.elements.map h.stock.key).Nodup ↔
    ∀ kind, ((f.elementNames t kind).map fun n => Name.normalize (Name.normalize n)).Nodup := by
  have whole : h.stock.elements.map h.stock.key = Kind.all.flatMap fun kind =>
      (f.elementNames t kind).map fun n => (⟨kind, Name.normalize (Name.normalize n)⟩ : Key) := by
    show (f.filesOf t Kind.all).map h.stock.key = _
    rw [filesOf, map_flatMap]
    simp only [map_map]
    rfl
  have part (kind : Kind) : ((f.elementNames t kind).map fun n =>
      (⟨kind, Name.normalize (Name.normalize n)⟩ : Key)).Nodup ↔
      ((f.elementNames t kind).map fun n => Name.normalize (Name.normalize n)).Nodup := by
    simp only [List.Nodup, pairwise_map, ne_eq, Key.mk.injEq, true_and]
  rw [whole, nodup_flatMap]
  constructor
  · rintro ⟨each, -⟩ kind
    exact (part kind).1 (each kind (by cases kind <;> decide))
  · intro each
    refine ⟨fun kind _ => (part kind).2 (each kind), ?_⟩
    have kinds : Kind.all.Pairwise (· ≠ ·) := by decide
    refine kinds.imp fun {a b} other => ?_
    intro k ha hb
    obtain ⟨n, -, rfl⟩ := mem_map.1 ha
    obtain ⟨m, -, same⟩ := mem_map.1 hb
    exact other (congrArg Key.kind same).symm

theorem coherent_iff (h : f.Readable t) : Coherent (fun kind => (f.load t kind).2) (f.fetch t) ↔
      ∀ kind, (∀ n ∈ f.elementNames t kind, ∃ e, entryOf kind n (f.textOf t (kind, n)) = .ok e) ∧
        f.WellNamed t kind := by
  rw [h.load_eq, Stock.coherent_iff, h.nodup_key_iff]
  constructor
  · rintro ⟨entries, nodup, agrees⟩
    have found (x : Kind × String) (hx : x ∈ h.stock.elements) :
        (∃ n ∈ f.elementNames t x.1, Name.normalize n = Name.normalize (Name.normalize x.2)) ∧
          ∃ there, t.exists? ((f.folderOf x.1).join (Name.normalize (Name.normalize x.2) ++ ".md")) =
            .ok there := by
      obtain ⟨c, fetched, -⟩ := agrees x hx
      obtain ⟨spot, stands⟩ := stands_of_mem (h.mem_elements.1 hx)
      obtain ⟨c', file⟩ := h.files x.1 x.2 (h.mem_elements.1 hx)
      have slash : '/' ∉ (Name.normalize (Name.normalize x.2)).toList := fun inside =>
        file.name.step (Name.slash_mem_normalize.1 (Name.slash_mem_normalize.1 inside))
      have made : ∃ s, Name.normalize (Name.normalize x.2) = Name.normalize s := ⟨_, rfl⟩
      obtain ⟨n, file', name, sought, -⟩ :=
        exists_of_fetch (k := ⟨x.1, Name.normalize (Name.normalize x.2)⟩) made slash fetched
      exact ⟨⟨n, stands.mem_elementNames file', name⟩, sought⟩
    have stable := Stock.stable_of_found (h.nodup_key_iff.2 nodup) fun x hx => by
      obtain ⟨⟨n, listed, name⟩, -⟩ := found x hx
      refine ⟨(x.1, n), h.mem_elements.2 listed, rfl, ?_⟩
      rw [h.stock_name, h.stock_name, name]
    intro kind
    have normal (n : String) (hn : n ∈ f.elementNames t kind) :
        Name.normalize (Name.normalize n) = Name.normalize n := by
      have same := stable (kind, n) (h.mem_elements.2 hn)
      rwa [h.stock_name] at same
    refine ⟨fun n hn => entries (kind, n) (h.mem_elements.2 hn), ?_, normal, fun n hn => ?_⟩
    · have same : (f.elementNames t kind).map (fun n => Name.normalize (Name.normalize n)) =
          (f.elementNames t kind).map Name.normalize := map_congr_left normal
      exact same ▸ nodup kind
    · have sought := (found (kind, n) (h.mem_elements.2 hn)).2
      rwa [normal n hn] at sought
  · intro good
    refine ⟨fun x hx => (good x.1).1 x.2 (h.mem_elements.1 hx), fun kind => ?_, fun x hx => ?_⟩
    · have same : (f.elementNames t kind).map (fun n => Name.normalize (Name.normalize n)) =
          (f.elementNames t kind).map Name.normalize :=
        map_congr_left fun n hn => (good kind).2.stable n hn
      rw [same]
      exact (good kind).2.unique
    · have listed := h.mem_elements.1 hx
      obtain ⟨there, sought⟩ := (good x.1).2.sought x.2 listed
      refine ⟨_, ?_, rfl⟩
      rw [h.stock_key, (good x.1).2.stable x.2 listed]
      exact h.fetch_eq_ok listed (good x.1).2.unique sought

end Readable

end Folder

end TriStore
