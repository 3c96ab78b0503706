import TriStore.Proofs.PlannedCopies
import TriStore.Proofs.SearchMatches

/-!
Which contents and items have an entry that a search can deal with; a field may hold any value.
-/
namespace TriStore
open List

def Value.IsText (v : Value) : Prop := ∃ s, v = .text s

/-- An entry that can be held against every query, and its version against others. -/
structure Entry.Sound (e : Entry) : Prop where
  name : e.name.IsText
  path : e.path.IsText
  description : e.description.IsText
  tags : ∀ t ∈ e.tags, t.IsText
  version : Version.check e.version = .ok ()

section Contents

variable {v : Value} {s content : String} {vs ts : List Value}

/-- A field that is left out, or whose value can be shown. -/
def Header.Shows (v : Option Value) : Prop := ∀ x, v = some x → x.isWritable = true

/-- Tags that are left out, a text, or members that can be shown. -/
def Header.TagsFit (v : Option Value) : Prop :=
  ∀ x, v = some x → x.isGiven = true → x.IsText ∨ ∃ vs, x.opened.members? = some vs ∧ ∀ t ∈ vs, t.isWritable = true

structure Header.Fits (fields : Value) : Prop where
  version : Shows (fields.field? "version")
  description : Shows (fields.field? "description")
  tags : TagsFit (fields.field? "tags")
  author : Shows (fields.field? "author")
  numbers : Version.check (Entry.textOf (fields.field? "version")) = .ok ()

/-- Content that can be encoded, under a header whose fields fit. -/
def Describable (content : String) : Prop :=
  Digest.Encodes content ∧ ∃ fields, Header.fields content = .ok fields ∧ Header.Fits fields

section Decisions

instance (v : Value) : Decidable v.IsText :=
  decidable_of_iff (v.isText = true) (by cases v <;> simp [Value.isText, Value.IsText])

instance (v : Option Value) : Decidable (Header.Shows v) := decidable_of_iff _ (Option.all_eq_true Value.isWritable v)

instance (v : Option Value) : Decidable (Header.TagsFit v) :=
  decidable_of_iff (v.all fun x => !x.isGiven || decide x.IsText || x.opened.members?.any (·.all Value.isWritable)) <| by
    rw [Header.TagsFit, Option.all_eq_true]
    refine forall₂_congr fun x _ => ?_
    cases x.isGiven <;> simp [Option.any_eq_true]

instance (fields : Value) : Decidable (Header.Fits fields) :=
  decidable_of_iff (Header.Shows (fields.field? "version") ∧ Header.Shows (fields.field? "description") ∧
      Header.TagsFit (fields.field? "tags") ∧ Header.Shows (fields.field? "author") ∧
      Version.check (Entry.textOf (fields.field? "version")) = .ok ())
    ⟨fun ⟨version, description, tags, author, numbers⟩ => ⟨version, description, tags, author, numbers⟩,
      fun h => ⟨h.version, h.description, h.tags, h.author, h.numbers⟩⟩

instance (content : String) : Decidable (Describable content) := inferInstanceAs
  (Decidable ((∃ bs, Digest.bytesOf content = .ok bs) ∧ ∃ fields, Header.fields content = .ok fields ∧ Header.Fits fields))

end Decisions

theorem checkWritable_eq_ok_iff {u : Unit} : v.checkWritable = .ok u ↔ v.isWritable = true := by
  unfold Value.checkWritable
  split
  · next short => simp [short]
  · next long => simp [long]

theorem Entry.writtenText_eq_ok_iff {v : Option Value} : writtenText v = .ok s ↔ Header.Shows v ∧ textOf v = s := by
  cases v with
  | none => simp [writtenText, Header.Shows, pure, Except.pure]
  | some x =>
    have unfolded : writtenText (some x) = x.checkWritable >>= fun _ => .ok (textOf (some x)) := rfl
    simp [unfolded, bind_eq_ok, checkWritable_eq_ok_iff, Header.Shows]

theorem written_eq_ok_iff : v.written = .ok s ↔ v.isWritable = true ∧ v.display = s := by
  have unfolded : v.written = v.checkWritable >>= fun _ => .ok v.display := rfl
  simp [unfolded, bind_eq_ok, checkWritable_eq_ok_iff]

theorem mapM_written_iff :
    (∃ ts, (vs.mapM fun t => do return Value.text (← t.written)) = .ok ts) ↔ ∀ t ∈ vs, t.isWritable = true := by
  constructor
  · rintro ⟨ts, made⟩ t ht
    obtain ⟨v, -, one⟩ := (mapM_eq_ok made).1 t ht
    obtain ⟨s, shown, -⟩ := bind_eq_ok.1 one
    exact (written_eq_ok_iff.1 shown).1
  · intro short
    exact exists_mapM_eq_ok fun t ht => ⟨_, bind_eq_ok.2 ⟨_, written_eq_ok_iff.2 ⟨short t ht, rfl⟩, rfl⟩⟩

theorem isText_of_mapM_written
    (made : (vs.mapM fun t => do return Value.text (← t.written)) = .ok ts) : ∀ t ∈ ts, t.IsText := by
  intro t ht
  obtain ⟨v, -, one⟩ := (mapM_eq_ok made).2 t ht
  obtain ⟨s, -, same⟩ := bind_eq_ok.1 one
  exact ⟨s, (Except.ok.inj same).symm⟩

theorem Header.tags_of_isText (given : v.isGiven = true) (is : v.IsText) :
    ∃ ts, tags (some v) = .ok ts ∧ ∀ t ∈ ts, t.IsText := by
  obtain ⟨s, rfl⟩ := is
  refine ⟨_, by rw [tags, given]; rfl, fun t ht => ?_⟩
  obtain ⟨part, -, rfl⟩ := mem_map.1 ht
  exact ⟨_, rfl⟩

theorem Header.tags_of_not_isText (given : v.isGiven = true) (not : ¬v.IsText) :
    tags (some v) = Entry.membersOf v.opened >>= (·.mapM fun t => do return Value.text (← t.written)) := by
  cases v with
  | text s => exact absurd ⟨s, rfl⟩ not
  | _ => simp only [tags, given]; rfl

theorem Header.exists_tags_iff {v : Option Value} : (∃ ts, tags v = .ok ts) ↔ TagsFit v := by
  cases v with
  | none => simp [tags, TagsFit]
  | some x =>
    simp only [TagsFit, Option.some.injEq, forall_eq']
    by_cases given : x.isGiven = true
    · by_cases is : x.IsText
      · obtain ⟨ts, made, -⟩ := tags_of_isText given is
        exact ⟨fun _ _ => .inl is, fun _ => ⟨ts, made⟩⟩
      · simp only [given, is, tags_of_not_isText given is, bind_eq_ok, Entry.membersOf, forall_const, false_or]
        cases x.opened.members? with
        | none => simp
        | some vs => simpa using mapM_written_iff
    · exact ⟨fun _ is => absurd is given, fun _ => ⟨[], by simp [tags, given]⟩⟩

theorem Header.isText_of_tags {v : Option Value} (made : tags v = .ok ts) : ∀ t ∈ ts, t.IsText := by
  cases v with
  | none => cases made; simp
  | some x =>
    by_cases given : x.isGiven = true
    · by_cases is : x.IsText
      · obtain ⟨ts', made', texts⟩ := tags_of_isText given is
        cases made.symm.trans made'
        exact texts
      · rw [tags_of_not_isText given is] at made
        obtain ⟨vs, -, made⟩ := bind_eq_ok.1 made
        exact isText_of_mapM_written made
    · simp only [tags, given] at made
      cases made
      simp

theorem exists_ofContent_digest_iff : (∃ d, Digest.ofContent content = .ok d) ↔ Digest.Encodes content := by
  unfold Digest.ofContent Digest.Encodes
  cases Digest.bytesOf content <;> simp [Except.map]

theorem Describable.exists_entry (h : Describable content) (key : Key) (path revision : Value) :
    ∃ e, Entry.ofContent key content path revision = .ok e ∧
      e.path = (if path.isGiven then path else .text key.path) ∧ (path.IsText → e.Sound) := by
  obtain ⟨encodes, fields, read, fits⟩ := h
  obtain ⟨tags, tagged⟩ := Header.exists_tags_iff.2 fits.tags
  obtain ⟨digest, digested⟩ := exists_ofContent_digest_iff.2 encodes
  obtain ⟨blob, stored⟩ := Digest.blob_eq_ok_iff.2 encodes
  have shown {v : Option Value} (shows : Header.Shows v) := Entry.writtenText_eq_ok_iff.2 ⟨shows, rfl⟩
  simp only [Entry.ofContent, bind_eq_ok]
  refine ⟨_, ⟨fields, read, _, shown fits.version, _, shown fits.description, tags, tagged, _, shown fits.author,
    digest, digested, blob, stored, rfl⟩, rfl, fun text => ?_⟩
  refine ⟨⟨_, rfl⟩, ?_, ⟨_, rfl⟩, Header.isText_of_tags tagged, fits.numbers⟩
  split
  · exact text
  · exact ⟨_, rfl⟩

theorem describable_of_entry {key : Key} {path revision : Value} {e : Entry}
    (made : Entry.ofContent key content path revision = .ok e) (numbers : Version.check e.version = .ok ()) :
    Describable content := by
  simp only [Entry.ofContent, bind_eq_ok] at made
  obtain ⟨fields, read, _, version, _, description, _, tags, _, author, _, digest, _, -, made⟩ := made
  obtain rfl := Except.ok.inj made
  obtain ⟨shows, rfl⟩ := Entry.writtenText_eq_ok_iff.1 version
  exact ⟨exists_ofContent_digest_iff.1 ⟨_, digest⟩, fields, read, shows,
    (Entry.writtenText_eq_ok_iff.1 description).1, Header.exists_tags_iff.1 ⟨_, tags⟩,
    (Entry.writtenText_eq_ok_iff.1 author).1, numbers⟩

theorem describable_iff (key : Key) (path : String) (revision : Value) :
    Describable content ↔ ∃ e, Entry.ofContent key content (.text path) revision = .ok e ∧ e.Sound := by
  constructor
  · intro h
    obtain ⟨e, made, -, sound⟩ := h.exists_entry key (.text path) revision
    exact ⟨e, made, sound ⟨_, rfl⟩⟩
  · rintro ⟨e, made, sound⟩
    exact describable_of_entry made sound.version

end Contents

section Items

theorem exists_mapM_bind {α β γ ε : Type} {f : α → Except ε β} {g : List β → Except ε γ} {l : List α} {Q : γ → Prop}
    (one : ∀ a ∈ l, ∃ b, f a = .ok b) (rest : ∀ bs, l.mapM f = .ok bs → ∃ c, g bs = .ok c ∧ Q c) :
    ∃ c, (l.mapM f >>= g) = .ok c ∧ Q c := by
  obtain ⟨bs, made⟩ := exists_mapM_eq_ok one
  rw [made]
  exact rest bs made

namespace Catalog

/-- An item that counts, with a name and a known kind, has a path that is a text and names it, or a name that
is a text, and a version that can be read. -/
def ItemFits (group item : Value) : Prop :=
  let name := (item.field? "name").getD .null
  let kind := firstGiven ((item.field? "type").getD .null) group
  item.isMap = true → name.isGiven = true → kind.IsText ∧ ∀ k, Kind.ofValue kind = .ok k →
    ∃ path, (item.field? "path").getD (.text "") = .text path ∧
      ((Text.afterLast '/' path).isEmpty = true → name.IsText) ∧
        Version.check (Entry.textOf (item.field? "version")) = .ok ()

theorem isText_of_mem_tagsOf {v t : Value} (ht : t ∈ tagsOf v) : t.IsText := by
  unfold tagsOf at ht
  split at ht
  · obtain ⟨u, -, rfl⟩ := mem_map.1 ht
    exact ⟨_, rfl⟩
  · cases ht

theorem entryOf_sound (kind : Kind) {name item : Value} {path : String}
    (place : (item.field? "path").getD (.text "") = .text path)
    (named : (Text.afterLast '/' path).isEmpty = true → name.IsText)
    (numbers : Version.check (Entry.textOf (item.field? "version")) = .ok ()) :
    ∃ e, entryOf kind name item = .ok e ∧ e.Sound := by
  have called : ∃ n, nameOfValue (if (Text.afterLast '/' path).isEmpty then name
      else .text (Text.afterLast '/' path)) = .ok n := by
    split
    · next empty =>
      obtain ⟨n, rfl⟩ := named empty
      exact ⟨n, rfl⟩
    · exact ⟨_, rfl⟩
  obtain ⟨n, called⟩ := called
  refine ⟨_, by
    unfold entryOf
    rw [place]
    dsimp only
    rw [called, ok_bind]
    rfl, ?_⟩
  exact ⟨⟨_, rfl⟩, ⟨_, rfl⟩, ⟨_, rfl⟩, fun t => isText_of_mem_tagsOf, numbers⟩

theorem entryOf?_sound {group item : Value} (fits : ItemFits group item) :
    ∃ found, entryOf? group item = .ok found ∧ ∀ e, found = some e → e.Sound := by
  have none : ∃ found : Option Entry, (Except.ok none : Except Failure (Option Entry)) = .ok found ∧
      ∀ e, found = some e → e.Sound := ⟨none, rfl, fun e same => by cases same⟩
  cases item with
  | map kvs =>
    unfold entryOf?
    by_cases given : (((Value.map kvs).field? "name").getD .null).isGiven = true
    · obtain ⟨⟨s, text⟩, known⟩ := fits rfl given
      simp only [given, text, Kind.ofValue] at known ⊢
      cases kind : Kind.ofText s with
      | ok k =>
        obtain ⟨path, place, named, numbers⟩ := known k kind
        obtain ⟨e, made, sound⟩ := entryOf_sound k place named numbers
        refine ⟨some e, ?_, fun e' same => Option.some.inj same ▸ sound⟩
        simp [made, bind, Except.bind, pure, Except.pure]
      | error cause =>
        unfold Kind.ofText at kind
        split at kind
        · cases kind
        · cases kind
          exact none
    · simp only [given]
      exact none
  | _ => exact none

theorem entries_sound {document : Value} (fits : ∀ x ∈ itemsOf document, ItemFits x.1 x.2) :
    ∃ es, entries document = .ok es ∧ ∀ e ∈ es, e.Sound := by
  cases document with
  | map kvs =>
    refine exists_mapM_bind (fun x hx => (entryOf?_sound (fits x hx)).imp fun _ h => h.1)
      fun found made => ⟨_, rfl, fun e he => ?_⟩
    obtain ⟨one, listed, same⟩ := mem_filterMap.1 he
    obtain ⟨x, hx, one_eq⟩ := (mapM_eq_ok made).2 one listed
    obtain ⟨one', one_eq', sound⟩ := entryOf?_sound (fits x hx)
    cases one_eq.symm.trans one_eq'
    exact sound e same
  | _ => exact ⟨[], rfl, by simp⟩

end Catalog

end Items

section Files

variable {f : Folder} {t : FileTree}

/-- A folder that can be looked at, in which every legible element file is describable. -/
structure Folder.Tame (f : Folder) (t : FileTree) : Prop where
  root : ∃ there, t.exists? f.root = .ok there
  folders : ∀ kind, ∃ there, t.isFolder (f.folderOf kind) = .ok there
  files : ∀ kind, ∀ name ∈ f.elementNames t kind, ∀ content,
    Folder.readText t ((f.folderOf kind).join name) = .ok content → Describable content

theorem Shelf.entries_sound {y : Shelf} (answers : y.check = .ok ())
    (describable : ∀ kc ∈ y.contents, Describable kc.2) (kind : Option Kind) :
    ∃ es, y.entries kind = .ok es ∧ ∀ e ∈ es, e.Sound := by
  have sound : ∀ kc ∈ y.sorted.filter (fun kc => kind.all (· == kc.1.kind)), ∃ e, entryOf kc = .ok e ∧ e.Sound := by
    intro kc hkc
    have mem : kc ∈ y.contents := by simpa [sorted] using (mem_filter.1 hkc).1
    exact (describable_iff kc.1 "" (.text "")).1 (describable kc mem)
  obtain ⟨es, listed⟩ := exists_mapM_eq_ok fun kc hkc => (sound kc hkc).imp fun _ h => h.1
  refine ⟨es, by rw [entries, answers, ok_bind, listed], fun e he => ?_⟩
  obtain ⟨kc, hkc, made⟩ := (mapM_eq_ok listed).2 e he
  obtain ⟨e', made', sound⟩ := sound kc hkc
  exact Except.ok.inj (made.symm.trans made') ▸ sound

namespace Folder

theorem entryOf_sound {content : String} (h : Describable content) (kind : Kind) (name : String) :
    ∃ e, entryOf kind name content = .ok e ∧ e.Sound := by
  obtain ⟨blob, stored⟩ := Digest.blob_eq_ok_iff.2 h.1
  obtain ⟨e, made, sound⟩ := (describable_iff (Key.of kind name) (kind.label ++ "/" ++ name) (.text blob)).1 h
  refine ⟨{ e with modified := some .file }, ?_, sound.name, sound.path, sound.description, sound.tags, sound.version⟩
  rw [entryOf, stored, ok_bind, made]
  rfl

theorem entriesOf_sound {kind : Kind} {names : List String}
    (h : ∀ name ∈ names, ∀ content, readText t ((f.folderOf kind).join name) = .ok content → Describable content) :
    ∃ es, (f.entriesOf t kind names).2 = .ok es ∧ ∀ e ∈ es, e.Sound := by
  induction names with
  | nil => exact ⟨[], rfl, by simp⟩
  | cons name rest ih =>
    obtain ⟨es, made, sound⟩ := ih fun n hn => h n (mem_cons_of_mem name hn)
    unfold entriesOf
    dsimp only
    cases read : readText t ((f.folderOf kind).join name) with
    | error cause => exact ⟨es, made, sound⟩
    | ok content =>
      obtain ⟨e, first, sound'⟩ := entryOf_sound (h name (.head _) content read) kind name
      simp only [first, made]
      exact ⟨e :: es, rfl, forall_mem_cons.2 ⟨sound', sound⟩⟩

theorem loadKinds_sound (h : f.Tame t) (kinds : List Kind) :
    ∃ es, (f.loadKinds t kinds).2 = .ok es ∧ ∀ e ∈ es, e.Sound := by
  induction kinds with
  | nil => exact ⟨[], rfl, by simp⟩
  | cons kind kinds ih =>
    obtain ⟨es, made, sound⟩ := ih
    obtain ⟨there, looked⟩ := h.folders kind
    unfold loadKinds
    cases there with
    | false =>
      rw [looked]
      exact ⟨es, made, sound⟩
    | true =>
      obtain ⟨first, read, sound'⟩ := entriesOf_sound (h.files kind)
      rw [looked]
      cases listed : f.entriesOf t kind (f.elementNames t kind) with | mk lines r => ?_
      rw [listed] at read
      cases read
      simp only [made]
      exact ⟨first ++ es, rfl, forall_mem_append.2 ⟨sound', sound⟩⟩

theorem load_sound (h : f.Tame t) (kind : Option Kind) : ∃ es, (f.load t kind).2 = .ok es ∧ ∀ e ∈ es, e.Sound := by
  obtain ⟨there, looked⟩ := h.root
  unfold load
  rw [looked]
  cases there with
  | false => exact ⟨[], rfl, by simp⟩
  | true => exact loadKinds_sound h _

end Folder

end Files

section Hits

variable {x : Source × String} {order : List Source} {hits : List (Source × List Hit)}

theorem Entry.Sound.exists_texts {e : Entry} (sound : e.Sound) : ∃ t, Relevance.Texts.ofEntry e = .ok t := by
  obtain ⟨name, named⟩ := sound.name
  obtain ⟨path, placed⟩ := sound.path
  obtain ⟨description, described⟩ := sound.description
  obtain ⟨tags, tagged⟩ : ∃ tags, e.tags.mapM Relevance.textOf = .ok tags := by
    refine exists_mapM_eq_ok fun t ht => ?_
    obtain ⟨s, rfl⟩ := sound.tags t ht
    exact ⟨_, rfl⟩
  exact ⟨_, by
    rw [Relevance.Texts.ofEntry, checkName, named, described, placed, tagged]
    rfl⟩

theorem Hit.among_sound {entries : List Entry} (sound : ∀ e ∈ entries, e.Sound) (s : Source) (query : String) :
    ∃ hits, among s query entries = .ok hits ∧ ∀ h ∈ hits, Version.check h.version = .ok () := by
  obtain ⟨hits, found⟩ := exists_among (fun e he => (sound e he).exists_texts) s query
  refine ⟨hits, found, fun h hh => ?_⟩
  obtain ⟨scored, made, sorted⟩ := bind_eq_ok.1 found
  obtain rfl := Except.ok.inj sorted
  obtain ⟨e, he, same⟩ := (mapM_eq_ok made).2 h (mem_filter.1 (mem_mergeSort.1 hh)).1
  obtain ⟨r, -, same⟩ := bind_eq_ok.1 same
  rw [← Except.ok.inj same]
  exact (sound e he).version

theorem Divergence.mem_put {s : Source} {v : String} {l : List (Source × String)}
    (h : x ∈ put s v l) : x = (s, v) ∨ x ∈ l := by
  induction l with
  | nil => exact .inl (by simpa [put] using h)
  | cons y rest ih =>
    unfold put at h
    split at h
    · next same =>
      rcases mem_cons.1 h with rfl | h
      · exact .inl (by rw [eq_of_beq same])
      · exact .inr (.tail _ h)
    · rcases mem_cons.1 h with rfl | h
      · exact .inr (.head _)
      · exact (ih h).imp id (mem_cons_of_mem _)

theorem Divergence.mem_tally {pairs : List (Source × String)} (h : x ∈ tally pairs) : x ∈ pairs := by
  have step (l acc : List (Source × String)) (h : x ∈ l.foldl (fun acc p => put p.1 p.2 acc) acc) :
      x ∈ acc ∨ x ∈ l := by
    induction l generalizing acc with
    | nil => exact .inl h
    | cons y l ih =>
      rcases ih _ h with h | h
      · rcases mem_put h with rfl | h
        · exact .inr (.head _)
        · exact .inl h
      · exact .inr (.tail _ h)
  exact (step pairs [] h).resolve_left (by simp)

theorem Divergence.check_eq_ok_iff {versions : List (Source × String)} :
    check versions order = .ok () ↔ ∀ v ∈ versions, Version.check v.2 = .ok () := by
  have all : (∀ v ∈ candidates versions order, Version.check v.2 = .ok ()) ↔
      ∀ v ∈ versions, Version.check v.2 = .ok () := by simp only [candidates, mem_mergeSort]
  rw [← all]
  unfold check
  split
  · next a b rest listed =>
    rw [listed, forM_eq_ok_iff]
    simp only [forall_mem_cons, and_left_comm]
  · exact forM_eq_ok_iff

theorem Merge.check_eq_ok_iff :
    check order hits = .ok () ↔ ∀ y ∈ inOrder order hits, Version.check y.version = .ok () := by
  rw [check, forM_eq_ok_iff, groups_eq]
  constructor
  · intro checked y hy
    have grouped := checked _ (mem_map.2 ⟨y.key, mem_eraseDups.2 (mem_map_of_mem hy), rfl⟩)
    have each : ((inOrder order hits).filter (·.key == y.key)).forM (fun h => Version.check h.version) = .ok () := by
      dsimp only at grouped
      split at grouped
      · exact (bind_eq_ok.1 grouped).choose_spec.2
      · exact grouped
    exact forM_eq_ok_iff.1 each y (mem_filter.2 ⟨hy, by simp⟩)
  · intro readable group grouped
    obtain ⟨key, -, rfl⟩ := mem_map.1 grouped
    have all : ∀ y ∈ (inOrder order hits).filter (·.key == key), Version.check y.version = .ok () :=
      fun y hy => readable y (mem_filter.1 hy).1
    have versions : ∀ v ∈ Divergence.versionsOf ((inOrder order hits).filter (·.key == key)),
        Version.check v.2 = .ok () := by
      intro v hv
      obtain ⟨y, hy, rfl⟩ := mem_map.1 (Divergence.mem_tally hv)
      exact all y (mem_filter.1 hy).1
    dsimp only
    split
    · rw [Divergence.check_eq_ok_iff.2 versions, ok_bind]
      exact forM_eq_ok_iff.2 all
    · exact forM_eq_ok_iff.2 all

theorem Merge.check_eq_ok (h : ∀ x ∈ hits, ∀ y ∈ x.2, Version.check y.version = .ok ()) (order : List Source) :
    check order hits = .ok () := by
  refine check_eq_ok_iff.2 fun y hy => ?_
  obtain ⟨s, -, listed⟩ := mem_flatMap.1 hy
  cases found : hits.lookup s with
  | none => simp [found] at listed
  | some ys =>
    rw [found] at listed
    obtain ⟨before, after, rfl, -⟩ := lookup_eq_some_iff.1 found
    exact h (s, ys) (by simp) y listed

end Hits

end TriStore
