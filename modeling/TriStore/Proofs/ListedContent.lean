import TriStore.Proofs.HiddenFiles
import TriStore.Proofs.Listing

/-!
What a store lists is what it holds when the keys of its listing are distinct and each fetches what its
entry names.
-/
namespace TriStore
open List

open TriStore.Action

/-- The listing of a store agrees with the contents that it holds. -/
def World.ListsContent (w : World) (s : Source) : Prop :=
  ∃ es, ((listEntries s none).ends w).1 = .ok es ∧ (es.map Entry.key).Nodup ∧ ∀ e ∈ es,
    (∃ c d, ((fetch s e.key).ends w).1 = .ok c ∧ Digest.ofContent c = .ok d ∧ e.digest = .text d) ∧
    ((getEntry s e.key).ends w).1 = .ok (some e)

/-- No listing of the store is kept from before. -/
def World.Unlisted (w : World) (s : Source) : Prop :=
  (w.store s).cached = true → ∀ kind, (w.listings.get w.clock (listingKey s kind)).1 = none

namespace Action

variable {w : World} {s : Source} {kind : Option Kind}

theorem exists_ends_keepListing (s : Source) (kind : Option Kind) (es : List Entry) (w : World) :
    ∃ w', (keepListing s kind es).ends w = (.ok ⟨⟩, w') := by
  let listings := w.listings.set w.clock (listingKey s kind) es
    (Footprint.estimate (Footprint.ofEntries es))
  obtain ⟨w', ends, -⟩ := ends_reportReset w.listings listings.2.1 { w with listings := listings.2.2 }
  refine ⟨w', ?_⟩
  simpa only [keepListing, ends_bind, ends_get, ends_set] using ends

theorem fst_listEntries {r : Except Failure (List Entry)} (unlisted : w.Unlisted s)
    (loads : ∀ w', World.Frame w w' → ((loadEntries s kind).ends w').1 = r) :
    ((listEntries s kind).ends w).1 = r := by
  rw [listEntries, ends_bind_of_ok (ends_get w)]
  split
  · exact loads w (.refl w)
  · next cached =>
    obtain ⟨w₁, looked, settled⟩ := ends_cachedListing s kind w
    rw [unlisted (by simpa using cached) kind] at looked
    rw [ends_bind_of_ok looked]
    have loaded := loads w₁ settled.frame
    rcases ended : (loadEntries s kind).ends w₁ with ⟨e | es, w₂⟩
    · rw [ended] at loaded
      rw [ends_bind_of_error ended]
      exact loaded
    · obtain ⟨w₃, kept⟩ := exists_ends_keepListing s kind es w₂
      rw [ended] at loaded
      rw [ends_bind_of_ok ended, ends_bind_of_ok kept]
      exact loaded

theorem fst_loadEntries_shelf {x : Shelf} (h : (w.store s).backing.still = (Backing.shelf x).still) :
    ((loadEntries s kind).ends w).1 = x.entries kind := by
  obtain ⟨calls, found⟩ := Backing.exists_of_still h
  rw [loadEntries, ends_bind_of_ok (ends_get w), found]
  rw [ends_onShelf]
  rfl

theorem fst_loadEntries_folder {f : Folder} (h : (w.store s).backing = .folder f) :
    ((loadEntries s kind).ends w).1 = (f.load w.disk.files kind).2 := by
  obtain ⟨log, warned⟩ := exists_log_warnAll (f.load w.disk.files kind).1 w
  rw [loadEntries, ends_bind_of_ok (ends_get w), h]
  rw [ends_bind_of_ok (ends_get w), ends_bind_of_ok warned, ends_liftExcept]

theorem fst_getEntry (s : Source) (key : Key) (w : World) : ((getEntry s key).ends w).1 =
      ((listEntries s (some key.kind)).ends w).1.map (·.find? (·.key == key)) := by
  rw [getEntry, bind_pure_comp, ends_map]

theorem fst_fetch_shelf {x : Shelf} (h : (w.store s).backing = .shelf x) (key : Key) :
    ((fetch s key).ends w).1 = x.content key := by
  rw [fetch, ends_bind_of_ok (ends_get w), h]
  rw [ends_onShelf]
  rfl

theorem fst_fetch_folder {f : Folder} (h : (w.store s).backing = .folder f) (key : Key) :
    ((fetch s key).ends w).1 = f.fetch w.disk.files key := by
  rw [fetch, ends_bind_of_ok (ends_get w), h]
  rw [ends_bind_of_ok (ends_get w), ends_liftExcept]

end Action

namespace World

variable {w : World} {s : Source}

theorem listsContent_iff_coherent {list : Option Kind → Except Failure (List Entry)}
    {content : Key → Except Failure String} (lists : ∀ kind, ((listEntries s kind).ends w).1 = list kind)
    (fetches : ∀ key, ((fetch s key).ends w).1 = content key) :
    w.ListsContent s ↔ Coherent list content := by
  unfold ListsContent Coherent
  simp only [fst_getEntry, lists, fetches]

theorem listsContent_shelf_iff (unlisted : w.Unlisted s) {x : Shelf} (h : (w.store s).backing = .shelf x) :
    w.ListsContent s ↔ Coherent x.entries x.content :=
  listsContent_iff_coherent
    (fun _ => fst_listEntries unlisted fun _ frame => fst_loadEntries_shelf (by rw [frame.backing, h]))
    (fst_fetch_shelf h)

theorem listsContent_folder_iff (unlisted : w.Unlisted s) {f : Folder} (h : (w.store s).backing = .folder f) :
    w.ListsContent s ↔ Coherent (fun kind => (f.load w.disk.files kind).2) (f.fetch w.disk.files) := by
  refine listsContent_iff_coherent (fun _ => fst_listEntries unlisted fun w' frame => ?_) (fst_fetch_folder h)
  have same : (w'.store s).backing.still = .folder f := by
    rw [frame.backing, h]
    rfl
  have backing : (w'.store s).backing = .folder f := by
    cases there : (w'.store s).backing with
    | folder f' =>
      rw [there] at same
      exact same
    | _ =>
      rw [there] at same
      cases same
  rw [fst_loadEntries_folder backing, frame.disk]

/-- **When a store lists what it holds.** A shelf that answers does so exactly when each content can be listed
and each name is normal; a folder with legible element files exactly when each can be listed, no two of a kind
have one normal name, no normal name changes when made normal again, and it is no error to look for its file.
-/
theorem lists_content_iff (unlisted : w.Unlisted s) :
    (∀ x, (w.store s).backing = .shelf x → x.Kept → x.check = .ok () → (w.ListsContent s ↔ ∀ kc ∈ x.contents,
        (∃ e, Shelf.entryOf kc = .ok e) ∧ Name.normalize kc.1.name = kc.1.name)) ∧
    ∀ f, (w.store s).backing = .folder f → f.Readable w.disk.files → (w.ListsContent s ↔ ∀ kind,
        (∀ n ∈ f.elementNames w.disk.files kind,
          ∃ e, Folder.entryOf kind n (f.textOf w.disk.files (kind, n)) = .ok e) ∧
        f.WellNamed w.disk.files kind) :=
  ⟨fun _ backing kept answers => (listsContent_shelf_iff unlisted backing).trans (kept.coherent_iff answers),
    fun _ backing readable => (listsContent_folder_iff unlisted backing).trans readable.coherent_iff⟩

def pairedFiles : List (String × String) := [("a.md", ""), ("b.md", "")]

def paired : World :=
  { home := { backing := .folder Folder.atRoot, cached := true }
    remote := { backing := .shelf {
      source := .remote, writable := true, contents := [(⟨.persona, "a"⟩, "x"), (⟨.persona, "b"⟩, "y")] } }
    registry := { backing := .shelf { source := .registry, writable := false } }
    disk := { files := FileTree.withFiles .persona pairedFiles }
    results := { name := .text "search", maxEntries := .whole 1, maxMemory := .whole 1, ttl := none } }

theorem orderly_pairedFiles : Orderly pairedFiles where
  nameable := by
    refine forall_mem_cons.2 ⟨⟨⟨?_, ?_⟩, ?_, ?_⟩, forall_mem_singleton.2 ⟨⟨?_, ?_⟩, ?_, ?_⟩⟩
    all_goals decide +kernel
  legible := forall_mem_cons.2 ⟨.empty, forall_mem_singleton.2 .empty⟩
  sorted := by decide
  nodup := by decide

theorem lists_content_paired : paired.ListsContent .home ∧ paired.ListsContent .remote := by
  have names (kind : Kind) : Folder.atRoot.elementNames paired.disk.files kind =
      if kind = .persona then pairedFiles.map (·.1) else [] := Folder.elementNames_withFiles orderly_pairedFiles _ kind
  have listed {kind : Kind} {n : String} (hn : n ∈ Folder.atRoot.elementNames paired.disk.files kind) :
      n ∈ pairedFiles.map (·.1) ∧ Folder.atRoot.HasFile paired.disk.files kind n "" := by
    rw [names] at hn
    split at hn
    · next same =>
      obtain ⟨x, hx, rfl⟩ := mem_map.1 hn
      have empty : x.2 = "" := by
        rcases mem_cons.1 hx with rfl | hx
        · rfl
        · rw [mem_singleton.1 hx]
      exact ⟨hn, same ▸ empty ▸ Folder.hasFile_withFiles orderly_pairedFiles .persona hx⟩
    · cases hn
  constructor
  · have unlisted : paired.Unlisted .home := fun _ _ => rfl
    refine ((lists_content_iff unlisted).2 _ rfl ⟨rfl, fun kind => ?_, fun kind n hn => ⟨"", (listed hn).2⟩⟩).2 fun kind =>
      ⟨fun n hn => ?_, ?_, fun n hn => ?_, fun n hn => ⟨true, ?_⟩⟩
    · exact ⟨_, FileTree.isFolder_withFiles .persona kind _⟩
    · rw [(listed hn).2.textOf]
      exact Legible.empty.listed _ _
    · rw [names]
      split
      · decide +kernel
      · exact nodup_nil
    · have stable : (pairedFiles.map (·.1)).all
          (fun n => Name.normalize (Name.normalize n) == Name.normalize n) = true := by decide +kernel
      exact eq_of_beq (all_eq_true.1 stable n (listed hn).1)
    · have back : (pairedFiles.map (·.1)).all (fun n => Name.normalize n ++ ".md" == n) = true := by decide +kernel
      rw [eq_of_beq (all_eq_true.1 back n (listed hn).1)]
      exact Folder.exists_of_hasFile (listed hn).2
  · have unlisted : paired.Unlisted .remote := fun cached => by cases cached
    have normal : Name.normalize "a" = "a" ∧ Name.normalize "b" = "b" := by decide +kernel
    refine ((lists_content_iff unlisted).1 _ rfl ⟨by decide, ?_⟩ rfl).2 ?_
    · exact forall_mem_cons.2 ⟨⟨"a", normal.1.symm⟩, forall_mem_singleton.2 ⟨"b", normal.2.symm⟩⟩
    · exact forall_mem_cons.2 ⟨⟨by decide +kernel, normal.1⟩, forall_mem_singleton.2 ⟨by decide +kernel, normal.2⟩⟩

def doubled : Shelf :=
  { source := .remote, writable := true, contents := [(Key.of .persona "a.md.md", "x")] }

/-- An element whose name ends in `.md` twice is listed under a name that does not fetch it. -/
theorem listed_unfetched :
    let w : World := { paired with remote := { backing := .shelf doubled } }
    doubled.Kept ∧ doubled.check = .ok () ∧
      (∃ e, ((listEntries .remote none).ends w).1 = .ok [e] ∧ e.key = ⟨.persona, "a"⟩ ∧
        ((fetch .remote e.key).ends w).1 = .error (.notFound "personas/a" "Remote Portfolio")) ∧
      ¬w.ListsContent .remote := by
  intro w
  have unlisted : w.Unlisted .remote := fun cached => by cases cached
  have keys : (doubled.entries none).toOption.map (·.map Entry.key) = some [⟨.persona, "a"⟩] := by
    decide +kernel
  have absent : doubled.get? ⟨.persona, "a"⟩ = none := by decide +kernel
  have lost : ((fetch .remote ⟨.persona, "a"⟩).ends w).1 =
      .error (.notFound "personas/a" "Remote Portfolio") := by
    rw [fst_fetch_shelf (x := doubled) rfl, Shelf.content, show doubled.check = .ok () from rfl, ok_bind, absent]
    rfl
  obtain ⟨es, listed, keys⟩ := Option.map_eq_some_iff.1 keys
  obtain ⟨e, rest, rfl, key, last⟩ := map_eq_cons_iff.1 keys
  obtain rfl := map_eq_nil_iff.1 last
  have shown : ((listEntries .remote none).ends w).1 = .ok [e] := by
    rw [fst_listEntries unlisted fun w' frame => fst_loadEntries_shelf (x := doubled) (frame.backing .remote)]
    exact eq_ok_of_toOption listed
  have kept : doubled.Kept :=
    ⟨nodup_singleton _, forall_mem_singleton.2 ⟨"a.md.md", by rw [Key.of]⟩⟩
  refine ⟨kept, rfl, ⟨e, shown, key, by rw [key, lost]⟩, ?_⟩
  rintro ⟨es, shown', -, agrees⟩
  obtain rfl := Except.ok.inj (shown.symm.trans shown')
  obtain ⟨⟨c, -, fetched, -⟩, -⟩ := agrees e (.head _)
  rw [key, lost] at fetched
  cases fetched

end World

end TriStore
