import TriStore.Proofs.TameWeb

/-!
How a search over a folder, a repository and a catalog degrades.
-/
namespace TriStore
open List

open TriStore.Action

/-- A world over a folder, a repository and a catalog whose contents a search gets over. -/
structure World.Tame (f : Folder) (r : Repository) (c : Catalog) (w : World) : Prop where
  home : w.home.backing = .folder f
  remote : w.remote.backing = .repository r
  registry : w.registry.backing = .catalog c
  files : f.Tame w.disk.files
  web : w.web.Holds (Reply.Brings r.Tame)
  listings : ∀ i ∈ w.listings.items, ∀ e ∈ i.value, e.Sound
  results : ∀ i ∈ w.results.items, ∀ h ∈ i.value, Version.check h.version = .ok ()

namespace World.Tame

variable {f : Folder} {r : Repository} {c : Catalog} {w : World}

theorem setLog (h : w.Tame f r c) (log : List LogLine) : World.Tame f r c { w with log } := { h with }

abbrev Handles {α : Type} (f : Folder) (r : Repository) (c : Catalog) (Q : α → Prop) (act : Action α)
    (w : World) : Prop := Copes (World.Tame f r c) Q act w

theorem onWeb_handles {α : Type} {Q : α → Prop} {x : Exchange α} (h : r.Manages Q x w.web) :
    Handles f r c Q (onWeb x) w := by
  refine .get_bind fun hw => ?_
  obtain ⟨later, answered⟩ := h hw.web
  generalize x.run w.web = ended at later answered ⊢
  obtain ⟨answer, web⟩ := ended
  refine .set_bind { hw with web := later } ?_
  rcases answered with ⟨a, rfl, ha⟩ | ⟨e, rfl, he⟩
  · exact .pure ha
  · exact .throw he

theorem reportReset_handles {κ α : Type} (x : Cache κ α) (e : Option Cache.Corruption) :
    Handles f r c (fun _ => True) (reportReset x e) w := reportReset_copes (fun _ log hw => hw.setLog log) x e w

variable (ready : r.Ready) (reaches : c.Reaches)

include ready reaches

theorem loadEntries_handles (s : Source) (kind : Option Kind) :
    Handles f r c (fun es => ∀ e ∈ es, e.Sound) (loadEntries s kind) w := by
  refine .get_bind fun hw => ?_
  cases s with
  | home =>
    simp only [World.store, hw.home]
    obtain ⟨es, made, sound⟩ := Folder.load_sound hw.files kind
    obtain ⟨log, warned⟩ := exists_log_warnAll (f.load w.disk.files kind).1 w
    have lines : Handles f r c (fun _ => True) (warnAll (f.load w.disk.files kind).1) w := by
      intro hw
      rw [show (warnAll (f.load w.disk.files kind).1).run w = _ from warned]
      exact ⟨hw.setLog log, .inl ⟨⟨⟩, rfl, trivial⟩⟩
    refine .get_bind fun _ => lines.bind fun _ w' _ => ?_
    rw [made]
    exact .pure sound
  | remote =>
    simp only [World.store, hw.remote]
    exact onWeb_handles (Repository.load_manages ready kind)
  | registry =>
    simp only [World.store, hw.registry]
    exact onWeb_handles (Catalog.load_manages reaches r kind _)

theorem listEntries_handles (s : Source) (kind : Option Kind) :
    Handles f r c (fun es => ∀ e ∈ es, e.Sound) (listEntries s kind) w := by
  refine listEntries_copes (fun _ => loadEntries_handles ready reaches s kind) (fun _ log hw => hw.setLog log)
    (fun _ hw i hi _ => hw.listings i hi) (fun w listings hw items => { hw with listings := fun i hi => ?_ }) w
  rcases items i hi with old | ⟨-, sound⟩
  · exact hw.listings i old
  · exact sound

variable {p : Portfolio} {query : String} {kind : Option Kind}

theorem hitsIn_handles (unhurried : p.timeout = none) (encodes : Digest.Encodes (Portfolio.searchText query kind))
    (s : Source) (w : World) :
    Handles f r c (fun found => ∀ h ∈ found.1, Version.check h.version = .ok ()) (p.hitsIn s query kind) w := by
  obtain ⟨bytes, encoded⟩ := encodes
  have key : ∃ key, Portfolio.resultsKey s query kind = .ok key :=
    ⟨_, Portfolio.resultsKey_eq_ok.2 ⟨bytes, encoded, rfl⟩⟩
  obtain ⟨key, keyed⟩ := key
  have searched (w : World) : Handles f r c (fun hits => ∀ h ∈ hits, Version.check h.version = .ok ())
      (p.within s (searchStore s query kind)) w := by
    rw [Portfolio.within, unhurried]
    refine (listEntries_handles ready reaches s kind).bind fun es w' sound => ?_
    obtain ⟨hits, made, checked⟩ := Hit.among_sound sound s query
    rw [made]
    exact .pure checked
  rw [Portfolio.hitsIn, keyed]
  refine Concludes.bind (Q := (· = key)) (.pure rfl) fun _ w _ => .get_bind fun hw => ?_
  refine .set_bind { hw with results := fun i hi => hw.results i (Cache.mem_of_mem_get hi) } ?_
  refine (reportReset_handles _ _).bind fun _ w₁ _ => ?_
  split
  · next hits found =>
    obtain ⟨i, hi, -, rfl⟩ := Cache.exists_mem_of_get found
    exact .pure (hw.results i hi)
  · refine (searched w₁).bind fun hits w₂ checked => .get_bind fun hw₂ => ?_
    refine .set_bind { hw₂ with results := fun i hi => ?_ } ?_
    · rcases Cache.mem_of_mem_set hi with old | rfl
      · exact hw₂.results i old
      · exact checked
    · exact (reportReset_handles _ _).bind fun _ _ _ => .pure checked

variable {o : SearchOptions} {policy : Policy}

theorem rounds_respond (unhurried : p.timeout = none)
    (encodes : Digest.Encodes (Portfolio.searchText query o.kind)) (order : List Source) {w : World}
    (hw : w.Tame f r c) : ∀ x ∈ p.rounds query o policy order w, Responds x.answer ∧
      ∀ found, x.hits? = some found → ∀ h ∈ found.2, Version.check h.version = .ok () := by
  induction order generalizing w with
  | nil => simp
  | cons s rest ih =>
    obtain ⟨later, answered⟩ := hitsIn_handles ready reaches unhurried encodes s w hw
    rw [Portfolio.rounds_cons]
    change World.Tame f r c ((p.hitsIn s query o.kind).ends w).2 at later
    change (∃ a, ((p.hitsIn s query o.kind).ends w).1 = .ok a ∧ _) ∨
      ∃ e, ((p.hitsIn s query o.kind).ends w).1 = .error e ∧ e.IsUnavailable at answered
    generalize (p.hitsIn s query o.kind).ends w = ended at later answered ⊢
    obtain ⟨answer, w'⟩ := ended
    rcases answered with ⟨⟨hits, known⟩, rfl, checked⟩ | ⟨e, rfl, he⟩
    · refine forall_mem_cons.2 ⟨⟨fun e no => (by cases no), fun found same => ?_⟩, ?_⟩
      · cases same
        exact checked
      · simp only [Portfolio.onward?]
        split
        · simp
        · exact ih later
    · obtain ⟨t, reason, rfl⟩ := he.exists_eq
      refine forall_mem_cons.2 ⟨⟨fun e same => ?_, fun found no => by cases no⟩, ih (later.setLog _)⟩
      cases same
      trivial

end World.Tame

namespace Portfolio

variable {f : Folder} {r : Repository} {c : Catalog} {p : Portfolio} {query : String} {o : SearchOptions}
  {policy : Policy} {w : World}

theorem search_staysTame (ready : r.Ready) (reaches : c.Reaches) (unhurried : p.timeout = none)
    (encodes : Digest.Encodes (searchText query o.kind)) : (p.search query o).Moves (Stays (World.Tame f r c)) := by
  have logs (text : String) : (warn text).Moves (Stays (World.Tame f r c)) := fun w hw => hw.setLog _
  exact search_moves logs fun s w hw => (World.Tame.hitsIn_handles ready reaches unhurried encodes s w hw).1

theorem roundsOf_respond (ready : r.Ready) (reaches : c.Reaches) (unhurried : p.timeout = none)
    (encodes : Digest.Encodes (searchText query o.kind)) (tame : w.Tame f r c) :
    (∀ x ∈ p.roundsOf query o policy w, Responds x.answer) ∧
      Merge.check policy.priority ((p.roundsOf query o policy w).filterMap Round.hits?) = .ok () := by
  obtain ⟨log, decided⟩ := p.ends_searchPolicy_log o w
  have begun : World.Tame f r c ((p.searchPolicy o).ends w).2 := by
    rw [decided]
    exact tame.setLog log
  have all : ∀ x ∈ p.roundsOf query o policy w, _ :=
    World.Tame.rounds_respond ready reaches unhurried encodes policy.priority begun
  refine ⟨fun x hx => (all x hx).1, Merge.check_eq_ok (fun hits listed => ?_) policy.priority⟩
  obtain ⟨x, hx, brought⟩ := mem_filterMap.1 listed
  exact (all x hx).2 hits brought

def OnOne (s : Source) (searched : List Source) (failures : List (Source × String)) : Prop :=
  (s ∈ searched ∧ s ∉ failures.map (·.1)) ∨ (s ∉ searched ∧ s ∈ failures.map (·.1))

/-- A search answers a page exactly when each store that it visits responds and what they bring can be
compared. The page then has each of these on just one of its two lists. A tame world has a page for every
query that can be encoded, and stays tame. -/
theorem search_degrades (fits : o.Fits) (found : p.policyFor w.disk.files o = .ok policy)
    (fallback : policy.fallbackOnError = true) (unhurried : p.timeout = none) :
    let xs := p.roundsOf query o policy w
    ((∃ page, ((p.search query o).ends w).1 = .ok page) ↔
        (∀ x ∈ xs, Responds x.answer) ∧ Merge.check policy.priority (xs.filterMap Round.hits?) = .ok ()) ∧
      (∀ page, ((p.search query o).ends w).1 = .ok page →
        page.searched = xs.filterMap Round.searched? ∧ page.failures = xs.filterMap Round.missed? ∧
          xs.map (·.source) <+: policy.priority ∧ ∀ x ∈ xs, OnOne x.source page.searched page.failures) ∧
      ∀ f r c, Repository.Ready r → Catalog.Reaches c → Digest.Encodes (searchText query o.kind) → w.Tame f r c →
        (∃ page, ((p.search query o).ends w).1 = .ok page) ∧ ((p.search query o).ends w).2.Tame f r c := by
  intro xs
  have ends : SearchEnds ((p.search query o).ends w).1 policy.priority xs := search_ends fits found fallback
  have visited : xs.map (·.source) <+: policy.priority := rounds_sources _ _
  refine ⟨ends.exists_page_iff, fun page is => ?_, fun f r c ready reaches encodes tame => ⟨?_, ?_⟩⟩
  · obtain ⟨searched, failures⟩ := ends.page_eq is
    obtain ⟨respond, -⟩ := ends.exists_page_iff.1 ⟨page, is⟩
    refine ⟨searched, failures, visited, fun x hx => ?_⟩
    rw [searched, failures]
    exact searched_or_missed (visited.sublist.nodup (nodup_policyFor found)) hx (respond x hx)
  · exact ends.exists_page_iff.2 (roundsOf_respond ready reaches unhurried encodes tame)
  · exact search_staysTame ready reaches unhurried encodes w tame

section Example

def soleFolder : Folder := { root := ⟨["portfolio"]⟩ }

def soleRepository : Repository := { owner := "o", name := "r", branch := "main", service := "https://a.b" }

def soleCatalog : Catalog := { index := "https://c.d/e", base := "https://c.d" }

/-- A folder with one file; the repository refuses, and the index is no document. -/
def strandedWorld (content : String) : World where
  home := { backing := .folder soleFolder }
  remote := { backing := .repository soleRepository, cached := true }
  registry := { backing := .catalog soleCatalog, cached := true }
  disk := { files := { items := [
    (["portfolio"], .folder), (["portfolio", "personas"], .folder),
    (["portfolio", "personas", "a.md"], .file content.toUTF8)] } }
  web := { routes := [
    ⟨"GET", "https://a.b/repos/o/r/contents/personas", [.failed "connection refused"]⟩,
    ⟨"GET", "https://c.d/e", [.response { status := 200, body := "no document".toUTF8 }]⟩] }
  results := Cache.ofPreset .search

def untimed : Portfolio := { home := ⟨⟨["home"]⟩⟩ }

def unclosed : String := "---\ntags: [a\n---\n"

theorem strandedWorld_folder : soleFolder.Tame (strandedWorld unclosed).disk.files where
  root := by decide +kernel
  folders kind := by cases kind <;> decide +kernel
  files kind name listed content read := by
    have names : soleFolder.elementNames (strandedWorld unclosed).disk.files kind =
        if kind = .persona then ["a.md"] else [] := by cases kind <;> decide +kernel
    rw [names] at listed
    split at listed
    · next persona =>
      subst persona
      obtain rfl := mem_singleton.1 listed
      have written : Folder.readText (strandedWorld unclosed).disk.files
          ((soleFolder.folderOf .persona).join "a.md") = .ok unclosed := eq_ok_of_toOption (by decide +kernel)
      cases read.symm.trans written
      decide +kernel
    · cases listed

theorem tame_of_reason {b : Response} {reason content : String} (fine : b.status = 200)
    (document : b.document = .error (.reason reason)) (text : b.text = .ok content)
    (describable : Describable content) : soleRepository.Tame b := by
  refine ⟨fun location leads => ?_, fun _ d no => ?_, fun _ other => absurd fine other, fun _ v no => ?_,
    fun _ items no => ?_, fun _ _ => ⟨content, text, describable⟩⟩
  · simp [Response.redirect?, fine] at leads
  all_goals
    rw [document] at no
    cases no

theorem strandedWorld_tame : (strandedWorld unclosed).Tame soleFolder soleRepository soleCatalog where
  home := rfl
  remote := rfl
  registry := rfl
  files := strandedWorld_folder
  web := by
    refine forall_mem_cons.2 ⟨forall_mem_singleton.2 trivial, forall_mem_singleton.2 ?_⟩
    refine forall_mem_singleton.2 fun b unpacked => ?_
    obtain rfl := Except.ok.inj unpacked
    have text : Response.text { status := 200, body := "no document".toUTF8 } = .ok "no document" :=
      eq_ok_of_toOption (by decide +kernel)
    have document : Response.document { status := 200, body := "no document".toUTF8 } =
        .error (.reason "Expecting value: line 1 column 1 (char 0)") := eq_error_of_errorOf? (by decide +kernel)
    exact tame_of_reason rfl document text (by decide +kernel)
  listings i hi := by cases hi
  results i hi := by cases hi

theorem soleRepository_ready : soleRepository.Ready where
  token t no := by cases no
  branch := by decide +kernel
  kinds kind := by cases kind <;> decide +kernel

theorem soleCatalog_reaches : soleCatalog.Reaches := by
  unfold Catalog.Reaches
  decide +kernel

/-- A header that is no YAML, a repository out of reach and an index that is no document. -/
theorem search_degrades_stranded :
    (∃ page, ((untimed.search "a" { includeAll := true }).ends (strandedWorld unclosed)).1 = .ok page) ∧
      ((untimed.search "a" { includeAll := true }).ends (strandedWorld unclosed)).2.Tame
        soleFolder soleRepository soleCatalog := by
  have decided : untimed.policyFor (strandedWorld unclosed).disk.files { includeAll := true } = .ok {} :=
    eq_ok_of_toOption (by decide +kernel)
  have encodes : Digest.Encodes (searchText "a" none) := by
    unfold Digest.Encodes
    decide +kernel
  exact (search_degrades ⟨rfl, rfl, rfl⟩ decided rfl rfl).2.2 _ _ _ soleRepository_ready soleCatalog_reaches encodes
    strandedWorld_tame

/-- A day that the calendar lacks, in the header of one file, ends the search. -/
theorem search_ends_at_misdated_header : untimed.timeout = none ∧
      untimed.policyFor (strandedWorld "---\nversion: 2024-13-45\n---\n").disk.files {} = .ok {} ∧
      ∃ cause, ((untimed.search "a" {}).ends (strandedWorld "---\nversion: 2024-13-45\n---\n")).1 =
        .error (.badDate cause) := by
  exact ⟨rfl, eq_ok_of_toOption (by decide +kernel), .month, eq_error_of_errorOf? (by decide +kernel)⟩

end Example

end Portfolio

end TriStore
