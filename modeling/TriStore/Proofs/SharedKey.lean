import TriStore.Proofs.CachedSearch
import TriStore.Proofs.SearchMatches

/-!
Two queries under one key. A store that holds one element, named as the first query, is searched for
the first query and then for the second.
-/
namespace TriStore.Portfolio
open List Relevance

variable {w : World} {s : Source} {query key other q q' : String} {kind : Option Kind} {hits : List Hit}
  {order : List Source} {f : Finding} {o : SearchOptions} {tour : Tour} {policy : Policy} {page : Page}

open TriStore.Action

def solo : Portfolio := { home := default, searched := [.home] }

def soloShelves (query : String) (kind : Option Kind) : Source → Shelf
  | .home =>
    { source := .home, writable := true, contents := [(⟨kind.getD .persona, query⟩, "")] }
  | .remote => { source := .remote, writable := true }
  | .registry => { source := .registry, writable := false }

def soloWorld (query : String) (kind : Option Kind) (memory : Nat) : World :=
  { home := { backing := .shelf (soloShelves query kind .home) }
    remote := { backing := .shelf (soloShelves query kind .remote) }
    registry := { backing := .shelf (soloShelves query kind .registry) }
    results := { name := .text "search", maxEntries := .whole 1, maxMemory := .whole memory, ttl := none } }

theorem solo_base : solo.home.policy {} solo.environment = ([], .ok {}) := by
  have lines : (solo.home.policy {} solo.environment).1 = [] := by decide +kernel
  have found : (solo.home.policy {} solo.environment).2.toOption = some {} := by decide +kernel
  rw [← lines, ← eq_ok_of_toOption found]

theorem solo_searchPolicy (files : w.disk.files = {}) (kind : Option Kind) :
    (solo.searchPolicy { kind }).ends w = (.ok { priority := [.home] }, w) := by
  have base : solo.policy.ends w = (.ok {}, w) := by
    rw [policy, ends_bind_of_ok (ends_get w), files, solo_base]
    rfl
  rw [searchPolicy, ends_bind_of_ok base]
  rfl

theorem exists_soloEntry (query : String) (kind : Option Kind) :
    ∃ e t, (soloShelves query kind .home).entries kind = .ok [e] ∧ Relevance.Texts.ofEntry e = .ok t ∧
      t.name = Name.normalize query ∧ e.version = "" := by
  have listed : (soloShelves query kind .home).entries kind =
      [(⟨kind.getD .persona, query⟩, "")].mapM Shelf.entryOf := by
    have all : kind.all (· == (kind.getD .persona)) = true := by cases kind <;> simp
    have sorted : (soloShelves query kind .home).sorted = [(⟨kind.getD .persona, query⟩, "")] :=
      mergeSort_singleton _
    rw [Shelf.entries, sorted, filter_cons_of_pos (by exact all), filter_nil]
    rfl
  rw [listed]
  exact ⟨_, _, rfl, rfl, rfl, rfl⟩

theorem among_only {e : Entry} {t : Relevance.Texts}
    (texts : Relevance.Texts.ofEntry e = .ok t) (words : Relevance.tokenize query ≠ []) :
    Hit.among s query [e] =
      let scored := Relevance.scoreTexts t (Relevance.tokenize query) (Name.normalize query)
      .ok (if 0 < scored.1 then [{ entry := e, source := s, score := scored.1, matchKind := scored.2 }]
        else []) := by
  unfold Hit.among
  rw [mapM_cons, mapM_nil, score_of_tokens words, texts, ok_bind]
  generalize Relevance.scoreTexts t (Relevance.tokenize query) (Name.normalize query) = scored
  obtain ⟨points, matchKind⟩ := scored
  show Except.ok (List.mergeSort (List.filter _ [_]) _) = _
  dsimp only
  split
  · next positive =>
    rw [filter_cons_of_pos (by simpa using positive), filter_nil, mergeSort_singleton]
  · next zero =>
    rw [filter_cons_of_neg (by simpa using zero), filter_nil, mergeSort_nil]

theorem solo_keeps (hkey : resultsKey .home query kind = .ok key)
    (found : (soloShelves query kind .home).hits .home query kind = .ok hits) :
    ∃ w, (solo.hitsIn .home query kind).ends
        (soloWorld query kind (Footprint.estimate (Footprint.ofHits hits))) = (.ok (hits, false), w) ∧
      w.disk.files = {} ∧ w.running = [] ∧ (w.results.get w.clock key).1 = some hits := by
  let size := Footprint.estimate (Footprint.ofHits hits)
  let w := soloWorld query kind size
  let w₁ : World := { w with results := { w.results with misses := 1 } }
  have searched : ∃ w₂, (searchStore .home query kind).ends w₁ = (.ok hits, w₂) ∧
      w₂.results = w₁.results ∧ w₂.disk = w₁.disk ∧ w₂.running = w₁.running := by
    obtain ⟨w₂, ended, -, -, steady, -, results⟩ :=
      onShelf_world .home (soloShelves query kind .home) ((soloShelves query kind .home).load kind) w₁
    have listed : (listEntries .home kind).ends w₁ = ((soloShelves query kind .home).entries kind, w₂) := ended
    have frame := listEntries_frame .home kind w₁
    rw [listed] at frame
    obtain ⟨es, hes, among⟩ := bind_eq_ok.1 found
    refine ⟨w₂, ?_, results, frame.disk, steady.running⟩
    rw [searchStore, ends_bind, listed, hes]
    dsimp only
    rw [ends_liftExcept, among]
  obtain ⟨w₂, searched, results, disk, running⟩ := searched
  obtain ⟨sound, items, memory, entries, ttl⟩ := Cache.set_empty (c := w₂.results)
    (by rw [results]; rfl) (by rw [results]; rfl) (by rw [results]; rfl) size (by rw [results]; rfl)
    w₂.clock key hits
  let w₃ : World := { w₂ with results := (w₂.results.set w₂.clock key hits size).2.2 }
  have kept := Cache.get_only (c := w₃.results) items memory entries
    (by rw [ttl, results]; rfl) w₃.clock
  refine ⟨w₃, ?_, by rw [show w₃.disk = w₂.disk from rfl, disk]; rfl, running, kept⟩
  have waited : (solo.within .home (searchStore .home query kind)).ends w₁ = (.ok hits, w₂) := searched
  have reset : (reportReset w₂.results (w₂.results.set w₂.clock key hits size).2.1).ends w₃ = (.ok ⟨⟩, w₃) := by
    rw [sound]
    rfl
  rw [hitsIn, ends_bind, ends_liftExcept, hkey]
  show ends (solo.within .home (searchStore .home query kind) >>= _) w₁ = _
  rw [ends_bind_of_ok waited, ends_bind_of_ok (ends_get w₂)]
  show ends (reportReset w₂.results (w₂.results.set w₂.clock key hits size).2.1 >>= _) w₃ = _
  rw [ends_bind_of_ok reset]
  rfl

theorem solo_search {w w' : World} {known : Bool} (files : w.disk.files = {})
    (found : (solo.hitsIn .home query kind).ends w = (.ok (hits, known), w')) :
    (solo.search query { kind }).ends w = (pageFrom { kind } { priority := [.home] }
        { hits := [(.home, hits)], searched := [.home], cacheHits := if known then 1 else 0 }, w') := by
  have asked : (solo.ask .home query kind).ends w = (.ok (.ok (hits, known)), w') := by
    rw [ask, ends_tryCatch, ends_bind_of_ok found]
    rfl
  have visited : (solo.visit query { kind } { priority := [.home] } [.home] {}).ends w =
      (.ok { hits := [(.home, hits)], searched := [.home], cacheHits := if known then 1 else 0 }, w') := by
    rw [visit, ends_bind_of_ok asked]
    dsimp only
    split
    · cases known <;> rfl
    · cases known <;> rfl
  have checked : (liftExcept (checkOptions { kind } { priority := [.home] }) : Action Unit).ends w =
      (.ok (), w) := rfl
  rw [search, ends_bind_of_ok (solo_searchPolicy files kind), ends_bind_of_ok checked, ends_bind_of_ok visited]
  exact ends_pageFrom { kind } { priority := [.home] } _ w'

theorem hit_mem_of_mem_findings {all : Bool} {group : List Hit}
    (h : f ∈ Merge.findings order all group) : f.hit ∈ group := by
  cases group with
  | nil => simp [Merge.findings] at h
  | cons first others =>
    rcases mem_cons.1 h with rfl | h
    · exact (.head _)
    · split at h
      · obtain ⟨hit, mem, rfl⟩ := mem_map.1 h
        exact mem_cons_of_mem _ mem
      · simp at h

theorem mem_of_mem_pageOf {number size : Count} (h : f ∈ (pageOf o order tour number size).findings) :
    ∃ found ∈ tour.hits, f.hit ∈ found.2 := by
  have sorted : f ∈ Finding.sort order o.sorting (Merge.merge order tour.hits o.includeAll) :=
    mem_of_mem_drop (mem_of_mem_take h)
  obtain ⟨group, hgroup, hf⟩ := mem_flatMap.1 (mem_mergeSort.1 sorted)
  rw [Merge.groups_eq] at hgroup
  obtain ⟨k, -, rfl⟩ := mem_map.1 hgroup
  have all := (mem_filter.1 (hit_mem_of_mem_findings hf)).1
  obtain ⟨s, -, hs⟩ := mem_flatMap.1 all
  cases found : tour.hits.lookup s with
  | none => simp [found] at hs
  | some hits =>
    obtain ⟨l₁, l₂, split, -⟩ := lookup_eq_some_iff.1 found
    exact ⟨(s, hits), by simp [split], by simpa [found] using hs⟩

theorem exists_page_only (kind : Option Kind) {hit : Hit} (version : hit.version = "") (cacheHits : Nat) :
    ∃ page, pageFrom { kind } { priority := [.home] }
        { hits := [(.home, [hit])], searched := [.home], cacheHits } = .ok page ∧
      ∃ f ∈ page.findings, f.hit = hit := by
  have grouped : Merge.groups (Merge.inOrder [.home] [(.home, [hit])]) = [[hit]] := by
    simp [Merge.groups_eq, Merge.inOrder, eraseDups_cons]
  have checked : Merge.check [.home] [(.home, [hit])] = .ok () := by
    have blank : Version.check "" = .ok () := rfl
    have one : decide (1 < ([hit].map (·.source)).eraseDups.length) = false := by
      simp [eraseDups_cons]
    simp only [Merge.check, grouped, List.forM, one, Bool.false_and, version, blank]
    rfl
  refine ⟨pageOf { kind } [.home] { hits := [(.home, [hit])], searched := [.home], cacheHits }
    (.number 1) (.number 20), ?_, ?_⟩
  · rw [pageFrom, checked]
    rfl
  · simp [pageOf, Merge.merge, grouped, Merge.findings, Finding.sort, Page.cut, Count.toNat]

theorem ends_hitsIn_found {p : Portfolio} (hkey : resultsKey s query kind = .ok key)
    (found : (w.results.get w.clock key).1 = some hits) :
    ∃ w', (p.hitsIn s query kind).ends w = (.ok (hits, true), w') := by
  obtain ⟨w', reset, -⟩ := ends_reportReset w.results (w.results.get w.clock key).2.1
    { w with results := (w.results.get w.clock key).2.2 }
  simp [hitsIn, hkey, ends_bind, reset, found, ends_map, Except.map]

theorem solo_opens (query : String) (kind : Option Kind) (memory : Nat) :
    solo.Opens (soloWorld query kind memory) where
  shelves s := by cases s <;> exact ⟨_, rfl, nofun⟩
  noListings := rfl
  noResults := rfl
  idle := rfl
  drops := rfl
  validate key c c' encodes same := Except.ok.inj same ▸ encodes

theorem pageFrom_eq_ok (h : pageFrom o policy tour = .ok page) :
    ∃ number size, page = pageOf o policy.priority tour number size := by
  obtain ⟨-, -, shown⟩ := bind_eq_ok.1 h
  split at shown
  · next number size _ _ => exact ⟨number, size, (Except.ok.inj shown).symm⟩
  · cases shown

theorem mem_of_tourOf {answers : Source → Except Failure (List Hit)}
    (h : tourOf answers o policy [s] {} = .ok tour) : ∀ found ∈ tour.hits, answers s = .ok found.2 := by
  unfold tourOf at h
  cases answered : answers s with
  | ok hits =>
    have whole : tour.hits = [(s, hits)] := by
      simp only [answered, tourOf] at h
      split at h <;> rw [← Except.ok.inj h] <;> rfl
    simp [whole]
  | error e =>
    have none : tour.hits = [] := by
      cases e with
      | unavailable t reason =>
        simp only [answered, tourOf] at h
        split at h
        · cases h
        · rw [← Except.ok.inj h]
      | _ => simp [answered] at h
    simp [none]

theorem solo_inexact (words : Relevance.tokenize other ≠ []) (differ : Name.normalize other ≠ Name.normalize query)
    (found : (soloShelves query kind .home).hits .home other kind = .ok hits) :
    ∀ hit ∈ hits, hit.matchKind ≠ .exact := by
  obtain ⟨e, t, listed, texts, name, -⟩ := exists_soloEntry query kind
  rw [← name] at differ
  have inexact := scoreTexts_ne (Relevance.tokenize other) differ
  rw [Shelf.hits, listed, ok_bind, among_only texts words] at found
  generalize Relevance.scoreTexts t (Relevance.tokenize other) (Name.normalize other) = scored
    at found inexact
  have whole := Except.ok.inj found
  subst whole
  intro hit mem
  split at mem
  · rw [mem_singleton.1 mem]
    exact inexact
  · simp at mem

theorem solo_fresh {memory : Nat} (frame : World.Frame (soloWorld query kind memory) w) (idle : w.running = [])
    (words : Relevance.tokenize other ≠ []) (differ : Name.normalize other ≠ Name.normalize query)
    (answered : ((solo.search other { kind }).ends w.uncached).1.map Page.plain = .ok page) :
    ∀ f ∈ page.findings, f.hit.matchKind ≠ .exact := by
  have holds : ∀ s, (w.store s).backing.still = (Backing.shelf (soloShelves query kind s)).still := by
    intro s
    rw [frame.backing s]
    cases s <;> rfl
  have inTime : ∀ s, solo.AnswersInTime (soloShelves query kind s) := fun s => nofun
  obtain ⟨r, w', ended, fresh, -⟩ := ends_search (o := { kind })
    (oneMeaning_single other kind) inTime (fun s => ⟨rfl, rfl⟩)
    (agrees_uncached holds fun _ => idle)
  have files : w.uncached.disk.files = {} := by
    rw [show w.uncached.disk = w.disk from rfl, frame.disk]
    rfl
  rw [ended, fresh, files] at answered
  simp only [freshPage, bind_eq_ok] at answered
  obtain ⟨policy, decided, -, -, tour, visited, shown⟩ := answered
  have alone : policy.priority = [.home] := by
    rw [policyFor, solo_base] at decided
    rw [← Except.ok.inj decided]
    rfl
  rw [alone] at visited
  intro f hf
  obtain ⟨number, size, rfl⟩ := pageFrom_eq_ok shown
  obtain ⟨found, hfound, hit⟩ := mem_of_mem_pageOf hf
  obtain ⟨-, -, hits⟩ := bind_eq_ok.1 (mem_of_tourOf visited found hfound)
  exact solo_inexact words differ hits f.hit hit

theorem solo_exact (kind : Option Kind) (named : Name.normalize query ≠ "") :
    ∃ hit : Hit, hit.version = "" ∧ hit.matchKind = .exact ∧
      (soloShelves query kind .home).hits .home query kind = .ok [hit] := by
  obtain ⟨e, t, listed, texts, name, version⟩ := exists_soloEntry query kind
  have whole := scoreTexts_self (t := t) (Relevance.tokenize query)
    (by rw [name]; exact named)
  rw [name] at whole
  rw [Shelf.hits, listed, ok_bind, among_only texts (Name.tokenize_ne_nil named)]
  generalize Relevance.scoreTexts t (Relevance.tokenize query) (Name.normalize query) = scored at whole
  obtain ⟨matched, positive⟩ := whole
  refine ⟨{ entry := e, source := .home, score := scored.1, matchKind := scored.2 }, version, matched, ?_⟩
  dsimp only
  rw [if_pos positive]

theorem caching_visible (encodes : Digest.Encodes (searchText q kind))
    (fold : Text.lower (Text.strip q) = Text.lower (Text.strip q')) (named : Name.normalize q ≠ "")
    (differ : Name.normalize q ≠ Name.normalize q') : ∃ w, solo.Opens w ∧
      ((solo.search q' { kind }).ends (solo.run [.search q { kind }] w)).1.map Page.plain ≠
        ((solo.search q' { kind }).ends (solo.run [.search q { kind }] w).uncached).1.map Page.plain := by
  obtain ⟨bs, hbs⟩ := encodes
  have text : searchText q kind = searchText q' kind := by rw [searchText, searchText, fold]
  have hkey := (resultsKey_eq_ok (s := .home)).2 ⟨bs, hbs, rfl⟩
  have hkey' := (resultsKey_eq_ok (s := .home)).2 ⟨bs, text ▸ hbs, rfl⟩
  have words := Name.tokenize_ne_nil named
  obtain ⟨hit, version, matched, found⟩ := solo_exact kind named
  let w := soloWorld q kind (Footprint.estimate (Footprint.ofHits [hit]))
  obtain ⟨w₁, kept, files, idle, known⟩ := solo_keeps hkey found
  have first := solo_search (show w.disk.files = {} from rfl) kept
  have run : solo.run [.search q { kind }] w = w₁ := by
    rw [run_cons, run_nil, after_search, first]
  have frame := solo.search_frame q { kind } w
  rw [first] at frame
  refine ⟨w, solo_opens q kind _, ?_⟩
  rw [run]
  -- The second query is answered with the hit of the first.
  obtain ⟨w₂, again⟩ := ends_hitsIn_found (p := solo) hkey' known
  have second := solo_search files again
  obtain ⟨page, shown, f, hf, same⟩ := exists_page_only kind version 1
  rw [if_pos rfl, shown] at second
  rw [second]
  intro answered
  rw [tokenize_eq_of_lower_strip fold] at words
  refine solo_fresh frame idle words (Ne.symm differ) answered.symm f hf ?_
  rw [same]
  exact matched

theorem asked_two {q q' r : String} {kind k : Option Kind}
    (h : Asked ([.search q { kind }] ++ [.search q' { kind }]) r k) : (r = q ∨ r = q') ∧ k = kind := by
  obtain ⟨o, mem, rfl⟩ := h
  rcases mem_append.1 mem with mem | mem
  · have same := mem_singleton.1 mem
    rw [Call.search.injEq] at same
    exact ⟨.inl same.1, by rw [same.2]⟩
  · have same := mem_singleton.1 mem
    rw [Call.search.injEq] at same
    exact ⟨.inr same.1, by rw [same.2]⟩

/-- Caching cannot be seen in any run exactly when any two queries that can be kept under one key have one
normal name. -/
theorem caching_invisible_iff (Q : String → Prop) :
    (∀ (p : Portfolio) (w : World) (calls : List Call) (query : String) (o : SearchOptions),
      p.Opens w → (∀ q kind, Asked (calls ++ [.search query o]) q kind → Q q) →
      DigestsApart (Asked (calls ++ [.search query o])) →
      ((p.search query o).ends (p.run calls w)).1.map Page.plain =
        ((p.search query o).ends (p.run calls w).uncached).1.map Page.plain) ↔ NamesAgree Q := by
  constructor
  · intro invisible q q' kind hq hq' encodes fold
    apply Classical.byContradiction
    intro differ
    -- One of the two names something; the element is given its name.
    have visible : ∀ r r', Q r → Q r' → Digest.Encodes (searchText r kind) →
        Text.lower (Text.strip r) = Text.lower (Text.strip r') → Name.normalize r ≠ Name.normalize r' →
        Name.normalize r ≠ "" → False := by
      intro r r' hr hr' encodes fold differ named
      obtain ⟨w, opens, seen⟩ := caching_visible encodes fold named differ
      refine seen (invisible solo w [.search r { kind }] r' { kind } opens ?_ ?_)
      · intro q k h
        rcases (asked_two h).1 with rfl | rfl
        · exact hr
        · exact hr'
      · intro q k q' k' bs bs' h h' _ _ _
        have folded : ∀ {q k}, Asked ([.search r { kind }] ++ [.search r' { kind }]) q k →
            searchText q k = searchText r kind := by
          intro q k h
          obtain ⟨rfl | rfl, rfl⟩ := asked_two h
          · rfl
          · rw [searchText, searchText, fold]
        rw [folded h, folded h']
    by_cases named : Name.normalize q = ""
    · have text : searchText q' kind = searchText q kind := by rw [searchText, searchText, fold]
      exact visible q' q hq' hq (by rw [text]; exact encodes) fold.symm (Ne.symm differ)
        fun named' => differ (named.trans named'.symm)
    · exact visible q q' hq hq' encodes fold differ named
  · intro names p w calls query o opens asked apart
    have one := oneMeaning apart names asked
    obtain ⟨x, inTime, h⟩ := agrees_run (K := fun _ => Asked (calls ++ [.search query o])) opens one
      fun q o' mem _ => ⟨o', mem_append_left _ mem, rfl⟩
    exact search_uncached one inTime h fun _ => ⟨o, by simp, rfl⟩

/-- A final sigma is one way to differ: lower case makes the sigma at the end of a name a final one, and in
`AΣ.md` it stands at the end only once the extension is gone. -/
theorem caching_visible_sigma : ∃ w, solo.Opens w ∧
      ((solo.search "aσ.md" {}).ends (solo.run [.search "AΣ.md" {}] w)).1.map Page.plain ≠
        ((solo.search "aσ.md" {}).ends (solo.run [.search "AΣ.md" {}] w).uncached).1.map Page.plain := by
  refine caching_visible ?_ ?_ ?_ ?_
  · exact ⟨_, rfl⟩
  · decide +kernel
  · decide +kernel
  · decide +kernel

end TriStore.Portfolio
