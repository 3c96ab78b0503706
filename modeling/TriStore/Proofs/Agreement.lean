import TriStore.Proofs.CacheContents
import TriStore.Proofs.Calls
import TriStore.Proofs.Query
import TriStore.Proofs.Shelf

/-!
What the two caches of a portfolio hold, when its stores are in memory and change through it alone.
-/
namespace TriStore
open String Cache

section Keys

variable {s t : Source} {k k' : Option Kind}

theorem Source.keyFront_prefix_iff {rest : String} : s.keyFront.toList <+: (t.keyFront ++ rest).toList ↔ s = t := by
  cases s <;> cases t <;>
    simp [keyFront, label, List.cons_prefix_cons]

theorem Kind.labelOrStar_injective (h : Kind.labelOrStar k = Kind.labelOrStar k') : k = k' := by
  rcases k with _ | k <;> rcases k' with _ | k'
  · rfl
  · cases k' <;> simp [labelOrStar, label] at h
  · cases k <;> simp [labelOrStar, label] at h
  · cases k <;> cases k' <;> simp [labelOrStar, label] at h ⊢

theorem Action.listingKey_injective (h : listingKey s k = listingKey t k') : s = t ∧ k = k' := by
  have front : s.keyFront.toList <+: (t.keyFront ++ ("list:" ++ Kind.labelOrStar k')).toList := by
    rw [← append_assoc, ← listingKey, ← h]
    simp [listingKey]
  have same : s = t := Source.keyFront_prefix_iff.1 front
  subst same
  refine ⟨rfl, Kind.labelOrStar_injective ?_⟩
  have lists := congrArg String.toList h
  simp only [listingKey, toList_append] at lists
  exact toList_inj.1 (List.append_cancel_left lists)

def Portfolio.searchText (query : String) (kind : Option Kind) : String :=
  Text.lower (Text.strip query) ++ "|" ++ Kind.labelOrStar kind

theorem Portfolio.resultsKey_eq_ok {query key : String} {kind : Option Kind} :
    resultsKey s query kind = .ok key ↔ ∃ bs, Digest.bytesOf (searchText query kind) = .ok bs ∧
      key = s.keyFront ++ ("search:" ++ Digest.sha1 bs.toList) := by
  simp only [resultsKey, bind_eq_ok, searchText]
  constructor
  · rintro ⟨bs, hbs, made⟩
    exact ⟨bs, hbs, by rw [← Except.ok.inj made, append_assoc]⟩
  · rintro ⟨bs, hbs, rfl⟩
    exact ⟨bs, hbs, by rw [← append_assoc]; rfl⟩

theorem append_mark_injective {a a' l l' : List Char} {x : Char} (hl : x ∉ l) (hl' : x ∉ l')
    (h : a ++ x :: l = a' ++ x :: l') : a = a' ∧ l = l' := by
  rcases List.append_eq_append_iff.1 h with ⟨t, ha, ht⟩ | ⟨t, ha, ht⟩
  · cases t with
    | nil => exact ⟨by simpa using ha.symm, by simpa using ht⟩
    | cons y t =>
      have tail : l = t ++ x :: l' := by simpa using (List.cons.inj ht).2
      exact absurd (by simp [tail]) hl
  · cases t with
    | nil => exact ⟨by simpa using ha, by simpa using ht.symm⟩
    | cons y t =>
      have tail : l' = t ++ x :: l := by simpa using (List.cons.inj ht).2
      exact absurd (by simp [tail]) hl'

theorem Kind.bar_notMem_labelOrStar (k : Option Kind) : '|' ∉ (labelOrStar k).toList := by
  rcases k with _ | k
  · decide
  · cases k <;> decide

theorem Portfolio.searchText_injective {q q' : String} (h : searchText q k = searchText q' k') :
    Text.lower (Text.strip q) = Text.lower (Text.strip q') ∧ k = k' := by
  have lists := congrArg String.toList h
  simp only [searchText, toList_append, List.append_assoc] at lists
  obtain ⟨folds, kinds⟩ := append_mark_injective (Kind.bar_notMem_labelOrStar k)
    (Kind.bar_notMem_labelOrStar k') lists
  exact ⟨toList_inj.1 folds, Kind.labelOrStar_injective (toList_inj.1 kinds)⟩

end Keys

def Shelf.hits (x : Shelf) (s : Source) (query : String) (kind : Option Kind) : Except Failure (List Hit) := do
  Hit.among s query (← x.entries kind)

def Shelf.pause (x : Shelf) : Rat := x.delay.toOption.getD 0

/-- The stores in `D` are in memory; the listings kept for them are those they have now, and so are the hits
kept for the searches in `K`. With such searches, no call of a store is under way. -/
structure Agrees (D : Source → Prop) (K : Source → String → Option Kind → Prop) (x : Source → Shelf)
    (w : World) : Prop where
  holds : ∀ s, D s → (w.store s).backing.still = (Backing.shelf (x s)).still
  listings : ∀ s, D s → (w.store s).cached = true → ∀ kind, ∀ i ∈ w.listings.items,
    i.key = Action.listingKey s kind → (x s).entries kind = .ok i.value
  results : ∀ s query kind, K s query kind → ∀ i ∈ w.results.items,
    Portfolio.resultsKey s query kind = .ok i.key → (x s).hits s query kind = .ok i.value
  idle : (∃ s query kind, K s query kind) → w.running = []

/-- No store changed, the caches gained nothing and no time was spent. -/
structure World.Settles (w w' : World) : Prop where
  frame : Frame w w'
  listings : ∀ i ∈ w'.listings.items, i ∈ w.listings.items
  results : ∀ i ∈ w'.results.items, i ∈ w.results.items
  running : w'.running = w.running
  elapsed : w'.elapsed = w.elapsed

namespace World.Settles

theorem refl (w : World) : Settles w w := ⟨.refl w, fun _ h => h, fun _ h => h, rfl, rfl⟩

theorem trans {w w' w'' : World} (h : Settles w w') (h' : Settles w' w'') : Settles w w'' where
  frame := h.frame.trans h'.frame
  listings i hi := h.listings i (h'.listings i hi)
  results i hi := h.results i (h'.results i hi)
  running := h'.running.trans h.running
  elapsed := h'.elapsed.trans h.elapsed

instance : Std.Refl Settles := ⟨refl⟩

instance : Trans Settles Settles Settles := ⟨trans⟩

end World.Settles

theorem Backing.exists_of_still {b : Backing} {x : Shelf} (h : b.still = (Backing.shelf x).still) :
    ∃ calls, b = .shelf { x with calls } := by
  cases b with
  | shelf y =>
    refine ⟨y.calls, ?_⟩
    have same : { y with calls := {} } = { x with calls := {} } := Backing.shelf.inj h
    rw [Shelf.mk.injEq] at same
    obtain ⟨source, writable, delay, failure, contents, -⟩ := same
    rw [← source, ← writable, ← delay, ← failure, ← contents]
  | folder f => cases h
  | repository r => cases h
  | catalog c => cases h

namespace Action

open World (Settles)

theorem warn_settles (text : String) : (warn text).Moves Settles := fun w =>
  ⟨warn_frame text w, fun _ h => h, fun _ h => h, rfl, rfl⟩

theorem report_settles (text : String) : (report text).Moves Settles := fun w =>
  ⟨report_frame text w, fun _ h => h, fun _ h => h, rfl, rfl⟩

theorem ends_reportReset {κ α : Type} (c : Cache κ α) (e : Option Cache.Corruption) (w : World) :
    ∃ w', (reportReset c e).ends w = (.ok ⟨⟩, w') ∧ Settles w w' := by
  cases e with
  | none => exact ⟨w, rfl, .refl w⟩
  | some e => exact ⟨_, rfl, report_settles (c.resetLine e) w⟩

theorem ends_cachedListing (s : Source) (kind : Option Kind) (w : World) : ∃ w', (cachedListing s kind).ends w =
      (.ok (w.listings.get w.clock (listingKey s kind)).1, w') ∧ Settles w w' := by
  have looked : Settles w { w with listings := (w.listings.get w.clock (listingKey s kind)).2.2 } :=
    ⟨.of_eq rfl rfl rfl rfl rfl, fun i hi => mem_of_mem_get hi, fun _ h => h, rfl, rfl⟩
  obtain ⟨w', ends, settles⟩ := ends_reportReset w.listings
    (w.listings.get w.clock (listingKey s kind)).2.1
    { w with listings := (w.listings.get w.clock (listingKey s kind)).2.2 }
  refine ⟨w', ?_, looked.trans settles⟩
  simp only [cachedListing, ends_bind, ends_get, ends_set, ends, ends_pure]

end Action

namespace Agrees

open TriStore.Action
open World (Settles)

variable {D : Source → Prop} {K : Source → String → Option Kind → Prop} {x : Source → Shelf}
  {w w' : World} {s : Source}

theorem mono (h : Agrees D K x w) (frame : World.Frame w w')
    (listings : ∀ i ∈ w'.listings.items, i ∈ w.listings.items)
    (results : ∀ i ∈ w'.results.items, i ∈ w.results.items) (running : w'.running = w.running) :
    Agrees D K x w' where
  holds s hs := (frame.backing s).trans (h.holds s hs)
  listings s hs cached kind i hi :=
    h.listings s hs (by rw [← frame.cached, cached]) kind i (listings i hi)
  results s query kind hk i hi := h.results s query kind hk i (results i hi)
  idle some := running.trans (h.idle some)

theorem settles (h : Agrees D K x w) (settled : Settles w w') : Agrees D K x w' :=
  h.mono settled.frame settled.listings settled.results settled.running

theorem ends_loadEntries (h : Agrees D K x w) (hs : D s) (kind : Option Kind) :
    ∃ w', (loadEntries s kind).ends w = ((x s).entries kind, w') ∧ Agrees D K x w' ∧
      w'.elapsed = w.elapsed + (x s).pause := by
  obtain ⟨calls, found⟩ := Backing.exists_of_still (h.holds s hs)
  have frame : World.Frame w ((loadEntries s kind).ends w).2 := loadEntries_frame s kind w
  have ends : (loadEntries s kind).ends w =
      (onShelf s { x s with calls } (Shelf.load { x s with calls } kind)).ends w := by
    simp only [loadEntries, ends_bind, ends_get, found]
  rw [ends_onShelf] at ends
  rw [ends] at frame
  refine ⟨_, ends, h.mono frame ?_ ?_ ?_, ?_⟩
  · cases s <;> exact fun _ h => h
  · cases s <;> exact fun _ h => h
  · cases s <;> rfl
  · have counted : (calls == { calls with list := calls.list + 1 }) = false := by
      rw [beq_eq_false_iff_ne]
      intro same
      have lists : calls.list = calls.list + 1 := congrArg Calls.list same
      omega
    simp only [Shelf.load, counted, Shelf.pause]
    cases s <;> rfl

theorem ends_keepListing (h : Agrees D K x w) {kind : Option Kind} {entries : List Entry}
    (fresh : (x s).entries kind = .ok entries) :
    ∃ w', (keepListing s kind entries).ends w = (.ok ⟨⟩, w') ∧ Agrees D K x w' ∧ w'.elapsed = w.elapsed := by
  let listings := w.listings.set w.clock (listingKey s kind) entries
    (Footprint.estimate (Footprint.ofEntries entries))
  have kept : Agrees D K x { w with listings := listings.2.2 } := by
    refine ⟨h.holds, fun t ht cached kind' i hi key => ?_, h.results, h.idle⟩
    rcases mem_of_mem_set hi with old | rfl
    · exact h.listings t ht cached kind' i old key
    · obtain ⟨rfl, rfl⟩ := listingKey_injective key
      exact fresh
  obtain ⟨w', ends, settles⟩ := ends_reportReset w.listings listings.2.1
    { w with listings := listings.2.2 }
  refine ⟨w', ?_, kept.settles settles, settles.elapsed⟩
  simpa only [keepListing, ends_bind, ends_get, ends_set] using ends

theorem ends_listEntries (h : Agrees D K x w) (hs : D s) (kind : Option Kind) :
    ∃ w', (listEntries s kind).ends w = ((x s).entries kind, w') ∧ Agrees D K x w' ∧
      (w'.elapsed = w.elapsed ∨ w'.elapsed = w.elapsed + (x s).pause) := by
  by_cases cached : (w.store s).cached = true
  · obtain ⟨w₁, looked, settled⟩ := ends_cachedListing s kind w
    have h₁ := h.settles settled
    cases found : (w.listings.get w.clock (listingKey s kind)).1 with
    | some entries =>
      obtain ⟨i, hi, key, value⟩ := exists_mem_of_get found
      have fresh := h.listings s hs cached kind i hi (by simpa using key)
      refine ⟨w₁, ?_, h₁, .inl settled.elapsed⟩
      rw [fresh, value]
      simp [listEntries, ends_bind, cached, looked, found]
    | none =>
      obtain ⟨w₂, loaded, h₂, took⟩ := h₁.ends_loadEntries hs kind
      rw [settled.elapsed] at took
      cases fresh : (x s).entries kind with
      | error e =>
        refine ⟨w₂, ?_, h₂, .inr took⟩
        simp [listEntries, ends_bind, cached, looked, found, loaded, fresh]
      | ok entries =>
        obtain ⟨w₃, kept, h₃, spent⟩ := h₂.ends_keepListing fresh
        refine ⟨w₃, ?_, h₃, .inr (spent.trans took)⟩
        simp [listEntries, ends_bind, cached, looked, found, loaded, fresh, kept, ends_map, Except.map]
  · obtain ⟨w', loaded, h', took⟩ := h.ends_loadEntries hs kind
    refine ⟨w', ?_, h', .inr took⟩
    simp [listEntries, ends_bind, cached, loaded]

theorem ends_searchStore (h : Agrees D K x w) (hs : D s) (query : String) (kind : Option Kind) :
    ∃ w', (searchStore s query kind).ends w = ((x s).hits s query kind, w') ∧ Agrees D K x w' ∧
      (w'.elapsed = w.elapsed ∨ w'.elapsed = w.elapsed + (x s).pause) := by
  obtain ⟨w', listed, h', took⟩ := h.ends_listEntries hs kind
  refine ⟨w', ?_, h', took⟩
  rw [searchStore, ends_bind, listed, Shelf.hits]
  cases (x s).entries kind with
  | error e => rfl
  | ok entries => exact ends_liftExcept _ _

end Agrees

namespace Portfolio

variable {p : Portfolio} {query key : String} {kind : Option Kind}

open TriStore.Action

variable {D : Source → Prop} {K : Source → String → Option Kind → Prop} {x : Source → Shelf}
  {w w' : World} {s : Source}

/-- Every call of the shelf ends before a search stops to wait for it. -/
def AnswersInTime (p : Portfolio) (x : Shelf) : Prop :=
  ∀ wait, p.timeout = some wait → ∃ limit, wait = .ok limit ∧ 0 ≤ limit ∧ x.pause ≤ limit

/-- Searches that keep their hits under one key look for the same in the same store. -/
def OneMeaning (K : Source → String → Option Kind → Prop) : Prop :=
  ∀ s t q q' kind kind' key, K s q kind → K t q' kind' → resultsKey s q kind = .ok key →
    resultsKey t q' kind' = .ok key →
    s = t ∧ kind = kind' ∧ ∀ es, Hit.among s q es = Hit.among s q' es

theorem ends_within_inTime {α : Type} {y : Shelf} {act : Action α}
    {r : Except Failure α} (inTime : p.AnswersInTime y) (h' : Agrees D K x w')
    (idle : w.running = []) (ends : act.ends w = (r, w'))
    (took : w'.elapsed = w.elapsed ∨ w'.elapsed = w.elapsed + y.pause) :
    ∃ w'', (p.within s act).ends w = (r, w'') ∧ Agrees D K x w'' := by
  have waited : Agrees D K x (waitedFor s w') :=
    h'.mono (.of_eq rfl rfl rfl rfl rfl) (fun _ h => h) (fun _ h => h) rfl
  cases timeout : p.timeout with
  | none => exact ⟨w', by rw [ends_within, timeout]; exact ends, h'⟩
  | some wait =>
    obtain ⟨limit, rfl, nonneg, le⟩ := inTime wait timeout
    have within : w'.elapsed - w.elapsed ≤ limit := by
      rcases took with took | took <;> rw [took] <;> grind
    refine ⟨waitedFor s w', ?_, waited⟩
    simp [ends_within, timeout, idle, ends, within]

/-- What the hits of a query come to without caches: they need a key although nothing is kept under it. -/
def answer (x : Source → Shelf) (query : String) (kind : Option Kind) (s : Source) : Except Failure (List Hit) := do
  let _ ← resultsKey s query kind
  (x s).hits s query kind

theorem answer_of_ok (h : resultsKey s query kind = .ok key) : answer x query kind s = (x s).hits s query kind := by
  rw [answer, h]
  rfl

theorem answer_of_error {e : Failure}
    (h : resultsKey s query kind = .error e) : answer x query kind s = .error e := by
  rw [answer, h]
  rfl

theorem keep_hits (one : OneMeaning K) (h : Agrees D K x w) {hits : List Hit} (hk : K s query kind)
    (hkey : resultsKey s query kind = .ok key) (fresh : (x s).hits s query kind = .ok hits) :
    Agrees D K x { w with results := (w.results.set w.clock key hits
      (Footprint.estimate (Footprint.ofHits hits))).2.2 } := by
  refine ⟨h.holds, h.listings, fun t q kind' hk' i hi hkey' => ?_, h.idle⟩
  rcases mem_of_mem_set hi with old | rfl
  · exact h.results t q kind' hk' i old hkey'
  · obtain ⟨rfl, rfl, same⟩ := one s t query q kind kind' key hk hk' hkey hkey'
    rw [← fresh, Shelf.hits, Shelf.hits]
    simp only [same]

theorem ends_hitsIn (one : OneMeaning K) (h : Agrees D K x w) (hs : D s)
    (inTime : p.AnswersInTime (x s)) (hk : K s query kind) : ∃ known w', (p.hitsIn s query kind).ends w =
      ((answer x query kind s).map (·, known), w') ∧ Agrees D K x w' := by
  unfold hitsIn
  cases hkey : resultsKey s query kind with
  | error e =>
    rw [answer_of_error hkey]
    exact ⟨false, w, by simp [ends_bind, Except.map], h⟩
  | ok key =>
    rw [answer_of_ok hkey]
    have looked : World.Settles w { w with results := (w.results.get w.clock key).2.2 } :=
      ⟨.of_eq rfl rfl rfl rfl rfl, fun _ h => h, fun i hi => mem_of_mem_get hi, rfl, rfl⟩
    obtain ⟨w₁, reset, settled⟩ := ends_reportReset w.results (w.results.get w.clock key).2.1
      { w with results := (w.results.get w.clock key).2.2 }
    have h₁ := (h.settles looked).settles settled
    cases found : (w.results.get w.clock key).1 with
    | some hits =>
      obtain ⟨i, hi, same, value⟩ := exists_mem_of_get found
      have fresh : (x s).hits s query kind = .ok i.value :=
        h.results s query kind hk i hi (by rw [hkey, ← eq_of_beq same])
      refine ⟨true, w₁, ?_, h₁⟩
      simp [ends_bind, reset, found, fresh, value, ends_map, Except.map]
    | none =>
      obtain ⟨w₂, searched, h₂, took⟩ := h₁.ends_searchStore hs query kind
      obtain ⟨w₃, ended, h₃⟩ := ends_within_inTime (s := s) inTime h₂ (h₁.idle ⟨s, query, kind, hk⟩) searched took
      cases fresh : (x s).hits s query kind with
      | error e =>
        refine ⟨false, w₃, ?_, h₃⟩
        simp [ends_bind, reset, found, ended, fresh, Except.map]
      | ok hits =>
        obtain ⟨w₄, reset', settled'⟩ := ends_reportReset w₃.results
          (w₃.results.set w₃.clock key hits (Footprint.estimate (Footprint.ofHits hits))).2.1
          { w₃ with results := (w₃.results.set w₃.clock key hits (Footprint.estimate (Footprint.ofHits hits))).2.2 }
        refine ⟨false, w₄, ?_, (keep_hits one h₃ hk hkey fresh).settles settled'⟩
        simp [ends_bind, reset, found, ended, fresh, reset', ends_map, Except.map]

end Portfolio

end TriStore
