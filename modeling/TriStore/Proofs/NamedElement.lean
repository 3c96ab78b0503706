import TriStore.Proofs.GracefulSearch
import TriStore.Proofs.SharedKey

/-!
An element that is named as asked is among the hits of its store, after the merge too, and a large page
shows it.
-/
namespace TriStore
open List

namespace Hit

variable {s : Source} {query : String} {es : List Entry} {hits : List Hit}

theorem length_among_le (h : among s query es = .ok hits) : hits.length ≤ es.length := by
  obtain ⟨scored, made, sorted⟩ := bind_eq_ok.1 h
  obtain rfl := Except.ok.inj sorted
  have same : es.length = scored.length := by
    simpa using congrArg List.length (mapM_eq_ok_iff.1 made)
  rw [same, length_mergeSort]
  exact length_filter_le _ _

theorem exists_mem_among (h : among s query es = .ok hits) (named : Name.normalize query ≠ "") {e : Entry}
    (he : e ∈ es) (name : e.key.name = Name.normalize query) : ∃ hit ∈ hits, hit.key = e.key := by
  obtain ⟨scored, made, -⟩ := bind_eq_ok.1 h
  obtain ⟨hit, -, made⟩ := (mapM_eq_ok made).1 e he
  obtain ⟨⟨points, how⟩, score, -⟩ := bind_eq_ok.1 made
  have candidate : e ∈ Lookup.candidates query es := Lookup.mem_candidates_iff.2 ⟨named, he, .inl name⟩
  exact ⟨_, mem_among h he score (Lookup.of_score candidate score).1, rfl⟩

end Hit

namespace Merge

variable {order : List Source} {hits : List (Source × List Hit)}

theorem exists_mem_merge {hit : Hit} (h : hit ∈ inOrder order hits) (all : Bool) :
    ∃ f ∈ merge order hits all, f.key = hit.key := by
  have mem : hit ∈ (inOrder order hits).filter (·.key == hit.key) := mem_filter.2 ⟨h, by simp⟩
  have grouped : (inOrder order hits).filter (·.key == hit.key) ∈ groups (inOrder order hits) := by
    rw [groups_eq]
    exact mem_map.2 ⟨hit.key, mem_eraseDups.2 (mem_map.2 ⟨hit, h, rfl⟩), rfl⟩
  cases first : (inOrder order hits).filter (·.key == hit.key) with
  | nil => simp [first] at mem
  | cons f rest =>
    rw [first] at grouped
    refine ⟨_, mem_flatMap.2 ⟨_, grouped, (.head _)⟩, ?_⟩
    have listed : f ∈ (inOrder order hits).filter (·.key == hit.key) := first ▸ (.head _)
    exact eq_of_beq (mem_filter.1 listed).2

theorem length_merge_le : (merge order hits false).length ≤ (inOrder order hits).length := by
  have single : ∀ gs : List (List Hit), (gs.flatMap (findings order false)).length ≤ gs.length := by
    intro gs
    induction gs with
    | nil => simp
    | cons g gs ih =>
      have one : (findings order false g).length ≤ 1 := by cases g <;> simp [findings]
      simp only [flatMap_cons, length_append, length_cons]
      omega
  have keys := ((Plan.nodup_eraseDups ((inOrder order hits).map (·.key))).subperm
    fun k hk => mem_eraseDups.1 hk).length_le
  have grouped : (groups (inOrder order hits)).length ≤ (inOrder order hits).length := by
    simpa [groups_eq] using keys
  exact Nat.le_trans (single _) grouped

theorem length_inOrder_le {α : Type} {g : Source → List α}
    (h : ∀ s, ((hits.lookup s).getD []).length ≤ (g s).length) :
    (inOrder order hits).length ≤ (order.flatMap g).length := by
  unfold inOrder
  induction order with
  | nil => simp
  | cons s order ih =>
    have first := h s
    simp only [flatMap_cons, length_append]
    omega

end Merge

namespace Portfolio

open TriStore.Action

variable {p : Portfolio} {x : Source → Shelf} {w : World} {name : String} {kind : Option Kind}
  {policy : Policy}

theorem exists_tourOf {answers : Source → Except Failure (List Hit)} {hits : Source → List Hit}
    (o : SearchOptions) (policy : Policy) (order : List Source)
    (answered : ∀ s ∈ order, answers s = .ok (hits s)) (tour : Tour) :
    ∃ visited tour', tourOf answers o policy order tour = .ok tour' ∧ visited <+: order ∧
      tour'.hits = tour.hits ++ visited.map (fun s => (s, hits s)) ∧
      ∀ front s back, order = front ++ s :: back →
        isExhaustive o policy = true ∨ (∀ t ∈ front, hits t = []) → s ∈ visited := by
  induction order generalizing tour with
  | nil => exact ⟨[], tour, rfl, prefix_rfl, by simp, by simp⟩
  | cons r rest ih =>
    rw [tourOf, answered r (.head _)]
    dsimp only
    split
    · next last =>
      obtain ⟨some, limited⟩ : hits r ≠ [] ∧ isExhaustive o policy = false := by simpa using last
      refine ⟨[r], _, rfl, by simp, by simp, fun front s back split reached => ?_⟩
      cases front with
      | nil => simp [(List.cons.inj split).1]
      | cons t front =>
        obtain ⟨rfl, -⟩ := List.cons.inj split
        simp [limited, some] at reached
    · obtain ⟨visited, tour', toured, front, brought, reaches⟩ :=
        ih (fun s hs => answered s (mem_cons_of_mem r hs))
          { tour with hits := tour.hits ++ [(r, hits r)], searched := tour.searched ++ [r] }
      refine ⟨r :: visited, tour', toured, cons_prefix_cons.2 ⟨rfl, front⟩, by simp [brought],
        fun front s back split reached => ?_⟩
      cases front with
      | nil => simp [(List.cons.inj split).1]
      | cons t front =>
        obtain ⟨rfl, later⟩ := List.cons.inj split
        exact mem_cons_of_mem _ (reaches front s back later (reached.imp id fun none t ht => none t (.tail _ ht)))

/-- Stores in memory answer in time and hold describable contents, the caches agree with them, and the query
can be encoded. -/
structure Searchable (p : Portfolio) (x : Source → Shelf) (name : String) (kind : Option Kind) (w : World) :
    Prop where
  agrees : Agrees (fun _ => True) (fun _ q k => q = name ∧ k = kind) x w
  inTime : ∀ s, p.AnswersInTime (x s)
  answers : ∀ s, (x s).check = .ok ()
  describable : ∀ s, ∀ kc ∈ (x s).contents, Describable kc.2
  encodes : Digest.Encodes (searchText name kind)

structure Answers (x : Source → Shelf) (name : String) (kind : Option Kind) (s : Source) (hits : List Hit) :
    Prop where
  answer : answer x name kind s = .ok hits
  whole : (x s).hits s name kind = .ok hits
  versions : ∀ h ∈ hits, Version.check h.version = .ok ()
  length : hits.length ≤ (x s).contents.length
  exact : Name.normalize name ≠ "" → ∀ k c, (k, c) ∈ (x s).contents → kind.all (· == k.kind) = true →
    Name.normalize k.name = Name.normalize name → ∃ h ∈ hits, h.key.name = Name.normalize name

theorem Searchable.exists_answers (h : p.Searchable x name kind w) (s : Source) :
    ∃ hits, Answers x name kind s hits := by
  obtain ⟨es, listed, sound⟩ := Shelf.entries_sound (h.answers s) (h.describable s) kind
  obtain ⟨hits, found, versions⟩ := Hit.among_sound sound s name
  have whole : (x s).hits s name kind = .ok hits := by rw [Shelf.hits, listed, ok_bind, found]
  obtain ⟨bs, hbs⟩ := h.encodes
  have key := (resultsKey_eq_ok (s := s)).2 ⟨bs, hbs, rfl⟩
  refine ⟨hits, (answer_of_ok key).trans whole, whole, versions, ?_, fun named k c held hkind same => ?_⟩
  · obtain ⟨-, -, made⟩ := bind_eq_ok.1 listed
    have same := congrArg List.length (mapM_eq_ok_iff.1 made)
    have fewer := length_filter_le (fun kc : Key × String => kind.all (· == kc.1.kind)) (x s).sorted
    simp only [length_map] at same
    rw [same, Shelf.sorted, length_mergeSort] at fewer
    exact Nat.le_trans (Hit.length_among_le found) fewer
  · obtain ⟨-, there, -⟩ := Shelf.entries_eq_ok listed
    obtain ⟨e, he, made⟩ := there _ held hkind
    have called : e.key.name = Name.normalize name := by
      rw [(Shelf.entryOf_eq_ok made).1]
      exact same
    obtain ⟨hit, mem, key⟩ := Hit.exists_mem_among found named he called
    exact ⟨hit, mem, by rw [key, called]⟩

theorem lookup_visited (visited : List Source) (hits : Source → List Hit) (s : Source) :
    (visited.map fun s => (s, hits s)).lookup s = if s ∈ visited then some (hits s) else none := by
  induction visited with
  | nil => rfl
  | cons t rest ih =>
    rw [map_cons, lookup_cons, ih]
    by_cases eq : s = t
    · simp [eq]
    · rw [beq_false_of_ne eq]
      simp [eq]

section Named

variable (h : p.Searchable x name kind w)
  (resolved : p.policyFor w.disk.files { kind, pageSize := wholePage } = .ok policy)
  (named : Name.normalize name ≠ "") {front back : List Source} {s : Source}
  (order : policy.priority = front ++ s :: back)
  (reached : isExhaustive { kind, pageSize := wholePage } policy = true ∨
    ∀ t ∈ front, (x t).hits t name kind = .ok [])
  (few : (policy.priority.flatMap fun t => (x t).contents).length ≤ 10000) {k : Key} {c : String}
  (held : (k, c) ∈ (x s).contents) (hkind : kind.all (· == k.kind) = true)
  (same : Name.normalize k.name = Name.normalize name)

include h resolved named order reached few held hkind same

theorem exists_freshPage : ∃ page, p.freshPage w.disk.files x name { kind, pageSize := wholePage } = .ok page ∧
      ∃ f ∈ page.findings, f.key.name = Name.normalize name := by
  obtain ⟨hits, answers⟩ := Classical.skolem.1 h.exists_answers
  obtain ⟨visited, tour, toured, -, brought, reaches⟩ :=
    exists_tourOf { kind, pageSize := wholePage } policy policy.priority
      (fun t _ => (answers t).answer) {}
  rw [nil_append] at brought
  have visits : s ∈ visited := by
    refine reaches front s back order (reached.imp id fun none t ht => ?_)
    exact Except.ok.inj ((answers t).whole.symm.trans (none t ht))
  -- the hit is merged with those of the other stores
  obtain ⟨hit, mem, called⟩ := (answers s).exact named k c held hkind same
  have merged : hit ∈ Merge.inOrder policy.priority tour.hits := by
    refine mem_flatMap.2 ⟨s, order ▸ by simp, ?_⟩
    rw [brought, lookup_visited, if_pos visits]
    exact mem
  obtain ⟨f, hf, key⟩ := Merge.exists_mem_merge merged false
  -- and the page is large enough for all of them
  have fits : (Merge.merge policy.priority tour.hits false).length ≤ 10000 := by
    refine Nat.le_trans Merge.length_merge_le (Nat.le_trans (Merge.length_inOrder_le fun t => ?_) few)
    rw [brought, lookup_visited]
    split
    · exact (answers t).length
    · exact Nat.zero_le _
  have checked : Merge.check policy.priority tour.hits = .ok () := by
    refine Merge.check_eq_ok (fun found hfound => ?_) _
    rw [brought] at hfound
    obtain ⟨t, -, rfl⟩ := mem_map.1 hfound
    exact (answers t).versions
  refine ⟨pageOf { kind, pageSize := wholePage } policy.priority tour (.number 1) (.number 10000), ?_,
    f, ?_, by rw [key, called]⟩
  · rw [freshPage, resolved, ok_bind, checkOptions_of_fits ⟨rfl, rfl, rfl⟩, ok_bind, toured, ok_bind,
      pageFrom, checked, ok_bind]
    rfl
  · show f ∈ List.take 10000 (List.drop 0 (Finding.sort policy.priority .relevance _))
    rw [drop_zero, take_of_length_le (by rw [Finding.sort, length_mergeSort]; exact fits)]
    exact mem_mergeSort.2 hf

/-- An element is found by its name, of any kind or of the one asked for, if its store is visited and all
elements fit on a page. -/
theorem find_by_name_exact : ∃ f w', (p.findByName name kind).ends w = (.ok (some f), w') ∧
      f.key.name = Name.normalize name := by
  obtain ⟨page, fresh, f, hf, called⟩ :=
    exists_freshPage h resolved named order reached few held hkind same
  obtain ⟨r, w', searched, plain, -⟩ := ends_search (o := { kind, pageSize := wholePage })
    (oneMeaning_single name kind) h.inTime (fun _ => ⟨rfl, rfl⟩) h.agrees
  rw [fresh] at plain
  cases r with
  | error e => cases plain
  | ok page' =>
    obtain rfl := Except.ok.inj plain
    have found : (page'.findings.find? (·.key.name == Name.normalize name)).isSome = true :=
      List.find?_isSome.2 ⟨f, hf, by simpa using called⟩
    obtain ⟨g, first⟩ := Option.isSome_iff_exists.1 found
    refine ⟨g, w', ?_, by simpa using List.find?_some first⟩
    rw [findByName, ends_bind_of_ok searched]
    dsimp only
    rw [first]
    rfl

end Named

/-- The remote element is found by its name, as nothing here is like it. -/
theorem find_by_name_exact_crossed : ∃ f w',
    (findByName { home := default } "B.md" none).ends crossed = (.ok (some f), w') ∧ f.key.name = "b" := by
  have searchable : Searchable { home := default } crossedShelves "B.md" none crossed := by
    refine ⟨worldOn_agrees .., fun s => nofun, fun s => ?_, fun s => ?_, ⟨_, rfl⟩⟩
    · cases s <;> rfl
    · cases s <;> decide +kernel
  have order : (policyFor { home := default } crossed.disk.files
      { kind := none, pageSize := wholePage }).toOption.map (·.priority) =
        some [.home, .remote, .registry] := by decide +kernel
  obtain ⟨policy, resolved, order⟩ := Option.map_eq_some_iff.1 order
  have none : ((crossedShelves .home).hits .home "B.md" none).toOption.map (·.isEmpty) = some true := by
    decide +kernel
  obtain ⟨hits, found, empty⟩ := Option.map_eq_some_iff.1 none
  have normal : Name.normalize "B.md" = "b" := by decide +kernel
  have exact := find_by_name_exact (k := ⟨.persona, "b"⟩) (c := "y") searchable
    (eq_ok_of_toOption resolved) (by rw [normal]; decide)
    (show policy.priority = [.home] ++ .remote :: [.registry] from order)
    (.inr fun t ht => by
      rw [mem_singleton.1 ht, ← isEmpty_iff.1 empty]
      exact eq_ok_of_toOption found)
    (by rw [order]; decide) (by decide) rfl (by decide +kernel)
  rwa [normal] at exact

/-- An element named as asked is not found when a store visited before has one that is like it. -/
theorem find_by_name_inexact : ((findByName { home := default } "helper" none).ends { crossed with
      home := { backing := .shelf { crossedShelves .home with
        contents := [(⟨.persona, "helper-two"⟩, "")] } }
      remote := { backing := .shelf { crossedShelves .remote with
        contents := [(⟨.persona, "helper"⟩, "")] } } }).1.toOption.map (·.map (·.key.name)) =
      some (some "helper-two") := by
  decide +kernel

end Portfolio

end TriStore
