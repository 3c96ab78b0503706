import Mathlib.Data.List.Induction
import TriStore.Proofs.Comparison
import TriStore.Proofs.Paging

/-!
The elements that several stores have, and the versions they have them in, as two reports tell them.
-/
namespace TriStore
open List Option Divergence Merge

theorem map_of_mapM {α β γ ε : Type} {f : α → Except ε β} {l : List α} {bs : List β} {g : β → γ} {k : α → γ}
    (made : l.mapM f = .ok bs) (one : ∀ a b, f a = .ok b → g b = k a) : bs.map g = l.map k := by
  have same := mapM_eq_ok_iff.1 made
  clear made
  induction l generalizing bs with
  | nil => simp_all
  | cons a l ih =>
    cases bs with
    | nil => simp at same
    | cons b bs =>
      obtain ⟨first, rest⟩ := List.cons.inj same
      rw [map_cons, map_cons, ih rest, one a b first]

namespace Shelf

variable {x : Shelf} {kind : Option Kind}

def ofKind (x : Shelf) (kind : Option Kind) : List (Key × String) :=
  x.contents.filter fun kc => kind.all (· == kc.1.kind)

def called (x : Shelf) (name : String) (kind : Option Kind) : List (Key × String) :=
  (x.ofKind kind).filter fun kc => Name.normalize kc.1.name == Name.normalize name

def version? (x : Shelf) (k : Key) : Option String := (x.copy k).map (·.version)

theorem keys_entries {es : List Entry} (h : x.entries kind = .ok es) :
    (es.map (·.key)).Perm ((x.ofKind kind).map fun kc => Key.of kc.1.kind kc.1.name) := by
  obtain ⟨_, -, made⟩ := bind_eq_ok.1 h
  rw [map_of_mapM made fun kc e he => (entryOf_eq_ok he).1]
  exact ((mergeSort_perm x.contents _).filter _).map _

end Shelf

namespace Hit

variable {s : Source} {query : String} {es : List Entry} {hits : List Hit}

theorem entries_among (h : among s query es = .ok hits) : (∀ h ∈ hits, h.source = s) ∧
    (hits.map (·.entry)).Subperm es ∧ (Relevance.tokenize query = [] → (hits.map (·.entry)).Perm es) := by
  obtain ⟨scored, made, sorted⟩ := bind_eq_ok.1 h
  obtain rfl := Except.ok.inj sorted
  have whole : scored.map (·.entry) = es := by
    refine (map_of_mapM made fun e hit made => ?_).trans (map_id es)
    obtain ⟨_, -, made⟩ := bind_eq_ok.1 made
    rw [← Except.ok.inj made, id]
  have kept := mergeSort_perm (scored.filter (0 < ·.score)) fun a b =>
    b.score < a.score || (b.score == a.score && a.key.le b.key)
  refine ⟨fun h hh => ?_, ?_, fun none => ?_⟩
  · obtain ⟨e, -, made⟩ := (mapM_eq_ok made).2 h (mem_filter.1 (kept.mem_iff.1 hh)).1
    obtain ⟨_, -, made⟩ := bind_eq_ok.1 made
    rw [← Except.ok.inj made]
  · rw [← whole]
    exact (kept.map _).subperm.trans (filter_sublist.map _).subperm
  · have all : scored.filter (0 < ·.score) = scored := by
      refine filter_eq_self.2 fun h hh => ?_
      obtain ⟨e, -, made⟩ := (mapM_eq_ok made).2 h hh
      rw [Relevance.score, none] at made
      rw [← Except.ok.inj made]
      rfl
    rw [all] at kept ⊢
    exact whole ▸ kept.map _

end Hit

namespace Divergence

variable {l versions : List (Source × String)} {pairs : List (Source × String)} {order : List Source}

theorem map_fst_put (s : Source) (v : String) (l : List (Source × String)) :
    (put s v l).map (·.1) = if s ∈ l.map (·.1) then l.map (·.1) else l.map (·.1) ++ [s] := by
  induction l with
  | nil => rfl
  | cons y l ih =>
    unfold put
    by_cases same : y.1 = s
    · simp [same]
    · have apart : ¬s = y.1 := fun h => same h.symm
      simp only [beq_iff_eq, same, if_false, map_cons, ih, mem_cons, apart, false_or]
      split <;> rfl

theorem put_of_notMem {s : Source} (v : String) (absent : s ∉ l.map (·.1)) : put s v l = l ++ [(s, v)] := by
  induction l with
  | nil => rfl
  | cons y l ih =>
    have apart : y.1 ≠ s := fun h => absent (by simp [h])
    simp [put, apart, ih fun h => absent (.tail _ h)]

theorem tally_append (pairs : List (Source × String)) (y : Source × String) :
    tally (pairs ++ [y]) = put y.1 y.2 (tally pairs) := by
  simp [tally]

theorem fst_tally (pairs : List (Source × String)) : ((tally pairs).map (·.1)).Nodup ∧
    ∀ s, s ∈ (tally pairs).map (·.1) ↔ s ∈ pairs.map (·.1) := by
  induction pairs using List.reverseRecOn with
  | nil => exact ⟨nodup_nil, fun s => Iff.rfl⟩
  | append_singleton l y ih =>
    obtain ⟨nodup, same⟩ := ih
    rw [tally_append, map_fst_put, map_append, map_singleton]
    split
    · next there =>
      refine ⟨nodup, fun s => ?_⟩
      rw [mem_append, mem_singleton, ← same]
      exact ⟨.inl, fun h => h.elim id fun h => h ▸ there⟩
    · next absent =>
      refine ⟨nodup_append.2 ⟨nodup, by simp, ?_⟩, fun s => by rw [mem_append, mem_append, same]⟩
      rintro s hs t ht rfl
      exact absent (mem_singleton.1 ht ▸ hs)

theorem tally_eq_self (nodup : (pairs.map (·.1)).Nodup) : tally pairs = pairs := by
  induction pairs using List.reverseRecOn with
  | nil => rfl
  | append_singleton l y ih =>
    rw [map_append] at nodup
    obtain ⟨nodup, -, apart⟩ := nodup_append.1 nodup
    rw [tally_append, ih nodup]
    exact put_of_notMem _ fun h => apart _ h y.1 (by simp) rfl

theorem pairwise_rank (nodup : order.Nodup) : order.Pairwise fun s t => rank order s < rank order t := by
  rw [pairwise_iff_getElem]
  intro i j hi hj below
  rw [rank_eq_idxOf nodup (getElem_mem hi), rank_eq_idxOf nodup (getElem_mem hj), nodup.idxOf_getElem,
    nodup.idxOf_getElem]
  exact below

theorem pairwise_candidates (versions : List (Source × String)) (order : List Source) :
    (candidates versions order).Pairwise fun a b => rank order a.1 ≤ rank order b.1 := by
  refine (pairwise_mergeSort (fun a b c h h' => ?_) (fun a b => ?_) versions).imp of_decide_eq_true
  · simp only [decide_eq_true_eq] at *
    omega
  · simp only [Bool.or_eq_true, decide_eq_true_eq]
    omega

theorem candidates_eq (same : versions.Perm l)
    (sorted : l.Pairwise fun a b => rank order a.1 < rank order b.1) : candidates versions order = l := by
  have apart : (l.map fun c => rank order c.1).Nodup := pairwise_map.2 (sorted.imp Nat.ne_of_lt)
  have perm : (candidates versions order).Perm l := (mergeSort_perm versions _).trans same
  refine perm.eq_of_pairwise (fun a b ha hb h h' => ?_) (pairwise_candidates _ _) (sorted.imp Nat.le_of_lt)
  exact inj_on_of_nodup_map apart (perm.mem_iff.1 ha) hb (Nat.le_antisymm h h')

theorem exists_ofVersions? (given : versions ≠ []) (order : List Source) :
    ∃ r, ofVersions? versions order = some r ∧ r.versions = versions := by
  have listed : candidates versions order ≠ [] := fun none =>
    given (length_eq_zero_iff.1 (by rw [← length_mergeSort, ← candidates, none]; rfl))
  have recommended : (recommend? versions order).isSome = true := by
    unfold recommend?
    split
    · next none => exact absurd none listed
    · dsimp only
      split <;> rfl
  obtain ⟨⟨s, reason⟩, recommended⟩ := isSome_iff_exists.1 recommended
  exact ⟨_, by rw [ofVersions?, recommended]; rfl, rfl⟩

/-- Some version can be read, or the first one in the order is given at least. -/
def Settles (versions : List (Source × String)) (order : List Source) : Prop :=
  (∃ c ∈ versions, (Version.parse? c.2).isSome = true) ∨ ∀ c ∈ (candidates versions order).head?, c.2 ≠ ""

theorem isNewest_unknown {a : Source × String} (newest : IsNewest (·.2) a l)
    (unknown : Version.parse? a.2 = none) : l.head? = some a ∧ ∀ c ∈ l, Version.parse? c.2 = none := by
  have none : ∀ c ∈ l, Version.parse? c.2 = none := by
    intro c hc
    by_contra known
    have older := compareVersions_of_unknown unknown (isSome_iff_ne_none.2 known)
    exact Std.OrientedCmp.not_isLE_of_lt older (newest.isLE hc)
  refine ⟨?_, none⟩
  obtain ⟨before, after, rfl, older, -⟩ := newest
  cases before with
  | nil => rfl
  | cons c before =>
    have below := older c (.head _)
    simp [compareVersions, unknown, none c (by simp)] at below

theorem recommended_eq_iff {r r' : Divergence} (same : versions.Perm l)
    (sorted : l.Pairwise fun a b => rank order a.1 < rank order b.1) (hr : ofVersions? versions order = some r)
    (hr' : ofVersions? (l.filter (!·.2.isEmpty)) order = some r') :
    r.recommended = r'.recommended ↔ Settles versions order := by
  obtain ⟨⟨s, reason⟩, recommended, rfl⟩ := map_eq_some_iff.1 hr
  obtain ⟨⟨s', reason'⟩, recommended', rfl⟩ := map_eq_some_iff.1 hr'
  obtain ⟨v, newest⟩ := isNewest_of_recommend? recommended
  obtain ⟨v', newest'⟩ := isNewest_of_recommend? recommended'
  rw [candidates_eq (.refl _) (sorted.filter _)] at newest'
  rw [Settles, candidates_eq same sorted]
  rw [candidates_eq same sorted] at newest
  have apart : (l.map fun c => rank order c.1).Nodup := pairwise_map.2 (sorted.imp Nat.ne_of_lt)
  have given : v' ≠ "" := fun none => by simpa [none] using (mem_filter.1 newest'.mem).2
  have known : v ≠ "" → s = s' := fun given =>
    congrArg Prod.fst ((newest.filter (by simpa using given)).unique newest')
  cases parsed : Version.parse? v with
  | some version =>
    have given : v ≠ "" := by
      rintro rfl
      cases parsed
    exact ⟨fun _ => .inl ⟨_, same.mem_iff.2 newest.mem, by rw [parsed]; rfl⟩, fun _ => known given⟩
  | none =>
    obtain ⟨first, none⟩ := isNewest_unknown newest parsed
    rw [first]
    constructor
    · rintro rfl
      have one := inj_on_of_nodup_map apart newest.mem (mem_filter.1 newest'.mem).1 rfl
      exact .inr fun c hc => by rw [← Option.some.inj hc, one]; exact given
    · rintro (⟨c, hc, read⟩ | settled)
      · rw [none c (same.mem_iff.1 hc)] at read
        cases read
      · exact known (settled _ rfl)

/-- The first store gives no version and the others none that can be read: the first is recommended, and where
it is dropped the second. -/
theorem absent_version_divides : ∃ r r',
    ofVersions? [(.home, ""), (.remote, "abc"), (.registry, "def")] [.home, .remote, .registry] = some r ∧
    ofVersions? [(.remote, "abc"), (.registry, "def")] [.home, .remote, .registry] = some r' ∧
    r.recommended ≠ r'.recommended := by
  have sorted : [(Source.home, ""), (.remote, "abc"), (.registry, "def")].Pairwise fun a b =>
      rank [.home, .remote, .registry] a.1 < rank [.home, .remote, .registry] b.1 := by decide
  obtain ⟨r, hr, -⟩ := exists_ofVersions? (cons_ne_nil _ _) [Source.home, .remote, .registry]
  obtain ⟨r', hr', -⟩ := exists_ofVersions? (cons_ne_nil _ _) [Source.home, .remote, .registry]
  refine ⟨r, r', hr, hr', (recommended_eq_iff (.refl _) sorted hr hr').not.2 ?_⟩
  rintro (⟨c, hc, read⟩ | given)
  · have unknown : ∀ c ∈ [(Source.home, ""), (.remote, "abc"), (.registry, "def")],
        (Version.parse? c.2).isSome = false := by decide +kernel
    rw [unknown c hc] at read
    cases read
  · rw [candidates_eq (.refl _) sorted] at given
    exact given _ rfl rfl

end Divergence

theorem Merge.divergence_of_mem_findings {order : List Source} {all : Bool} {group : List Hit} {f : Finding}
    (h : f ∈ findings order all group) (several : f.isDuplicate = true) :
    f.divergence = Divergence.ofHits? group order := by
  cases group with
  | nil => cases h
  | cons first others =>
    rcases mem_cons.1 h with rfl | h
    · exact if_pos (of_decide_eq_true several)
    · cases all with
      | false => cases h
      | true =>
        obtain ⟨hit, -, rfl⟩ := mem_map.1 h
        exact if_pos (of_decide_eq_true several)

namespace Portfolio

open TriStore.Action

variable {p : Portfolio} {x : Source → Shelf} {w v v' : World} {name : String} {kind : Option Kind} {s : Source}
  {policy : Policy} {order : List Source} {hits : Source → List Hit} {k : Key} {d : Duplicate} {f : Finding}
  {fs : List Finding} {h : Hit}

def copiesOf (order : List Source) (hits : Source → List Hit) (k : Key) : List Hit :=
  order.flatMap fun s => (hits s).filter (·.key == k)

/-- The findings of a search through all stores, on one page. -/
def foundIn (order : List Source) (hits : Source → List Hit) : List Finding :=
  (Finding.sort order .relevance (Merge.merge order (order.map fun s => (s, hits s)) true)).take 10000

theorem copies_eq (order : List Source) (hits : Source → List Hit) (k : Key) :
    Merge.copies order (order.map fun s => (s, hits s)) k = copiesOf order hits k := by
  refine flatMap_congr fun s hs => ?_
  rw [lookup_visited, if_pos hs]
  rfl

theorem inOrder_eq (order : List Source) (hits : Source → List Hit) :
    Merge.inOrder order (order.map fun s => (s, hits s)) = order.flatMap hits := by
  refine flatMap_congr fun s hs => ?_
  rw [lookup_visited, if_pos hs]
  rfl

theorem exists_searchAll (h : p.Searchable x name kind w) (resolved : p.policyFor w.disk.files {} = .ok policy) :
    ∃ hits, (∀ s, Answers x name kind s (hits s)) ∧
      ∀ v : World, v.disk.files = w.disk.files → AgreesOn x name kind v →
        ∃ v', (p.searchAll name kind).ends v = (.ok (foundIn policy.priority hits), v') ∧
          v'.disk.files = w.disk.files ∧ AgreesOn x name kind v' := by
  obtain ⟨hits, answers⟩ := Classical.skolem.1 h.exists_answers
  refine ⟨hits, answers, fun v same agrees => ?_⟩
  obtain ⟨visited, tour, toured, front, brought, reaches⟩ :=
    exists_tourOf { kind, includeAll := true } policy policy.priority
      (fun t _ => (answers t).answer) {}
  -- every store is visited
  have whole : visited = policy.priority := by
    obtain ⟨rest, split⟩ := front
    cases rest with
    | nil => rw [← split, append_nil]
    | cons s rest =>
      have again := reaches visited s rest split.symm (.inl rfl)
      have nodup := nodup_policyFor resolved
      rw [← split] at nodup
      exact absurd rfl ((nodup_append.1 nodup).2.2 s again s (.head _))
  rw [nil_append, whole] at brought
  have readable : ∀ h ∈ Merge.inOrder policy.priority tour.hits, Version.check h.version = .ok () := by
    rw [brought, inOrder_eq]
    intro h hh
    obtain ⟨s, -, hh⟩ := mem_flatMap.1 hh
    exact (answers s).versions h hh
  have resolved' : p.policyFor w.disk.files { kind, includeAll := true } = .ok policy := resolved
  have page : p.freshPage w.disk.files x name (SearchOptions.paged { kind, includeAll := true } 1 10000) = _ :=
    (freshPage_paged_eq_ok resolved' rfl).2 ⟨tour, ⟨toured, readable⟩, rfl⟩
  obtain ⟨r, v', searched, plain, agrees'⟩ := ends_search
    (o := { kind, includeAll := true, pageSize := wholePage }) (oneMeaning_single name kind) h.inTime
    (fun _ => ⟨rfl, rfl⟩) agrees
  have frame := p.search_frame name { kind, includeAll := true, pageSize := wholePage } v
  rw [searched] at frame
  have fresh := plain.trans ((congrArg (p.freshPage · x name _) same).trans page)
  cases r with
  | error e => cases fresh
  | ok found =>
    have shown : found.findings = foundIn policy.priority hits := by
      have same : found.findings =
          (Finding.sort policy.priority .relevance (Merge.merge policy.priority tour.hits true)).take 10000 :=
        congrArg Page.findings (Except.ok.inj fresh)
      rwa [brought] at same
    refine ⟨v', ?_, by rw [frame.disk, same], agrees'⟩
    rw [searchAll, ends_bind_of_ok searched, shown]
    rfl

def Several (copies : List Hit) : Prop := ∃ a ∈ copies, ∃ b ∈ copies, a.source ≠ b.source

theorem of_mem_foundIn (hf : f ∈ foundIn order hits) :
    f.hit ∈ copiesOf order hits f.key ∧ (f.isDuplicate = true ↔ Several (copiesOf order hits f.key)) ∧
      (f.isDuplicate = true → f.divergence = Divergence.ofHits? (copiesOf order hits f.key) order) := by
  have merged : f ∈ (Merge.merge order (order.map fun s => (s, hits s)) true).filter (·.key == f.key) :=
    mem_filter.2 ⟨mem_mergeSort.1 (mem_of_mem_take hf), by simp⟩
  rw [filter_merge, copies_eq] at merged
  have represents := represents_findings order true (copiesOf order hits f.key)
  have hit : f.hit ∈ (Merge.findings order true (copiesOf order hits f.key)).map (·.hit) :=
    mem_map_of_mem merged
  rw [represents.hits] at hit
  exact ⟨hit, represents.duplicate f merged, divergence_of_mem_findings merged⟩

theorem perm_copiesOf (few : (order.flatMap hits).length ≤ 10000) (k : Key) :
    (((foundIn order hits).filter (·.key == k)).map (·.hit)).Perm (copiesOf order hits k) := by
  have all := merge_perm order (order.map fun s => (s, hits s))
  have room : foundIn order hits =
      Finding.sort order .relevance (Merge.merge order (order.map fun s => (s, hits s)) true) := by
    refine take_of_length_le ?_
    rw [inOrder_eq] at all
    rw [Finding.sort, length_mergeSort, ← length_map (·.hit), all.length_eq]
    exact few
  have own := (represents_findings order true (copiesOf order hits k)).hits
  rw [← copies_eq, ← filter_merge, if_pos rfl, copies_eq] at own
  rw [room, ← own]
  exact ((mergeSort_perm _ _).filter _).map _

theorem ends_duplicates (searched : (p.searchAll name kind).ends v = (.ok fs, v')) :
    (p.duplicates name kind).ends v = (.ok (duplicatesOf fs), v') := by
  rw [duplicates, ends_bind_of_ok searched]
  rfl

theorem keys_duplicatesOf (fs : List Finding) : (duplicatesOf fs).map (·.key) =
    ((fs.filter (·.isDuplicate)).map (·.key)).eraseDups.mergeSort Key.le := by
  simp [duplicatesOf, Function.comp_def]

theorem mem_keys_duplicatesOf : k ∈ (duplicatesOf fs).map (·.key) ↔ ∃ f ∈ fs, f.isDuplicate = true ∧ f.key = k := by
  rw [keys_duplicatesOf]
  simp [mem_mergeSort, mem_eraseDups, and_assoc]

theorem of_mem_duplicatesOf (hd : d ∈ duplicatesOf (foundIn order hits)) : Several (copiesOf order hits d.key) ∧
      d.versions = Divergence.tally (((foundIn order hits).filter (·.key == d.key)).map fun f =>
        (f.hit.source, f.hit.version)) ∧
      d.divergence = Divergence.ofHits? (copiesOf order hits d.key) order := by
  obtain ⟨f, hf, several, key⟩ := mem_keys_duplicatesOf.1 (mem_map_of_mem hd)
  obtain ⟨k, -, rfl⟩ := mem_map.1 hd
  dsimp only at key ⊢
  subst key
  have copies := (of_mem_foundIn hf).2.1.1 several
  have group : ((foundIn order hits).filter (·.isDuplicate)).filter (·.key == f.key) =
      (foundIn order hits).filter (·.key == f.key) := by
    rw [List.filter_filter]
    refine filter_congr fun g hg => ?_
    by_cases same : g.key = f.key
    · simp [same, (of_mem_foundIn hg).2.1.2 (same ▸ copies)]
    · simp [same]
  refine ⟨copies, by rw [group], ?_⟩
  rw [group]
  cases last : ((foundIn order hits).filter (·.key == f.key)).getLast? with
  | none =>
    have there : f ∈ (foundIn order hits).filter (·.key == f.key) := mem_filter.2 ⟨hf, by simp⟩
    simp [List.getLast?_eq_none_iff.1 last] at there
  | some g =>
    obtain ⟨hg, same⟩ := mem_filter.1 (mem_of_getLast? last)
    have same := eq_of_beq same
    obtain ⟨-, duplicate, divergence⟩ := of_mem_foundIn hg
    rw [same] at duplicate divergence
    exact divergence (duplicate.2 copies)

theorem mem_copiesOf : h ∈ copiesOf order hits k ↔ ∃ s ∈ order, h ∈ hits s ∧ h.key = k := by
  simp [copiesOf]

theorem exists_mem_foundIn (few : (order.flatMap hits).length ≤ 10000) (copy : h ∈ copiesOf order hits k) :
    ∃ f ∈ foundIn order hits, f.key = k ∧ f.hit = h := by
  obtain ⟨f, hf, rfl⟩ := mem_map.1 ((perm_copiesOf few k).mem_iff.2 copy)
  obtain ⟨hf, key⟩ := mem_filter.1 hf
  exact ⟨f, hf, eq_of_beq key, rfl⟩

theorem mem_keys_of_several (few : (order.flatMap hits).length ≤ 10000) (several : Several (copiesOf order hits k)) :
    k ∈ (duplicatesOf (foundIn order hits)).map (·.key) := by
  have copies := several
  obtain ⟨a, ha, -⟩ := several
  obtain ⟨f, hf, rfl, -⟩ := exists_mem_foundIn few ha
  exact mem_keys_duplicatesOf.2 ⟨f, hf, (of_mem_foundIn hf).2.1.2 copies, rfl⟩

theorem Answers.exists_entries (h : Answers x name kind s (hits s)) :
    ∃ es, (x s).entries kind = .ok es ∧ (∀ h ∈ hits s, h.source = s) ∧ ((hits s).map (·.entry)).Subperm es ∧
      (Relevance.tokenize name = [] → ((hits s).map (·.entry)).Perm es) := by
  obtain ⟨es, listed, found⟩ := bind_eq_ok.1 h.whole
  exact ⟨es, listed, Hit.entries_among found⟩

theorem length_hits_le (answers : ∀ s, Answers x name kind s (hits s)) (order : List Source) :
    (order.flatMap hits).length ≤ (order.flatMap fun s => (x s).ofKind kind).length := by
  rw [← inOrder_eq]
  refine length_inOrder_le fun s => ?_
  rw [lookup_visited]
  split
  · obtain ⟨es, listed, -, part, -⟩ := (answers s).exists_entries
    have fewer := part.length_le
    have keys := (Shelf.keys_entries listed).length_eq
    simp only [length_map] at fewer keys
    exact keys ▸ fewer
  · exact Nat.zero_le _

theorem Answers.copy_eq (answers : Answers x name kind s (hits s)) (tidy : (x s).Tidy)
    (hh : h ∈ hits s) : h.source = s ∧ kind.all (· == h.key.kind) = true ∧ (x s).copy h.key = some h.entry := by
  obtain ⟨es, listed, source, part, -⟩ := answers.exists_entries
  have he : h.entry ∈ es := part.subset (mem_map_of_mem hh)
  obtain ⟨content, held, made⟩ := tidy.of_mem_entries listed he
  exact ⟨source h hh, Shelf.kind_of_mem_entries listed he, Shelf.copy_of_get? held made⟩

theorem Answers.exists_hit (answers : Answers x "" kind s (hits s)) (tidy : (x s).Tidy)
    (fits : kind.all (· == k.kind) = true) (held : ((x s).get? k).isSome = true) : ∃ h ∈ hits s, h.key = k := by
  obtain ⟨es, listed, -, -, whole⟩ := answers.exists_entries
  obtain ⟨content, held⟩ := isSome_iff_exists.1 held
  obtain ⟨e, he, key⟩ := tidy.exists_mem_entries listed held fits
  obtain ⟨h, hh, rfl⟩ := mem_map.1 ((whole rfl).mem_iff.2 he)
  exact ⟨h, hh, key⟩

/-- An element of the kind that two stores of the order hold. -/
def IsShared (x : Source → Shelf) (order : List Source) (kind : Option Kind) (k : Key) : Prop :=
  kind.all (· == k.kind) = true ∧
    ∃ s ∈ order, ∃ t ∈ order, s ≠ t ∧ ((x s).get? k).isSome = true ∧ ((x t).get? k).isSome = true

theorem several_copiesOf_iff (tidy : ∀ s, (x s).Tidy) (answers : ∀ s, Answers x "" kind s (hits s)) :
    Several (copiesOf order hits k) ↔ IsShared x order kind k := by
  have holds {s : Source} {h : Hit} (hh : h ∈ hits s) : ((x s).get? h.key).isSome = true := by
    obtain ⟨content, held, -⟩ := Shelf.get?_of_copy ((answers s).copy_eq (tidy s) hh).2.2
    exact isSome_of_eq_some held
  constructor
  · rintro ⟨a, ha, b, hb, apart⟩
    obtain ⟨s, hs, hit, rfl⟩ := mem_copiesOf.1 ha
    obtain ⟨t, ht, hit', key⟩ := mem_copiesOf.1 hb
    obtain ⟨rfl, fits, -⟩ := (answers s).copy_eq (tidy s) hit
    obtain ⟨rfl, -⟩ := (answers t).copy_eq (tidy t) hit'
    exact ⟨fits, _, hs, _, ht, apart, holds hit, key ▸ holds hit'⟩
  · rintro ⟨fits, s, hs, t, ht, apart, held, held'⟩
    obtain ⟨a, ha, key⟩ := (answers s).exists_hit (tidy s) fits held
    obtain ⟨b, hb, key'⟩ := (answers t).exists_hit (tidy t) fits held'
    refine ⟨a, mem_copiesOf.2 ⟨s, hs, ha, key⟩, b, mem_copiesOf.2 ⟨t, ht, hb, key'⟩, ?_⟩
    rwa [((answers s).copy_eq (tidy s) ha).1, ((answers t).copy_eq (tidy t) hb).1]

/-- The report on all elements lists, in the order of their keys and once each, elements that two stores hold,
with their versions; and all of them, with all versions, if there are no more elements than fit on a page. -/
theorem duplicates_complete (h : p.Searchable x "" kind w) (tidy : ∀ s, (x s).Tidy)
    (resolved : p.policyFor w.disk.files {} = .ok policy) :
    ∃ ds w', (p.duplicates "" kind).ends w = (.ok ds, w') ∧
      (ds.map (·.key)).Pairwise (fun k k' => k.le k' = true) ∧ (ds.map (·.key)).Nodup ∧
      (∀ d ∈ ds, IsShared x policy.priority kind d.key ∧ (d.versions.map (·.1)).Nodup ∧
        ∀ s v, (s, v) ∈ d.versions → s ∈ policy.priority ∧ (x s).version? d.key = some v) ∧
      ((policy.priority.flatMap fun s => (x s).ofKind kind).length ≤ 10000 →
        (∀ k, IsShared x policy.priority kind k → k ∈ ds.map (·.key)) ∧
        ∀ d ∈ ds, ∀ s ∈ policy.priority, ∀ v, (x s).version? d.key = some v → (s, v) ∈ d.versions) := by
  obtain ⟨hits, answers, finds⟩ := exists_searchAll h resolved
  obtain ⟨w', searched, -⟩ := finds w rfl h.agrees
  have trans : ∀ a b c : Key, a.le b = true → b.le c = true → a.le c = true := fun _ _ _ => Key.le_trans
  have sound {d : Duplicate} (hd : d ∈ duplicatesOf (foundIn policy.priority hits)) {s : Source} {v : String}
      (listed : (s, v) ∈ d.versions) : s ∈ policy.priority ∧ (x s).version? d.key = some v := by
    rw [(of_mem_duplicatesOf hd).2.1] at listed
    obtain ⟨f, hf, same⟩ := mem_map.1 (mem_tally listed)
    obtain ⟨rfl, rfl⟩ := Prod.mk.inj same
    obtain ⟨hf, key⟩ := mem_filter.1 hf
    obtain ⟨s, hs, hit, -⟩ := mem_copiesOf.1 (of_mem_foundIn hf).1
    obtain ⟨rfl, -, copy⟩ := (answers s).copy_eq (tidy s) hit
    refine ⟨hs, ?_⟩
    rw [← eq_of_beq key, Shelf.version?, show f.key = f.hit.key from rfl, copy]
    rfl
  have shared {d : Duplicate} (hd : d ∈ duplicatesOf (foundIn policy.priority hits)) :
      IsShared x policy.priority kind d.key :=
    (several_copiesOf_iff tidy answers).1 (of_mem_duplicatesOf hd).1
  refine ⟨_, w', ends_duplicates searched, ?_, ?_, fun d hd =>
    ⟨shared hd, (of_mem_duplicatesOf hd).2.1 ▸ (fst_tally _).1, fun s v => sound hd⟩, fun few => ?_⟩
  · rw [keys_duplicatesOf]
    exact pairwise_mergeSort trans Key.le_total _
  · rw [keys_duplicatesOf]
    exact (mergeSort_perm _ _).nodup_iff.2 (Plan.nodup_eraseDups _)
  · have few := Nat.le_trans (length_hits_le answers _) few
    refine ⟨fun k shared => mem_keys_of_several few ((several_copiesOf_iff tidy answers).2 shared),
      fun d hd s hs v version => ?_⟩
    obtain ⟨e, copy, -⟩ := map_eq_some_iff.1 version
    obtain ⟨content, held, -⟩ := Shelf.get?_of_copy copy
    obtain ⟨h, hh, key⟩ := (answers s).exists_hit (tidy s) (shared hd).1 (isSome_of_eq_some held)
    obtain ⟨f, hf, same, rfl⟩ := exists_mem_foundIn few (mem_copiesOf.2 ⟨s, hs, hh, key⟩)
    have named : s ∈ d.versions.map (·.1) := by
      rw [(of_mem_duplicatesOf hd).2.1, (Divergence.fst_tally _).2, List.map_map]
      exact mem_map.2 ⟨f, mem_filter.2 ⟨hf, beq_iff_eq.2 same⟩, ((answers s).copy_eq (tidy s) hh).1⟩
    obtain ⟨⟨t, v'⟩, listed, rfl⟩ := mem_map.1 named
    cases version.symm.trans (sound hd listed).2
    exact listed

theorem outdated_searchable {name : String} (encodes : Digest.Encodes (searchText name none)) :
    Searchable { home := default } outdatedShelves name none outdated := by
  refine ⟨worldOn_agrees .., fun s => nofun, fun s => ?_, fun s => ?_, encodes⟩
  · cases s <;> rfl
  · cases s <;> decide +kernel

theorem outdated_tidy (s : Source) : (outdatedShelves s).Tidy := by
  cases s <;> exact ⟨by decide +kernel, by decide +kernel⟩

theorem outdated_policy : ∃ policy, policyFor { home := default } outdated.disk.files {} = .ok policy ∧
    policy.priority = [.home, .remote, .registry] := by
  have order : (policyFor { home := default } outdated.disk.files {}).toOption.map (·.priority) =
      some [.home, .remote, .registry] := by decide +kernel
  obtain ⟨policy, resolved, order⟩ := map_eq_some_iff.1 order
  exact ⟨policy, eq_ok_of_toOption resolved, order⟩

/-- The element that both stores hold is reported with both versions. -/
theorem duplicates_complete_outdated : ∃ ds w', (duplicates { home := default } "" none).ends outdated = (.ok ds, w') ∧
    ∃ d ∈ ds, d.key = ⟨.persona, "a"⟩ ∧ (.home, "1.10.0") ∈ d.versions ∧ (.remote, "1.9.0") ∈ d.versions := by
  obtain ⟨policy, resolved, order⟩ := outdated_policy
  obtain ⟨ds, w', reported, -, -, -, whole⟩ := duplicates_complete (outdated_searchable ⟨_, rfl⟩) outdated_tidy
    resolved
  rw [order] at whole
  obtain ⟨listed, versions⟩ := whole (by decide)
  obtain ⟨d, hd, key⟩ := List.mem_map.1 (listed ⟨.persona, "a"⟩
    ⟨rfl, .home, by decide, .remote, by decide, by decide, by decide, by decide⟩)
  refine ⟨ds, w', reported, d, hd, key, versions d hd .home (by decide) _ ?_, versions d hd .remote (by decide) _ ?_⟩
  · rw [key]
    decide +kernel
  · rw [key]
    decide +kernel

theorem Answers.keys_hits (answers : Answers x name kind s (hits s)) :
    ((hits s).map (·.key)).Subperm (((x s).ofKind kind).map fun kc => Key.of kc.1.kind kc.1.name) := by
  obtain ⟨es, listed, -, ⟨es', perm, sub⟩, -⟩ := answers.exists_entries
  have keys := (perm.symm.map (·.key)).subperm.trans
    ((sub.map (·.key)).subperm.trans (Shelf.keys_entries listed).subperm)
  rwa [List.map_map] at keys

theorem Answers.kind_eq (answers : Answers x name kind s (hits s)) (hh : h ∈ hits s)
    (named : h.key.name = Name.normalize name) : ∃ kc ∈ (x s).called name kind, kc.1.kind = h.key.kind := by
  obtain ⟨kc, held, key⟩ := mem_map.1 (answers.keys_hits.subset (mem_map_of_mem hh))
  rw [← key] at named ⊢
  simp only [Key.of] at named ⊢
  exact ⟨kc, mem_filter.2 ⟨held, beq_iff_eq.2 named⟩, rfl⟩

theorem Answers.length_copies_le (answers : Answers x name kind s (hits s)) (named : k.name = Name.normalize name) :
    ((hits s).filter (·.key == k)).length ≤ ((x s).called name kind).length := by
  have counted := answers.keys_hits.count_le k
  rw [count_eq_countP, count_eq_countP, countP_map, countP_map,
    countP_eq_length_filter, countP_eq_length_filter] at counted
  refine Nat.le_trans counted (Sublist.length_le ?_)
  refine monotone_filter_right _ fun kc same => ?_
  rw [← named, ← eq_of_beq same]
  simp [Key.of]

def versionsIn (order : List Source) (hits : Source → List Hit) (k : Key) : List (Source × String) :=
  (copiesOf order hits k).map fun h => (h.source, h.version)

theorem pairwise_versionsIn (answers : ∀ s, Answers x name kind s (hits s)) (nodup : order.Nodup)
    (named : k.name = Name.normalize name) (single : ∀ s ∈ order, ((x s).called name kind).length ≤ 1) :
    (versionsIn order hits k).Pairwise fun a b =>
      Divergence.rank order a.1 < Divergence.rank order b.1 := by
  have source {s : Source} {h : Hit} (hh : h ∈ (hits s).filter (·.key == k)) : h.source = s := by
    obtain ⟨es, -, source, -⟩ := (answers s).exists_entries
    exact source h (mem_filter.1 hh).1
  rw [versionsIn, pairwise_map, copiesOf, pairwise_flatMap]
  refine ⟨fun s hs => ?_, (pairwise_rank nodup).imp fun below a ha b hb => ?_⟩
  · have one := Nat.le_trans ((answers s).length_copies_le named) (single s hs)
    generalize (hits s).filter (·.key == k) = copies at one
    rcases copies with _ | ⟨h, _ | ⟨h', rest⟩⟩
    · exact .nil
    · exact pairwise_singleton _ _
    · simp at one
  · rw [source ha, source hb]
    exact below

theorem versionsOf_copiesOf (nodup : ((versionsIn order hits k).map (·.1)).Nodup) :
    Divergence.versionsOf (copiesOf order hits k) = (versionsIn order hits k).filter (!·.2.isEmpty) := by
  have filtered : ((copiesOf order hits k).filter (!·.version.isEmpty)).map (fun h => (h.source, h.version)) =
      (versionsIn order hits k).filter (!·.2.isEmpty) := by
    rw [versionsIn, List.filter_map]
    rfl
  rw [Divergence.versionsOf, filtered]
  exact tally_eq_self ((filter_sublist.map _).nodup nodup)

theorem exists_compareStores
    (searched : (p.searchAll name kind).ends v = (.ok fs, v')) (resolved : p.policyFor v'.disk.files {} = .ok policy)
    (readable : ∀ f ∈ fs, Version.check f.hit.version = .ok ()) (hf : f ∈ fs)
    (named : f.key.name = Name.normalize name) :
    ∃ r v'', (p.compareStores name kind).ends v = (.ok (some r), v'') ∧
      r.versions = Divergence.tally ((fs.filter (·.key.name == Name.normalize name)).map fun f =>
        (f.hit.source, f.hit.version)) ∧ Divergence.ofVersions? r.versions policy.priority = some r := by
  have there : f ∈ fs.filter (·.key.name == Name.normalize name) := mem_filter.2 ⟨hf, beq_iff_eq.2 named⟩
  have readable (g : Finding) (hg : g ∈ fs.filter (·.key.name == Name.normalize name)) :
      Version.check g.hit.version = .ok () := readable g (mem_filter.1 hg).1
  rw [compareStores, ends_bind_of_ok searched]
  generalize fs.filter (·.key.name == Name.normalize name) = found at there readable
  have given : Divergence.tally (found.map fun f => (f.hit.source, f.hit.version)) ≠ [] := by
    intro none
    have listed := ((fst_tally (found.map fun f => (f.hit.source, f.hit.version))).2 f.hit.source).2
      (by rw [List.map_map]; exact List.mem_map_of_mem there)
    rw [none] at listed
    cases listed
  have checked : Divergence.check (Divergence.tally (found.map fun f => (f.hit.source, f.hit.version)))
      policy.priority = .ok () := by
    refine check_eq_ok_iff.2 fun c hc => ?_
    obtain ⟨g, hg, rfl⟩ := mem_map.1 (mem_tally hc)
    exact readable g hg
  obtain ⟨v'', decided, -⟩ := p.ends_searchPolicy { kind } v'
  rw [show p.policyFor v'.disk.files { kind } = .ok policy from resolved] at decided
  obtain ⟨r, made, versions⟩ := exists_ofVersions? given policy.priority
  refine ⟨r, v'', ?_, versions, versions ▸ made⟩
  rw [if_neg (by simpa using List.ne_nil_of_mem there), ends_bind_of_ok decided, ends_bind, ends_liftExcept, checked,
    made]
  rfl

/-- The two reports on the name of one element have the same versions of it. If all elements fit on the page
besides, and no store has two that are called so, they recommend the same store exactly where some version can
be read or the first store gives one. -/
theorem reports_agree (h : p.Searchable x name kind w) (resolved : p.policyFor w.disk.files {} = .ok policy) :
    ∃ ds w', (p.duplicates name kind).ends w = (.ok ds, w') ∧
      AgreesOn x name kind w' ∧ w'.disk.files = w.disk.files ∧ ∀ d ∈ ds, d.key.name = Name.normalize name →
        (∀ s ∈ policy.priority, ∀ kc ∈ (x s).called name kind, kc.1.kind = d.key.kind) →
        ∀ v : World, v.disk.files = w.disk.files → AgreesOn x name kind v →
          ∃ r v', (p.compareStores name kind).ends v = (.ok (some r), v') ∧ r.versions = d.versions ∧
            ((policy.priority.flatMap fun s => (x s).ofKind kind).length ≤ 10000 →
              (∀ s ∈ policy.priority, ((x s).called name kind).length ≤ 1) → ∀ c, d.divergence = some c →
                (r.recommended = c.recommended ↔ Divergence.Settles d.versions policy.priority)) := by
  obtain ⟨hits, answers, finds⟩ := exists_searchAll h resolved
  obtain ⟨w', searched, files, agrees⟩ := finds w rfl h.agrees
  refine ⟨_, w', ends_duplicates searched, agrees, files, fun d hd named only v same agrees => ?_⟩
  obtain ⟨several, versions, divergence⟩ := of_mem_duplicatesOf hd
  obtain ⟨f, hf, -, key⟩ := mem_keys_duplicatesOf.1 (mem_map_of_mem hd)
  obtain ⟨v', searched, files, -⟩ := finds v same agrees
  have readable : ∀ f ∈ foundIn policy.priority hits, Version.check f.hit.version = .ok () := by
    intro f hf
    obtain ⟨s, -, hit, -⟩ := mem_copiesOf.1 (of_mem_foundIn hf).1
    exact (answers s).versions _ hit
  obtain ⟨r, v'', compared, versions', recommended⟩ :=
    exists_compareStores searched (files ▸ resolved) readable hf (key ▸ named)
  -- what is called so is the one element
  have one : (foundIn policy.priority hits).filter (·.key.name == Name.normalize name) =
      (foundIn policy.priority hits).filter (·.key == d.key) := by
    refine filter_congr fun g hg => ?_
    obtain ⟨s, hs, hit, -⟩ := mem_copiesOf.1 (of_mem_foundIn hg).1
    by_cases called : g.key.name = Name.normalize name
    · obtain ⟨kc, there, same⟩ := (answers s).kind_eq hit called
      have kind : g.key.kind = d.key.kind := same.symm.trans (only s hs kc there)
      have key : g.key = d.key := congrArg₂ Key.mk kind (called.trans named.symm)
      simp [key, named]
    · have apart : g.key ≠ d.key := fun same => called (same ▸ named)
      simp [called, apart]
  rw [one, ← versions] at versions'
  refine ⟨r, v'', compared, versions', fun few single c diverges => ?_⟩
  have sorted := pairwise_versionsIn answers (nodup_policyFor resolved) named single
  have nodup : ((versionsIn policy.priority hits d.key).map (·.1)).Nodup :=
    pairwise_map.2 (sorted.imp fun below same => by rw [same] at below; exact Nat.lt_irrefl _ below)
  have shown := (perm_copiesOf (Nat.le_trans (length_hits_le answers _) few) d.key).map fun h => (h.source, h.version)
  rw [List.map_map] at shown
  have listed : d.versions.Perm (versionsIn policy.priority hits d.key) := by
    have whole := tally_eq_self ((shown.map (·.1)).nodup_iff.2 nodup)
    exact (versions.trans whole) ▸ shown
  rw [divergence, Divergence.ofHits?, versionsOf_copiesOf nodup] at diverges
  have made := (ite_none_right_eq_some.1 diverges).2
  exact recommended_eq_iff listed sorted (versions' ▸ recommended) made

/-- The two reports on an element that two stores hold, asked for one after the other. -/
theorem reports_agree_outdated : ∃ ds w', (duplicates { home := default } "a" none).ends outdated = (.ok ds, w') ∧
    ∃ d ∈ ds, d.key = ⟨.persona, "a"⟩ ∧
      ∃ r w'', (compareStores { home := default } "a" none).ends w' = (.ok (some r), w'') ∧ r.versions = d.versions ∧
        ∀ c, d.divergence = some c →
          (r.recommended = c.recommended ↔ Divergence.Settles d.versions [.home, .remote, .registry]) := by
  obtain ⟨policy, resolved, order⟩ := outdated_policy
  have searchable : Searchable { home := default } outdatedShelves "a" none outdated := outdated_searchable ⟨_, rfl⟩
  obtain ⟨ds, w', reported, agrees, files, same⟩ := reports_agree searchable resolved
  rw [order] at same
  have persona (s : Source) : ∀ kc ∈ (outdatedShelves s).called "a" none, kc.1.kind = .persona := by
    cases s <;> decide +kernel
  have normal : Name.normalize "a" = "a" := by decide +kernel
  -- each of the two stores has a hit
  obtain ⟨hits, answers, finds⟩ := exists_searchAll searchable resolved
  obtain ⟨_, searched, -⟩ := finds outdated rfl searchable.agrees
  have hit {s : Source} {c : String} (hs : s ∈ policy.priority)
      (held : (⟨.persona, "a"⟩, c) ∈ (outdatedShelves s).contents) :
      ∃ h ∈ copiesOf policy.priority hits ⟨.persona, "a"⟩, h.source = s := by
    obtain ⟨h, hh, called⟩ := (answers s).exact (by rw [normal]; decide) _ c held rfl rfl
    obtain ⟨kc, there, kind⟩ := (answers s).kind_eq hh called
    have key : h.key = ⟨.persona, "a"⟩ := congrArg₂ Key.mk (kind.symm.trans (persona s kc there)) (called.trans normal)
    exact ⟨h, mem_copiesOf.2 ⟨s, hs, hh, key⟩, ((answers s).copy_eq (outdated_tidy s) hh).1⟩
  obtain ⟨a, ha, here⟩ := hit (s := .home) (by rw [order]; decide) (.head _)
  obtain ⟨b, hb, there⟩ := hit (s := .remote) (by rw [order]; decide) (.head _)
  have listed := mem_keys_of_several (Nat.le_trans (length_hits_le answers policy.priority) (by rw [order]; decide))
    ⟨a, ha, b, hb, by rw [here, there]; decide⟩
  cases reported.symm.trans (ends_duplicates searched)
  obtain ⟨d, hd, key⟩ := mem_map.1 listed
  obtain ⟨r, w'', compared, versions, recommended⟩ := same d hd (by rw [key, normal])
    (fun s _ kc hkc => by rw [key]; exact persona s kc hkc) w' files agrees
  exact ⟨_, w', reported, d, hd, key, r, w'', compared, versions, recommended (by decide) (by decide +kernel)⟩

end Portfolio

end TriStore
