import TriStore.Proofs.Merging
import TriStore.Proofs.NamedElement
import TriStore.Proofs.Traversal

/-!
The pages of a search. What the stores bring is merged and put in order by one of four criteria,
each of them an order up to ties.
-/
namespace TriStore
open List

instance : Std.TransCmp Text.compare where
  eq_swap {s t} := by
    unfold Text.compare
    rw [Bool.and_comm]
    split
    · exact Std.OrientedOrd.eq_swap
    · by_cases below : Text.points s.toList < Text.points t.toList
      · have apart : Text.points t.toList ≠ Text.points s.toList := fun same => List.lt_irrefl _ (same ▸ below)
        simp [below, List.lt_asymm below, apart]
      · rcases Text.not_lt_iff.1 below with above | same
        · have apart : Text.points s.toList ≠ Text.points t.toList := fun same => List.lt_irrefl _ (same ▸ above)
          simp [below, above, apart]
        · rw [same, if_neg (List.lt_irrefl _), if_pos rfl]
          rfl
  isLE_trans {r s t} h h' := by
    have le (s t : String) : (Text.compare s t).isLE = Text.le s t := by
      unfold Text.le
      cases Text.compare s t <;> rfl
    rw [le] at *
    exact Text.le_trans h h'

theorem transCmp_on {α β : Type} (cmp : β → β → Ordering) [Std.TransCmp cmp] (f : α → β) :
    Std.TransCmp fun a b => cmp (f a) (f b) where
  eq_swap := Std.OrientedCmp.eq_swap
  isLE_trans := Std.TransCmp.isLE_trans

theorem then_ne_gt_iff {o o' : Ordering} : o.then o' ≠ .gt ↔ o = .lt ∨ o = .eq ∧ o' ≠ .gt := by
  cases o <;> simp

namespace Finding

variable {order : List Source} {sorting : Sorting}

/-- Earlier in the order of the stores, or there too and not later by name. -/
def ByRank (order : List Source) (a b : Finding) : Prop :=
  a.rank order < b.rank order ∨ a.rank order = b.rank order ∧ Text.le a.key.name b.key.name = true

/-- The order of two findings by each criterion. -/
def Precedes (order : List Source) : Sorting → Finding → Finding → Prop
  | .relevance, a, b => b.hit.score < a.hit.score ∨ a.hit.score = b.hit.score ∧ ByRank order a b
  | .name, a, b => Text.compare a.key.name b.key.name = .lt ∨
      Text.compare a.key.name b.key.name = .eq ∧ a.rank order ≤ b.rank order
  | .version, a, b => compareVersions a.hit.version b.hit.version = .gt ∨
      compareVersions a.hit.version b.hit.version = .eq ∧ ByRank order a b
  | .source, a, b => a.rank order < b.rank order ∨ a.rank order = b.rank order ∧
      (b.hit.score < a.hit.score ∨ a.hit.score = b.hit.score ∧ Text.le a.key.name b.key.name = true)

theorem compareBy_ne_gt_iff {a b : Finding} : compareBy order sorting a b ≠ .gt ↔ Precedes order sorting a b := by
  have name : Text.compare a.key.name b.key.name ≠ .gt ↔ Text.le a.key.name b.key.name = true := by
    simp [Text.le]
  have newer : compareVersions b.hit.version a.hit.version = .lt ↔
      compareVersions a.hit.version b.hit.version = .gt := Std.OrientedCmp.gt_iff_lt.symm
  have level : compareVersions b.hit.version a.hit.version = .eq ↔
      compareVersions a.hit.version b.hit.version = .eq := Std.OrientedCmp.eq_comm
  have score : b.hit.score = a.hit.score ↔ a.hit.score = b.hit.score := eq_comm
  cases sorting <;>
    simp only [compareBy, Precedes, ByRank, Ordering.then_assoc, then_ne_gt_iff, Nat.compare_eq_lt, Nat.compare_eq_eq,
      Nat.compare_ne_gt, name, newer, level, score]

theorem transCmp_compareBy (order : List Source) (sorting : Sorting) : Std.TransCmp (compareBy order sorting) := by
  have byName : Std.TransCmp fun a b : Finding => Text.compare a.key.name b.key.name :=
    transCmp_on Text.compare fun f : Finding => f.key.name
  have byRank : Std.TransCmp fun a b : Finding => compare (a.rank order) (b.rank order) :=
    transCmp_on compare (rank order)
  have byScore : Std.TransCmp fun a b : Finding => compare b.hit.score a.hit.score :=
    transCmp_on (fun m n : Nat => compare n m) fun f : Finding => f.hit.score
  have byVersion : Std.TransCmp fun a b : Finding => compareVersions b.hit.version a.hit.version :=
    transCmp_on (fun v v' => compareVersions v' v) fun f : Finding => f.hit.version
  cases sorting
  · exact inferInstanceAs (Std.TransCmp (compareLex (compareLex _ _) _))
  · exact inferInstanceAs (Std.TransCmp (compareLex _ _))
  · exact inferInstanceAs (Std.TransCmp (compareLex (compareLex _ _) _))
  · exact inferInstanceAs (Std.TransCmp (compareLex (compareLex _ _) _))

theorem pairwise_sort (order : List Source) (sorting : Sorting) (fs : List Finding) :
    (sort order sorting fs).Pairwise (Precedes order sorting) := by
  have order' := transCmp_compareBy order sorting
  have le (a b : Finding) : (compareBy order sorting a b != .gt) = (compareBy order sorting a b).isLE := by
    cases compareBy order sorting a b <;> rfl
  have sorted : (sort order sorting fs).Pairwise fun a b => compareBy order sorting a b != .gt := by
    refine pairwise_mergeSort (fun a b c h h' => ?_) (fun a b => ?_) fs
    · rw [le] at *
      exact Std.TransCmp.isLE_trans h h'
    · have swapped : compareBy order sorting b a = (compareBy order sorting a b).swap := Std.OrientedCmp.eq_swap
      rw [swapped]
      cases compareBy order sorting a b <;> rfl
  exact sorted.imp fun h => compareBy_ne_gt_iff.1 (by simpa using h)

theorem Precedes.unknown_last {a b : Finding} (h : Precedes order .version a b)
    (ha : Version.parse? a.hit.version = none) : Version.parse? b.hit.version = none := by
  by_contra known
  have older := compareVersions_of_unknown ha (Option.isSome_iff_ne_none.2 known)
  rcases h with newer | ⟨level, -⟩
  · exact absurd (older.symm.trans newer) (by decide)
  · exact absurd (older.symm.trans level) (by decide)

end Finding

theorem Divergence.rank_eq_idxOf {order : List Source} {s : Source} (nodup : order.Nodup) (hs : s ∈ order) :
    rank order s = order.idxOf s := by
  obtain ⟨front, back, rfl⟩ := append_of_mem hs
  have first : s ∉ front := fun h => (nodup_append.1 nodup).2.2 s h s (.head _) rfl
  have last : s ∉ back := (nodup_cons.1 (nodup_append.1 nodup).2.1).1
  rw [rank, if_pos (by simp)]
  rw [idxOf_append_of_notMem first, reverse_append, reverse_cons, append_assoc,
    idxOf_append_of_notMem (by simpa using last)]
  simp

/-- The pages of a list, each of a size, counted from zero. -/
structure Pages (size : Nat) (fs : List Finding) (pages : Nat → Page) : Prop where
  total : ∀ n, (pages n).total = fs.length
  more : ∀ n, (pages n).hasMore = true ↔ ∃ m, n < m ∧ (pages m).findings ≠ []
  full : ∀ n, (pages n).hasMore = true → (pages n).findings.length = size
  whole : ∃ last, (∀ n, (pages n).hasMore = true ↔ n < last) ∧
    (List.range (last + 1)).flatMap (fun n => (pages n).findings) = fs ∧
    ∀ n, last < n → (pages n).findings = []

namespace Pages

variable {size : Nat} {fs : List Finding} {pages : Nat → Page}

theorem flatMap_range (cut : ∀ n, (pages n).findings = (fs.drop (n * size)).take size) (m : Nat) :
    (List.range m).flatMap (fun n => (pages n).findings) = fs.take (m * size) := by
  induction m with
  | zero => simp
  | succ m ih =>
    rw [range_succ, flatMap_append, ih, flatMap_singleton, cut, Nat.succ_mul, take_add]

theorem of_cut (positive : 0 < size) (total : ∀ n, (pages n).total = fs.length)
    (cut : ∀ n, (pages n).findings = (fs.drop (n * size)).take size)
    (more : ∀ n, (pages n).hasMore = true ↔ n * size + size < fs.length) : Pages size fs pages := by
  have beyond (n : Nat) : (pages n).findings = [] ↔ fs.length ≤ n * size := by
    rw [cut, take_eq_nil_iff, drop_eq_nil_iff]
    omega
  have last (n : Nat) : n * size + size < fs.length ↔ n < (fs.length - 1) / size := by
    rw [Nat.lt_div_iff_mul_lt positive]
    omega
  refine ⟨total, fun n => ?_, fun n hn => ?_, (fs.length - 1) / size, fun n => (more n).trans (last n), ?_,
    fun n hn => ?_⟩
  · rw [more]
    constructor
    · intro h
      refine ⟨n + 1, Nat.lt_succ_self n, fun none => ?_⟩
      have short := (beyond _).1 none
      rw [Nat.succ_mul] at short
      omega
    · rintro ⟨m, later, there⟩
      have reach := Nat.mul_le_mul_right size (Nat.succ_le_of_lt later)
      rw [Nat.succ_mul] at reach
      have inside := mt (beyond m).2 there
      omega
  · have room := (more n).1 hn
    rw [cut, length_take, length_drop]
    omega
  · rw [flatMap_range cut]
    refine take_of_length_le ?_
    have rest := Nat.lt_mul_div_succ (fs.length - 1) positive
    rw [Nat.mul_comm]
    omega
  · refine (beyond n).2 ?_
    have rest := Nat.lt_mul_div_succ (fs.length - 1) positive
    have reach := Nat.mul_le_mul_left size (Nat.succ_le_of_lt hn)
    rw [Nat.mul_comm n]
    exact Nat.le_trans (Nat.le_of_pred_lt rest) reach

end Pages

def SearchOptions.paged (o : SearchOptions) (number size : Int) : SearchOptions :=
  { o with page := .whole number, pageSize := .whole size }

namespace Portfolio

open TriStore.Action

variable {p : Portfolio} {x : Source → Shelf} {files : FileTree} {query : String} {o : SearchOptions}
  {policy : Policy}

/-- The stores are those of `x`, and the results that are cached for the query are theirs. -/
abbrev AgreesOn (x : Source → Shelf) (query : String) (kind : Option Kind) (w : World) : Prop :=
  Agrees (fun _ => True) (fun _ q k => q = query ∧ k = kind) x w

theorem tourOf_congr {answers : Source → Except Failure (List Hit)} {o o' : SearchOptions}
    (same : isExhaustive o policy = isExhaustive o' policy) (order : List Source) (tour : Tour) :
    tourOf answers o policy order tour = tourOf answers o' policy order tour := by
  induction order generalizing tour with
  | nil => rfl
  | cons s rest ih => simp only [tourOf, same, ih]

/-- The stores answer the visit with this, and the versions they give can be read. -/
structure Brings (x : Source → Shelf) (query : String) (o : SearchOptions) (policy : Policy) (tour : Tour) :
    Prop where
  toured : tourOf (answer x query o.kind) o policy policy.priority {} = .ok tour
  readable : ∀ h ∈ Merge.inOrder policy.priority tour.hits, Version.check h.version = .ok ()

def sortedFrom (o : SearchOptions) (policy : Policy) (tour : Tour) : List Finding :=
  Finding.sort policy.priority o.sorting (Merge.merge policy.priority tour.hits o.includeAll)

theorem freshPage_paged (found : p.policyFor files o = .ok policy) (fits : o.misfits.kind = false)
    (number size : Int) : p.freshPage files x query (o.paged number size) =
      (tourOf (answer x query o.kind) o policy policy.priority {} >>= fun tour => do
        Merge.check policy.priority tour.hits
        return pageOf o policy.priority tour (.number (max number.toNat 1)) (.number (max size.toNat 1))) := by
  have found' : p.policyFor files (o.paged number size) = .ok policy := found
  have checked : checkOptions (o.paged number size) policy = .ok () :=
    checkOptions_of_fits (o := o.paged number size) ⟨fits, rfl, rfl⟩ policy
  rw [freshPage, found', ok_bind, checked, ok_bind,
    tourOf_congr (show isExhaustive (o.paged number size) policy = isExhaustive o policy from rfl)]
  rfl

theorem freshPage_paged_eq_ok (found : p.policyFor files o = .ok policy) (fits : o.misfits.kind = false)
    {number size : Int} {page : Page} :
    p.freshPage files x query (o.paged number size) = .ok page ↔ ∃ tour, Brings x query o policy tour ∧
      pageOf o policy.priority tour (.number (max number.toNat 1)) (.number (max size.toNat 1)) = page := by
  rw [freshPage_paged found fits, bind_eq_ok]
  refine exists_congr fun tour => ?_
  rw [bind_eq_ok]
  constructor
  · rintro ⟨toured, ⟨⟩, checked, same⟩
    exact ⟨⟨toured, Merge.check_eq_ok_iff.1 checked⟩, Except.ok.inj same⟩
  · rintro ⟨⟨toured, readable⟩, rfl⟩
    exact ⟨toured, (), Merge.check_eq_ok_iff.2 readable, rfl⟩

/-- Whatever page is asked for, and whatever the caches hold that agree with the stores, there is one exactly
when the stores answer with versions that can be read. Numbers and sizes below one count as one. The pages of
one size are the pieces of one list: the merged findings in the order asked for. -/
theorem pages_partition (query : String) (inTime : ∀ s, p.AnswersInTime (x s))
    (found : p.policyFor files o = .ok policy) (fits : o.misfits.kind = false) :
    (∀ w, w.disk.files = files → AgreesOn x query o.kind w →
      ∀ number size, ∃ r w', (p.search query (o.paged number size)).ends w = (r, w') ∧
        r.map Page.plain = p.freshPage files x query (o.paged number size) ∧
        w'.disk.files = files ∧ AgreesOn x query o.kind w') ∧
    (∀ number size, p.freshPage files x query (o.paged number size) =
      p.freshPage files x query (o.paged (max number 1) (max size 1))) ∧
    (∀ number size, (∃ page, p.freshPage files x query (o.paged number size) = .ok page) ↔
      ∃ tour, Brings x query o policy tour) ∧ ∀ tour, Brings x query o policy tour →
      (sortedFrom o policy tour).Perm (Merge.merge policy.priority tour.hits o.includeAll) ∧
      (sortedFrom o policy tour).Pairwise (Finding.Precedes policy.priority o.sorting) ∧
      (∀ s ∈ policy.priority, Divergence.rank policy.priority s = policy.priority.idxOf s) ∧
      (o.sorting = .version → (sortedFrom o policy tour).Pairwise fun f g =>
        Version.parse? f.hit.version = none → Version.parse? g.hit.version = none) ∧
      ∀ size : Int, ∃ pages : Nat → Page,
        (∀ n : Nat, p.freshPage files x query (o.paged (n + 1) size) = .ok (pages n)) ∧
        Pages (max size.toNat 1) (sortedFrom o policy tour) pages := by
  refine ⟨fun w same agrees number size => ?_, fun number size => ?_, fun number size => ?_,
    fun tour brings => ⟨mergeSort_perm _ _, Finding.pairwise_sort _ _ _,
      fun s hs => Divergence.rank_eq_idxOf (nodup_policyFor found) hs, fun byVersion => ?_, fun size => ?_⟩⟩
  · obtain ⟨r, w', searched, plain, agrees'⟩ := ends_search (o := o.paged number size)
      (oneMeaning_single query o.kind) inTime (fun _ => ⟨rfl, rfl⟩) agrees
    have frame := p.search_frame query (o.paged number size) w
    rw [searched] at frame
    exact ⟨r, w', searched, same ▸ plain, by rw [frame.disk, same], agrees'⟩
  · have least (n : Int) : max (max n 1).toNat 1 = max n.toNat 1 := by omega
    rw [freshPage_paged found fits, freshPage_paged found fits, least, least]
  · constructor
    · rintro ⟨page, shown⟩
      obtain ⟨tour, brings, -⟩ := (freshPage_paged_eq_ok found fits).1 shown
      exact ⟨tour, brings⟩
    · rintro ⟨tour, brings⟩
      exact ⟨_, (freshPage_paged_eq_ok found fits).2 ⟨tour, brings, rfl⟩⟩
  · refine (Finding.pairwise_sort policy.priority o.sorting _).imp fun precedes => ?_
    rw [byVersion] at precedes
    exact precedes.unknown_last
  · refine ⟨fun n => pageOf o policy.priority tour (.number (n + 1)) (.number (max size.toNat 1)), fun n => ?_, ?_⟩
    · refine (freshPage_paged_eq_ok found fits).2 ⟨tour, brings, ?_⟩
      have counted : max (n + 1 : Int).toNat 1 = n + 1 := by omega
      rw [counted]
    · exact .of_cut (by omega) (fun n => rfl) (fun n => rfl) (fun n => decide_eq_true_iff)

/-- Two elements in two stores, one to a page. -/
theorem pages_partition_crossed : ∃ fs pages,
    (∀ n : Nat, freshPage { home := default } crossed.disk.files crossedShelves ""
      (SearchOptions.paged { includeAll := true, sorting := .name } (n + 1) 1) = .ok (pages n)) ∧
    Pages 1 fs pages ∧ fs.length = 2 := by
  obtain ⟨policy, found⟩ : ∃ policy, policyFor { home := default } crossed.disk.files
      { includeAll := true, sorting := .name } = .ok policy := by decide +kernel
  obtain ⟨-, -, there, parts⟩ := pages_partition (p := { home := default }) (x := crossedShelves) ""
    (fun s => nofun) found rfl
  have first : ∃ page, freshPage { home := default } crossed.disk.files crossedShelves ""
      (SearchOptions.paged { includeAll := true, sorting := .name } 1 1) = .ok page := by decide +kernel
  have merged : (policyFor { home := default } crossed.disk.files
      { includeAll := true, sorting := .name }).toOption.bind (fun policy =>
        (tourOf (answer crossedShelves "" none) { includeAll := true, sorting := .name } policy policy.priority
          {}).toOption.map fun tour => (Merge.merge policy.priority tour.hits true).length) = some 2 := by
    decide +kernel
  obtain ⟨tour, brings⟩ := (there 1 1).1 first
  obtain ⟨sorted, -, -, -, pages⟩ := parts tour brings
  obtain ⟨pages, asked, cut⟩ := pages 1
  rw [found, show Except.toOption (.ok policy : Except Failure Policy) = some policy from rfl,
    Option.bind_some, brings.toured] at merged
  exact ⟨_, pages, asked, cut, sorted.length_eq.trans (Option.some.inj merged)⟩

/-- There is no page where the one version found has a number too long to be read. -/
theorem endless_version_unpaged : ¬∃ page, pageFrom {} { priority := [.home] }
    { hits := [(.home, [Merge.endlessHit])], searched := [.home] } = .ok page := by
  rintro ⟨page, shown⟩
  obtain ⟨⟨⟩, checked, -⟩ := bind_eq_ok.1 shown
  exact Merge.check_digitRun (Nat.lt_succ_self maxDigits)
    (Merge.check_eq_ok_iff.1 checked Merge.endlessHit (by simp [Merge.inOrder]))

end Portfolio

end TriStore
