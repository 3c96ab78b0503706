import TriStore.Proofs.Duplicates

/-!
Comparison of versions is a total preorder; the recommended store and the newest hit are the first of its
maxima.
-/
namespace TriStore
open Divergence

namespace Divergence

variable {versions : List (Source × String)} {order : List Source} {s : Source}

/-- The store has the greatest version, and none that has it comes earlier in the order. -/
def IsFirstGreatest (versions : List (Source × String)) (order : List Source) (s : Source) : Prop :=
  ∃ v, (s, v) ∈ versions ∧ ∀ x ∈ versions, (compareVersions x.2 v).isLE = true ∧
    (compareVersions x.2 v = .eq → rank order s ≤ rank order x.1)

theorem isFirstGreatest_of_recommend? {reason : String} (h : recommend? versions order = some (s, reason)) :
    IsFirstGreatest versions order s := by
  obtain ⟨v, newest⟩ := isNewest_of_recommend? h
  have mem (x : Source × String) : x ∈ candidates versions order ↔ x ∈ versions := List.mem_mergeSort
  refine ⟨v, (mem _).1 newest.mem, fun x hx => ⟨newest.isLE ((mem x).2 hx), fun level => ?_⟩⟩
  have listed := (mem x).2 hx
  have sorted := pairwise_candidates versions order
  obtain ⟨before, after, split, older, -⟩ := newest
  rw [split] at listed sorted
  rcases List.mem_append.1 listed with front | back
  · exact absurd ((older x front).symm.trans level) (by decide)
  · rcases List.mem_cons.1 back with rfl | back
    · exact Nat.le_refl _
    · exact List.rel_of_pairwise_cons (List.pairwise_append.1 sorted).2.1 back

theorem recommend_eq_ok_iff {r : Source × String} : recommend versions order = .ok r ↔
    (∀ x ∈ versions, Version.check x.2 = .ok ()) ∧ recommend? versions order = some r := by
  have readable_iff : check versions order = .ok () ↔ _ := check_eq_ok_iff
  simp only [recommend, bind_eq_ok, ← readable_iff]
  constructor
  · rintro ⟨_, readable, found⟩
    refine ⟨readable, ?_⟩
    split at found
    · next recommended => rw [recommended, Except.ok.inj found]
    · cases found
  · rintro ⟨readable, recommended⟩
    exact ⟨(), readable, by rw [recommended]⟩

theorem exists_recommend_iff : (∃ r, recommend versions order = .ok r) ↔
    versions ≠ [] ∧ ∀ x ∈ versions, Version.check x.2 = .ok () := by
  simp only [recommend_eq_ok_iff]
  constructor
  · rintro ⟨r, readable, found⟩
    refine ⟨?_, readable⟩
    rintro rfl
    simp [recommend?, candidates] at found
  · rintro ⟨given, readable⟩
    obtain ⟨d, made, -⟩ := exists_ofVersions? given order
    obtain ⟨r, recommended, -⟩ := Option.map_eq_some_iff.1 made
    exact ⟨r, readable, recommended⟩

end Divergence

theorem Merge.newest?_eq_some_iff {group : List Hit} {h : Hit} : newest? group = some h ↔
    (Version.parse? h.version).isSome = true ∧ IsNewest Hit.version h group := by
  have found := isFound_newest? group
  cases best : newest? group with
  | none =>
    rw [best] at found
    refine ⟨fun none => (by cases none), ?_⟩
    rintro ⟨known, newest⟩
    rw [found h newest.mem] at known
    cases known
  | some b =>
    rw [best] at found
    refine ⟨fun same => Option.some.inj same ▸ found, fun newest => ?_⟩
    rw [found.2.unique newest.2]

/-- Versions are ordered up to equal ones, the unknown below all others. A store is recommended exactly when
there is one and no version has a number too long to be read: the first in the order with the greatest
version. So is the newest hit among the known ones of its group. -/
theorem chooses_first_greatest (versions : List (Source × String)) (order : List Source) (group : List Hit) :
    (∀ a b, compareVersions a b = (compareVersions b a).swap) ∧
    (∀ a b c, (compareVersions a b).isLE = true → (compareVersions b c).isLE = true →
      (compareVersions a c).isLE = true) ∧ (∀ a b, Version.parse? a = none →
      compareVersions a b = if (Version.parse? b).isSome = true then .lt else .eq) ∧
    (∀ a b, isNewer a b = true ↔ (Version.parse? a).isSome = true ∧ (Version.parse? b).isSome = true ∧
      compareVersions a b = .gt) ∧ ((∃ r, Divergence.recommend versions order = .ok r) ↔
      versions ≠ [] ∧ ∀ x ∈ versions, Version.check x.2 = .ok ()) ∧
    (∀ s reason, Divergence.recommend versions order = .ok (s, reason) →
      Divergence.IsFirstGreatest versions order s) ∧
    (order.Nodup → ∀ s ∈ order, Divergence.rank order s = order.idxOf s) ∧
    ∀ h, Merge.newest? group = some h ↔
      (Version.parse? h.version).isSome = true ∧ IsNewest Hit.version h group := by
  refine ⟨fun a b => Std.OrientedCmp.eq_swap, fun a b c => Std.TransCmp.isLE_trans, fun a b unknown => ?_,
    fun a b => ?_, exists_recommend_iff, fun s reason h => ?_,
    fun nodup s => rank_eq_idxOf nodup, fun h => Merge.newest?_eq_some_iff⟩
  · unfold compareVersions
    rw [unknown]
    cases Version.parse? b <;> rfl
  · unfold isNewer compareVersions
    cases Version.parse? a <;> cases Version.parse? b <;> simp
  · exact isFirstGreatest_of_recommend? (recommend_eq_ok_iff.1 h).2

/-- For a version of too many digits no store is recommended, though there is only one. -/
theorem endless_version_unrecommended :
    ¬∃ r, Divergence.recommend [(.home, Merge.digitRun (maxDigits + 1))] [.home] = .ok r := by
  rw [exists_recommend_iff]
  rintro ⟨-, readable⟩
  rw [List.forall_mem_singleton] at readable
  exact Merge.check_digitRun (Nat.lt_succ_self maxDigits) readable

end TriStore
