import Mathlib.Data.List.Perm.Subperm
import TriStore.Proofs.Shelf

/-!
A plan in terms of the two listings it is made from.
-/
namespace TriStore.Plan
open List

theorem nodup_eraseDups {α : Type} [BEq α] [LawfulBEq α] (l : List α) : l.eraseDups.Nodup := by
  -- The tail is filtered first, so the induction is on the length.
  generalize size : l.length = n
  induction n using Nat.strongRecOn generalizing l with
  | ind n ih =>
    cases l with
    | nil => simp
    | cons a l =>
      have shorter : (l.filter fun b => !b == a).length < n := by
        rw [← size, length_cons]
        exact Nat.lt_succ_of_le (length_filter_le _ l)
      rw [eraseDups_cons, nodup_cons]
      refine ⟨?_, ih _ shorter _ rfl⟩
      simp [mem_eraseDups]

theorem length_eraseDups_eq_iff {α : Type} [BEq α] [LawfulBEq α] {l : List α} :
    l.eraseDups.length = l.length ↔ l.Nodup := by
  have kept := nodup_eraseDups l
  have sub : l.eraseDups ⊆ l := fun s hs => mem_eraseDups.1 hs
  have sub' : l ⊆ l.eraseDups := fun s hs => mem_eraseDups.2 hs
  refine ⟨fun same => ?_, fun nodup => ?_⟩
  · exact ((kept.subperm sub).perm_of_length_le (Nat.le_of_eq same.symm)).nodup_iff.1 kept
  · exact Nat.le_antisymm (kept.subperm sub).length_le (nodup.subperm sub').length_le

variable {here there : List Entry} {d : Direction} {m : Mode} {k : Key} {i : PlanItem}

theorem nodup_keysOf (here there : List Entry) : (keysOf here there).Nodup :=
  (mergeSort_perm _ _).nodup_iff.2 (nodup_eraseDups _)

theorem mem_keysOf : k ∈ keysOf here there ↔ (∃ e ∈ here, e.key = k) ∨ ∃ e ∈ there, e.key = k := by
  simp [keysOf, mem_mergeSort, mem_eraseDups]

theorem mem_keysOf_iff : k ∈ keysOf here there ↔ lastWith k here ≠ none ∨ lastWith k there ≠ none := by
  rw [mem_keysOf, Ne, Ne, lastWith_eq_none_iff, lastWith_eq_none_iff]
  simp

theorem key_of_items (here there : List Entry) (d : Direction) (m : Mode) :
    (build here there d m).items.map (·.key) = (keysOf here there).filter (!isPrivate here ·) := by
  simp [build, Function.comp_def, item]

theorem nodup_items (here there : List Entry) (d : Direction) (m : Mode) :
    ((build here there d m).items.map (·.key)).Nodup := by
  rw [key_of_items]
  exact (nodup_keysOf here there).filter _

theorem mem_items (h : i ∈ (build here there d m).items) :
    i.key ∈ keysOf here there ∧ isPrivate here i.key = false ∧
      i = item (effective d m) m i.key ⟨lastWith i.key here, lastWith i.key there⟩ := by
  obtain ⟨key, hkey, rfl⟩ := mem_map.1 h
  obtain ⟨mem, plain⟩ := mem_filter.1 hkey
  have shown : isPrivate here key = false := by simpa using plain
  exact ⟨mem, shown, rfl⟩

theorem flow_oneWay (flow : Direction) (m : Mode) (p : Pair) : (oneWay flow m p).flow = flow := by
  unfold oneWay
  dsimp only
  split
  · rfl
  · split <;> rfl
  · split
    · rfl
    · split
      · rfl
      · split
        · rfl
        · split <;> rfl

theorem flow_of_mem_items (h : i ∈ (build here there d m).items) (way : effective d m ≠ .both) :
    i.flow = effective d m := by
  obtain ⟨-, -, made⟩ := mem_items h
  rw [made]
  cases one : effective d m with
  | push => exact flow_oneWay .push m _
  | pull => exact flow_oneWay .pull m _
  | both => exact absurd one way

/-- What has to be there for a verdict. -/
inductive Grounds (d : Direction) (m : Mode) (p : Pair) (v : Verdict) : Prop where
  | create (step : v.step = .create) (way : v.flow ≠ .both) (target : (sides v.flow p).2 = none)
  | update (step : v.step = .update) (way : v.flow ≠ .both) {source target : Entry}
    (both : sides v.flow p = (some source, some target))
  | delete (step : v.step = .delete) (way : v.flow ≠ .both) (flow : v.flow = d) {target : Entry}
    (only : sides v.flow p = (none, some target)) (mirror : v.executable = true → m = .mirror)
  | unchanged (step : v.step = .unchanged)
  | conflict (step : v.step = .conflict)

theorem twoWay_grounds (m : Mode) (p : Pair) : Grounds .both m p (twoWay p) := by
  rcases p with ⟨_, _ | there⟩
  · exact .create rfl nofun rfl
  · next here =>
    cases here with
    | none => exact .create rfl nofun rfl
    | some here =>
      unfold twoWay
      dsimp only
      split
      · exact .unchanged rfl
      · split
        · exact .update rfl nofun rfl
        · split
          · exact .update rfl nofun rfl
          · exact .conflict rfl

theorem oneWay_grounds {flow : Direction} (way : flow ≠ .both) (m : Mode) (p : Pair) :
    Grounds flow m p (oneWay flow m p) := by
  unfold oneWay
  dsimp only
  split
  · next missing => exact .create rfl way (by rw [missing])
  · next only =>
    split
    · next mirror => exact .delete rfl way rfl only fun _ => by simpa using mirror
    · exact .delete rfl way rfl only nofun
  · next both =>
    split
    · exact .unchanged rfl
    · split
      · exact .update rfl way both
      · split
        · exact .update rfl way both
        · split
          · exact .conflict rfl
          · exact .conflict rfl

theorem verdict_grounds (d : Direction) (m : Mode) (p : Pair) : Grounds d m p (verdict d m p) := by
  cases d with
  | push => exact oneWay_grounds (by decide) m p
  | pull => exact oneWay_grounds (by decide) m p
  | both => exact twoWay_grounds m p

end TriStore.Plan
