import TriStore.Proofs.PlanCoverage
import TriStore.Proofs.RisingVersions

/-!
A plan deletes only what its source lacks, and replaces only by a later version unless a backup is made.
-/
namespace TriStore.Plan

variable {flow : Direction} {here there : List Entry} {d : Direction} {m : Mode} {k : Key} {i : PlanItem}
  {p : Pair}

/-- A verdict of conflict rests on two copies, no backup, and nothing to be carried out. -/
def Contested (d : Direction) (m : Mode) (p : Pair) (v : Verdict) : Prop :=
  v.step = .conflict → v.executable = false ∧ (d = .both ∨ m ≠ .backup) ∧ ∃ a b, p = ⟨some a, some b⟩

theorem twoWay_contested (m : Mode) (p : Pair) : Contested .both m p (twoWay p) := by
  unfold twoWay Contested
  split
  · simp
  · simp
  · split
    · simp
    · split
      · simp
      · split <;> simp

theorem copies_of_sides {source target : Entry}
    (both : sides flow p = (some source, some target)) : ∃ a b, p = ⟨some a, some b⟩ := by
  obtain ⟨here, there⟩ := p
  cases flow <;> simp_all [sides]

theorem oneWay_contested (flow : Direction) (m : Mode) (p : Pair) : Contested flow m p (oneWay flow m p) := by
  unfold oneWay Contested
  dsimp only
  split
  · simp
  · split <;> simp
  · next both =>
    have copies := copies_of_sides both
    split
    · simp
    · split
      · simp
      · next mode =>
        have other : m ≠ .backup := by simpa using mode
        split
        · simp
        · split <;> exact fun _ => ⟨rfl, .inr other, copies⟩

theorem verdict_contested (d : Direction) (m : Mode) (p : Pair) : Contested d m p (verdict d m p) := by
  cases d with
  | push | pull => exact oneWay_contested _ m p
  | both => exact twoWay_contested m p

def indexes (flow : Direction) (here there : List Entry) : List Entry × List Entry :=
  match flow with
  | .push => (here, there)
  | _ => (there, here)

theorem sides_lastWith (flow : Direction) (here there : List Entry) (k : Key) :
    sides flow ⟨lastWith k here, lastWith k there⟩ =
      (lastWith k (indexes flow here there).1, lastWith k (indexes flow here there).2) := by
  cases flow <;> rfl

/-- The key is missing from an index that the flow goes to. -/
def Missing (flow : Direction) (here there : List Entry) (k : Key) : Prop :=
  flow ≠ .pull ∧ (∀ e ∈ there, e.key ≠ k) ∨ flow ≠ .push ∧ ∀ e ∈ here, e.key ≠ k

structure Safe (here there : List Entry) (d : Direction) (m : Mode) (i : PlanItem) : Prop where
  deletes : i.step = .delete → i.executable = true → m = .mirror ∧ d ≠ .both ∧ i.flow = d ∧
    (∀ e ∈ (indexes d here there).1, e.key ≠ i.key) ∧ ∃ e ∈ (indexes d here there).2, e.key = i.key
  keeps : d = .both → m ≠ .backup → i.step ≠ .delete
  backup : m = .backup → i.flow = .pull ∧ i.step ≠ .conflict
  updates : m ≠ .backup → i.step = .update → i.flow ≠ .both ∧ ∃ source target a b,
    IsLast i.key source (indexes i.flow here there).1 ∧
    IsLast i.key target (indexes i.flow here there).2 ∧ source.sameContent target = false ∧
    Version.parse? source.version = some a ∧ Version.parse? target.version = some b ∧ b.Before a
  creates : i.step = .create ↔ Missing i.flow here there i.key
  conflicts : i.step = .conflict → i.executable = false
  same : ∀ a b, IsLast i.key a here → IsLast i.key b there → a.sameContent b = true → i.isWrite = false

theorem eq_of_mem_items (h : i ∈ (build here there d m).items) :
    ∃ v, v = verdict (effective d m) m ⟨lastWith i.key here, lastWith i.key there⟩ ∧
      i.step = v.step ∧ i.flow = v.flow ∧ i.executable = v.executable := by
  obtain ⟨-, -, made⟩ := mem_items h
  exact ⟨_, rfl, congrArg PlanItem.step made, congrArg PlanItem.flow made, congrArg PlanItem.executable made⟩

theorem effective_of_ne (h : m ≠ .backup) : effective d m = d := by
  simp [effective, h]

theorem effective_backup (h : m = .backup) : effective d m = .pull := by
  simp [effective, h]

theorem delete_of_mem_items (h : i ∈ (build here there d m).items) (step : i.step = .delete) :
    effective d m ≠ .both ∧ i.flow = effective d m ∧ (i.executable = true → m = .mirror) ∧
      (∀ e ∈ (indexes (effective d m) here there).1, e.key ≠ i.key) ∧
      ∃ e ∈ (indexes (effective d m) here there).2, e.key = i.key := by
  obtain ⟨v, made, hstep, hflow, hexec⟩ := eq_of_mem_items h
  rw [hstep] at step
  rw [hflow, hexec]
  cases made ▸ verdict_grounds (effective d m) m ⟨lastWith i.key here, lastWith i.key there⟩ with
  | delete _ way flow only mirror =>
    rw [flow, sides_lastWith] at only
    obtain ⟨absent, present⟩ := Prod.mk.inj only
    obtain ⟨mem, key⟩ := mem_of_lastWith present
    exact ⟨flow ▸ way, flow, mirror, lastWith_eq_none_iff.1 absent, _, mem, key⟩
  | create other => simp [other] at step
  | update other => simp [other] at step
  | unchanged other => simp [other] at step
  | conflict other => simp [other] at step

theorem missing_iff (way : flow ≠ .both) : Missing flow here there k ↔
    (sides flow ⟨lastWith k here, lastWith k there⟩).2 = none := by
  cases flow with
  | push | pull => simp [Missing, sides, lastWith_eq_none_iff]
  | both => exact absurd rfl way

theorem not_missing (copies : ∃ a b, (⟨lastWith k here, lastWith k there⟩ : Pair) = ⟨some a, some b⟩) :
    ¬Missing flow here there k := by
  obtain ⟨a, b, pair⟩ := copies
  obtain ⟨home, away⟩ := Pair.mk.inj pair
  rw [Missing, ← lastWith_eq_none_iff, ← lastWith_eq_none_iff, home, away]
  simp

theorem create_iff (h : i ∈ (build here there d m).items) : i.step = .create ↔ Missing i.flow here there i.key := by
  obtain ⟨v, made, hstep, hflow, -⟩ := eq_of_mem_items h
  have contested := verdict_contested (effective d m) m ⟨lastWith i.key here, lastWith i.key there⟩
  have reasons := verdict_reasons (effective d m) m ⟨lastWith i.key here, lastWith i.key there⟩
  rw [hstep, hflow]
  rw [← made] at contested reasons
  cases made ▸ verdict_grounds (effective d m) m ⟨lastWith i.key here, lastWith i.key there⟩ with
  | create step way target => simp [step, missing_iff way, target]
  | update step way both => simp [step, missing_iff way, both]
  | delete step way _ only _ => simp [step, missing_iff way, only]
  | unchanged step =>
    obtain ⟨a, b, pair, -⟩ := reasons.unchanged step
    simp [step, not_missing ⟨a, b, pair⟩]
  | conflict step => simp [step, not_missing (contested step).2.2]

theorem update_of_mem_items (h : i ∈ (build here there d m).items) (mode : m ≠ .backup)
    (step : i.step = .update) : i.flow ≠ .both ∧ ∃ source target a b,
      IsLast i.key source (indexes i.flow here there).1 ∧
      IsLast i.key target (indexes i.flow here there).2 ∧ source.sameContent target = false ∧
      Version.parse? source.version = some a ∧ Version.parse? target.version = some b ∧ b.Before a := by
  obtain ⟨v, made, hstep, hflow, -⟩ := eq_of_mem_items h
  rw [hstep] at step
  have newer := verdict_newer mode (effective d m) ⟨lastWith i.key here, lastWith i.key there⟩
  rw [← made] at newer
  obtain ⟨way, source, target, both, later⟩ := newer step
  obtain ⟨a, b, new, old, before⟩ := isNewer_iff.1 later
  have differ : source.sameContent target = false := by
    by_contra same
    obtain ⟨x, y, pair, equal⟩ := eq_of_sides both (by simpa using same)
    rw [made, pair, unchanged_of_same equal] at step
    simp at step
  rw [sides_lastWith] at both
  obtain ⟨hs, ht⟩ := Prod.mk.inj both
  rw [hflow]
  exact ⟨way, source, target, a, b, lastWith_eq_some_iff.1 hs, lastWith_eq_some_iff.1 ht, differ, new, old, before⟩

/-- Every item of every plan is safe. In backup mode, which pulls whatever direction was asked for, a deletion
may be reported, but is never carried out. -/
theorem plan_safety (here there : List Entry) (d : Direction) (m : Mode) :
    ∀ i ∈ (build here there d m).items, Safe here there d m i := by
  intro i hi
  obtain ⟨v, made, hstep, hflow, hexec⟩ := eq_of_mem_items hi
  have contested := verdict_contested (effective d m) m ⟨lastWith i.key here, lastWith i.key there⟩
  rw [← made, Contested, ← hstep, ← hexec] at contested
  refine ⟨fun step executable => ?_, fun both mode step => ?_, fun mode => ⟨?_, fun step => ?_⟩,
    update_of_mem_items hi, create_iff hi, fun step => (contested step).1, fun a b ha hb same => ?_⟩
  · obtain ⟨way, flow, mirror, absent, present⟩ := delete_of_mem_items hi step
    have mode : m = .mirror := mirror executable
    have kept : effective d m = d := effective_of_ne (by simp [mode])
    rw [kept] at way flow absent present
    exact ⟨mode, way, flow, absent, present⟩
  · exact (delete_of_mem_items hi step).1 (by rw [effective_of_ne mode, both])
  · rw [← effective_backup (d := d) mode]
    exact flow_of_mem_items hi (by simp [effective_backup mode])
  · rcases (contested step).2.1 with both | other
    · simp [effective_backup mode] at both
    · exact other mode
  · rw [lastWith_eq_some_iff.2 ha, lastWith_eq_some_iff.2 hb] at made
    rw [PlanItem.isWrite, hstep, made, unchanged_of_same same]
    simp [Step.isChange]

theorem item_mem_items (mem : k ∈ keysOf here there) (shown : isPrivate here k = false) :
    item (effective d m) m k ⟨lastWith k here, lastWith k there⟩ ∈ (build here there d m).items :=
  List.mem_map.2 ⟨k, List.mem_filter.2 ⟨mem, by simp [shown]⟩, rfl⟩

def sample (version digest : String) : Entry :=
  { name := .text "a", kind := .persona, version, digest := .text digest }

/-- A later version is pulled. -/
theorem plan_safety_update : ∃ i ∈ (build [sample "1" "x"] [sample "v1.2" "y"] .pull .additive).items,
    i.step = .update ∧ i.flow = .pull ∧ Safe [sample "1" "x"] [sample "v1.2" "y"] .pull .additive i := by
  have planned : (sample "1" "x").key ∈ keysOf [sample "1" "x"] [sample "v1.2" "y"] :=
    mem_keysOf.2 (.inl ⟨_, by simp, rfl⟩)
  have mem := item_mem_items (d := .pull) (m := .additive) planned (by simp [isPrivate, lastWith, sample])
  have old : lastWith (sample "1" "x").key [sample "1" "x"] = some (sample "1" "x") := by simp [lastWith]
  have new : lastWith (sample "1" "x").key [sample "v1.2" "y"] = some (sample "v1.2" "y") :=
    lastWith_eq_some_iff.2 ⟨[], [], rfl, rfl, by simp⟩
  have settled : (verdict .pull .additive ⟨some (sample "1" "x"), some (sample "v1.2" "y")⟩).step = .update := by
    decide +kernel
  exact ⟨_, mem, settled, flow_oneWay .pull .additive _, plan_safety _ _ _ _ _ mem⟩

/-- A backup in both directions reports an element that only this side has as one to delete. -/
theorem deletion_reported_both : ∃ i ∈ (build [sample "1" "x"] [] .both .backup).items,
    i.step = .delete ∧ i.executable = false := by
  refine ⟨_, item_mem_items (k := (sample "1" "x").key) (mem_keysOf.2 (.inl ⟨_, by simp, rfl⟩))
    (by simp [isPrivate, lastWith, sample]), ?_⟩
  simp [item, verdict, oneWay, effective, sides, lastWith]

end TriStore.Plan
