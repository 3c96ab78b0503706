import TriStore.Proofs.KeptNames
import TriStore.Proofs.Merging

/-!
A plan has one item for each element that either index knows, in the order of keys, unless the copy here is
private. There is a plan when no version that it depends on has a number too long to be read.
-/
namespace TriStore
open List

/-- The name is none, or a text that keeps its code points, as every text that is read does. -/
def Entry.HasKeptName (e : Entry) : Prop := ∀ s, e.name = .text s → Text.IsKept s

theorem Entry.HasKeptName.key {e : Entry} (h : e.HasKeptName) : Text.IsKept e.key.name := by
  unfold Entry.key
  cases named : e.name with
  | text s => exact Name.isKept_normalize (h s named)
  | _ => exact Text.isKept_iff.2 .nil

/-- The strict order of keys: by the label of the kind, then by the code points of the name. -/
def Key.Before (a b : Key) : Prop :=
  a.kind.label < b.kind.label ∨ a.kind = b.kind ∧ Text.points a.name.toList < Text.points b.name.toList

theorem Key.before_of_le {a b : Key} (ha : Text.IsKept a.name) (hb : Text.IsKept b.name)
    (le : a.le b = true) (ne : a ≠ b) : a.Before b := by
  have above : ¬b.le a = true := fun le' => ne (le_antisymm ha hb le le')
  rw [le_iff] at le above
  rcases le with below | ⟨same, -⟩
  · exact .inl below
  · refine .inr ⟨same, ?_⟩
    rw [not_or, not_and] at above
    simpa [Text.le_iff] using above.2 same.symm

namespace Plan

variable {here there here' there' : List Entry} {d : Direction} {m : Mode} {k : Key} {i : PlanItem}

/-- The entry has the key, and no later one of the index has. -/
def IsLast (k : Key) (e : Entry) (entries : List Entry) : Prop :=
  ∃ before after, entries = before ++ e :: after ∧ e.key = k ∧ ∀ e' ∈ after, e'.key ≠ k

theorem lastWith_eq_some_iff {e : Entry} {entries : List Entry} :
    lastWith k entries = some e ↔ IsLast k e entries := by
  rw [lastWith, List.find?_eq_some_iff_append]
  constructor
  · rintro ⟨same, after, before, split, others⟩
    refine ⟨before.reverse, after.reverse, ?_, by simpa using same, fun e' he' => ?_⟩
    · rw [← reverse_reverse entries, split]
      simp
    · simpa using others e' (mem_reverse.1 he')
  · rintro ⟨before, after, rfl, same, others⟩
    refine ⟨by simpa using same, after.reverse, before.reverse, by simp, fun e' he' => ?_⟩
    simpa using others e' (mem_reverse.1 he')

theorem lastWith_perm {entries entries' : List Entry} (perm : entries'.Perm entries)
    (nodup : (entries.map (·.key)).Nodup) (k : Key) : lastWith k entries' = lastWith k entries := by
  have only : ∀ e ∈ entries, lastWith e.key entries = some e := by
    intro e he
    obtain ⟨before, after, rfl⟩ := append_of_mem he
    refine lastWith_eq_some_iff.2 ⟨before, after, rfl, rfl, fun e' he' same => ?_⟩
    rw [map_append, map_cons] at nodup
    have apart := (nodup_cons.1 (nodup_append.1 nodup).2.1).1
    exact apart (mem_map.2 ⟨e', he', same⟩)
  cases found : lastWith k entries' with
  | none =>
    rw [lastWith_eq_none_iff] at found
    symm
    rw [lastWith_eq_none_iff]
    exact fun e he => found e (perm.mem_iff.2 he)
  | some e =>
    obtain ⟨mem, rfl⟩ := mem_of_lastWith found
    exact (only e (perm.mem_iff.1 mem)).symm

theorem isKept_of_mem_keysOf (kept : ∀ e ∈ here ++ there, e.HasKeptName)
    (h : k ∈ keysOf here there) : Text.IsKept k.name := by
  obtain ⟨e, he, rfl⟩ | ⟨e, he, rfl⟩ := mem_keysOf.1 h
  · exact (kept e (mem_append_left _ he)).key
  · exact (kept e (mem_append_right _ he)).key

theorem keysOf_congr (kept : ∀ e ∈ here ++ there, e.HasKeptName)
    (same : ∀ k, k ∈ keysOf here' there' ↔ k ∈ keysOf here there) :
    keysOf here' there' = keysOf here there := by
  -- Both are sorted and free of repetitions; the order tells any two kept names apart.
  refine Perm.eq_of_pairwise (fun a b ha hb => ?_) (pairwise_keysOf here' there')
    (pairwise_keysOf here there) ?_
  · exact Key.le_antisymm (isKept_of_mem_keysOf kept ((same a).1 ha)) (isKept_of_mem_keysOf kept hb)
  · exact (perm_ext_iff_of_nodup (nodup_keysOf here' there') (nodup_keysOf here there)).2 same

theorem make_perm (kept : ∀ e ∈ here ++ there, e.HasKeptName) (hereNodup : (here.map (·.key)).Nodup)
    (thereNodup : (there.map (·.key)).Nodup) (herePerm : here'.Perm here)
    (therePerm : there'.Perm there) (d : Direction) (m : Mode) :
    make here' there' d m = make here there d m := by
  have last := lastWith_perm herePerm hereNodup
  have last' := lastWith_perm therePerm thereNodup
  have keys : keysOf here' there' = keysOf here there :=
    keysOf_congr kept fun k => by rw [mem_keysOf_iff, mem_keysOf_iff, last, last']
  have hidden : isPrivate here' = isPrivate here := funext fun k => by rw [isPrivate, isPrivate, last]
  simp only [make, check, build, keys, hidden, last, last']

theorem checkPair_eq_ok_iff {p : Pair} : checkPair d m p = .ok () ↔
    ∀ a b, p = ⟨some a, some b⟩ → a.sameContent b = true ∨ m = .backup ∨
      Version.check a.version = .ok () ∧ Version.check b.version = .ok () := by
  have compared (source target : Entry) :
      (if source.sameContent target || m == .backup then Except.ok () else do
        Version.check source.version
        Version.check target.version) = .ok () ↔
      source.sameContent target = true ∨ m = .backup ∨
        Version.check source.version = .ok () ∧ Version.check target.version = .ok () := by
    by_cases settled : source.sameContent target = true ∨ m = .backup
    · rw [if_pos (by simpa using settled), ← or_assoc]
      simp [settled]
    · rw [if_neg (by simpa using settled), bind_eq_ok, ← or_assoc, or_iff_right settled]
      exact ⟨fun ⟨_, first, second⟩ => ⟨first, second⟩, fun ⟨first, second⟩ => ⟨(), first, second⟩⟩
  obtain ⟨here, there⟩ := p
  cases here with
  | none => cases d <;> cases there <;> simp [checkPair, sides]
  | some a =>
    cases there with
    | none => cases d <;> simp [checkPair, sides]
    | some b =>
      cases d with
      | push | both => simpa [checkPair, sides] using compared a b
      | pull => simpa [checkPair, sides, Entry.sameContent_comm b a, and_comm] using compared b a

/-- Where copies of an element that is not private differ, the mode does not ask for versions, or both can be
read. -/
def Comparable (here there : List Entry) (m : Mode) : Prop :=
  ∀ k a b, IsLast k a here → IsLast k b there → a.localOnly = false → a.sameContent b = true ∨ m = .backup ∨
    Version.check a.version = .ok () ∧ Version.check b.version = .ok ()

theorem isPrivate_eq_false_iff : isPrivate here k = false ↔ ∀ e, IsLast k e here → e.localOnly = false := by
  simp only [← lastWith_eq_some_iff, isPrivate]
  cases lastWith k here with
  | none => simp
  | some e => simp

theorem check_eq_ok_iff : check here there d m = .ok () ↔ Comparable here there m := by
  simp only [check, forM_eq_ok_iff, checkPair_eq_ok_iff, mem_filter, Bool.not_eq_true', Pair.mk.injEq,
    Comparable, ← lastWith_eq_some_iff, isPrivate, mem_keysOf]
  constructor
  · intro checked k a b ha hb shown
    obtain ⟨mem, same⟩ := mem_of_lastWith ha
    exact checked k ⟨.inl ⟨a, mem, same⟩, by simp [ha, shown]⟩ a b ⟨ha, hb⟩
  · rintro comparable k ⟨-, shown⟩ a b ⟨ha, hb⟩
    exact comparable k a b ha hb (by simpa [ha] using shown)

theorem check_eq_ok (readable : ∀ e ∈ here ++ there, Version.check e.version = .ok ()) (d : Direction)
    (m : Mode) : check here there d m = .ok () := by
  refine check_eq_ok_iff.2 fun k a b ha hb _ => .inr (.inr ?_)
  exact ⟨readable a (mem_append_left _ (mem_of_lastWith (lastWith_eq_some_iff.2 ha)).1),
    readable b (mem_append_right _ (mem_of_lastWith (lastWith_eq_some_iff.2 hb)).1)⟩

/-- An item says of one side what the last entry there says, and nothing without one. -/
def Tells (entries : List Entry) (k : Key) (version : String) (revision : Value) : Prop :=
  (∀ e, IsLast k e entries → version = e.version ∧ revision = e.revision) ∧
    ((∀ e ∈ entries, e.key ≠ k) → version = "" ∧ revision = .text "")

theorem tells_lastWith (entries : List Entry) (k : Key) : Tells entries k
    (((lastWith k entries).map (·.version)).getD "")
    (((lastWith k entries).map (·.revision)).getD (.text "")) := by
  refine ⟨fun e last => ?_, fun none => ?_⟩
  · rw [lastWith_eq_some_iff.2 last]
    exact ⟨rfl, rfl⟩
  · rw [lastWith_eq_none_iff.2 none]
    exact ⟨rfl, rfl⟩

structure Covers (here there : List Entry) (items : List PlanItem) : Prop where
  increasing : (items.map (·.key)).Pairwise Key.Before
  keys : ∀ k, k ∈ items.map (·.key) ↔ (∃ e ∈ here ++ there, e.key = k) ∧ ∀ e, IsLast k e here → e.localOnly = false
  home : ∀ i ∈ items, Tells here i.key i.localVersion i.localRevision
  remote : ∀ i ∈ items, Tells there i.key i.remoteVersion i.remoteRevision

theorem pairwise_before (kept : ∀ e ∈ here ++ there, e.HasKeptName) (d : Direction) (m : Mode) :
    ((build here there d m).items.map (·.key)).Pairwise Key.Before := by
  rw [key_of_items]
  have apart := (pairwise_keysOf here there).and (nodup_keysOf here there)
  refine Pairwise.imp_of_mem (fun ha hb h => ?_) (apart.sublist filter_sublist)
  exact Key.before_of_le (isKept_of_mem_keysOf kept (mem_of_mem_filter ha))
    (isKept_of_mem_keysOf kept (mem_of_mem_filter hb)) h.1 h.2

theorem covers_build (kept : ∀ e ∈ here ++ there, e.HasKeptName) (d : Direction) (m : Mode) :
    Covers here there (build here there d m).items := by
  refine ⟨pairwise_before kept d m, fun k => ?_, fun i hi => ?_, fun i hi => ?_⟩
  · rw [key_of_items, mem_filter, mem_keysOf, Bool.not_eq_true', isPrivate_eq_false_iff]
    simp only [mem_append, or_and_right, exists_or]
  · rw [(mem_items hi).2.2]
    exact tells_lastWith here i.key
  · rw [(mem_items hi).2.2]
    exact tells_lastWith there i.key

/-- There is a plan for two indexes exactly when the versions that it depends on can be read. It has one item
for each key of either whose last entry here is not private, strictly in the order of the keys, with the
versions and revisions of the last entries. Where no key is repeated, the order of the entries does not
matter. -/
theorem plan_covers (here there : List Entry) (d : Direction) (m : Mode)
    (kept : ∀ e ∈ here ++ there, e.HasKeptName) :
    ((∃ plan, make here there d m = .ok plan) ↔ Comparable here there m) ∧
      (∀ plan, make here there d m = .ok plan → Covers here there plan.items) ∧
      ((here.map (·.key)).Nodup → (there.map (·.key)).Nodup → ∀ here' there' : List Entry,
        here'.Perm here → there'.Perm there → make here' there' d m = make here there d m) := by
  refine ⟨?_, fun plan made => ?_, fun nodup nodup' here' there' perm perm' => ?_⟩
  · simp only [make_eq_ok_iff, exists_and_left, exists_eq', and_true]
    exact check_eq_ok_iff
  · obtain ⟨-, rfl⟩ := make_eq_ok_iff.1 made
    exact covers_build kept d m
  · exact make_perm kept nodup nodup' perm perm' d m

def repeated : List Entry :=
  [{ name := .text "B", kind := .skill }, { name := .text "A b", kind := .skill, version := "1" },
    { name := .text "a_B.md", kind := .skill, version := "2" }]

/-- The later of two entries under one key is the one that is planned for. -/
theorem plan_covers_repeated : ∃ plan, make repeated [] .push .additive = .ok plan ∧
    ∃ i ∈ plan.items, i.key = ⟨.skill, "a-b"⟩ ∧ i.localVersion = "2" := by
  have kept : ∀ e ∈ repeated ++ [], e.HasKeptName := by
    have texts : Text.IsKept "B" ∧ Text.IsKept "A b" ∧ Text.IsKept "a_B.md" := by
      simp only [Text.IsKept]
      decide
    simpa [repeated, Entry.HasKeptName] using texts
  have plain : ∀ e ∈ repeated, e.localOnly = false := by decide
  have key : repeated[2].key = ⟨.skill, "a-b"⟩ := by decide +kernel
  have last : IsLast ⟨.skill, "a-b"⟩ repeated[2] repeated := ⟨repeated.take 2, [], rfl, key, by simp⟩
  obtain ⟨made, covers, -⟩ := plan_covers repeated [] .push .additive kept
  have alone : Comparable repeated [] .additive := by
    rintro k a b - ⟨_, _, no, -⟩
    simp at no
  obtain ⟨plan, made⟩ := made.2 alone
  replace covers := covers plan made
  have shown : ∀ e, IsLast ⟨.skill, "a-b"⟩ e repeated → e.localOnly = false := by
    rintro e ⟨before, after, split, -⟩
    exact plain e (split ▸ by simp)
  have planned := (covers.keys ⟨.skill, "a-b"⟩).2 ⟨⟨repeated[2], by simp, key⟩, shown⟩
  obtain ⟨i, hi, same⟩ := mem_map.1 planned
  exact ⟨plan, made, i, hi, same, ((covers.home i hi).1 _ (same ▸ last)).1⟩

def endlessEntry (digest : String) : Entry :=
  { name := .text "a", kind := .skill, version := Merge.digitRun (maxDigits + 1), digest := .text digest }

/-- Two copies differ, and a version has a number too long to be read: no plan comes of them. -/
theorem endless_version_unplanned : ¬∃ plan, make [endlessEntry "1"] [endlessEntry "2"] .push .additive = .ok plan := by
  rintro ⟨plan, made⟩
  have comparable := check_eq_ok_iff.1 (make_eq_ok_iff.1 made).1
  rcases comparable _ (endlessEntry "1") (endlessEntry "2") ⟨[], [], rfl, rfl, nofun⟩ ⟨[], [], rfl, rfl, nofun⟩ rfl with
    same | no | ⟨read, -⟩
  · exact absurd same (by decide +kernel)
  · cases no
  · exact Merge.check_digitRun (Nat.lt_succ_self maxDigits) read

end Plan

end TriStore
