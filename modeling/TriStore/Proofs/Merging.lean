import TriStore.Proofs.SoundEntries

/-!
Texts compare by the versions at their fronts. Merging the hits of several stores makes those of an
element its copies, store by store in the order.
-/
namespace TriStore

open List

instance : Ord Version := ⟨Version.compare⟩

instance : Std.TransOrd Version :=
  inferInstanceAs (Std.TransCmp (compareLex (compareOn Version.major)
    (compareLex (compareOn Version.minor) (compareOn Version.patch))))

theorem compareVersions_eq : compareVersions = compareOn Version.parse? := by
  funext a b
  unfold compareVersions compareOn
  cases Version.parse? a <;> cases Version.parse? b <;> rfl

instance : Std.TransCmp compareVersions := compareVersions_eq ▸ inferInstance

theorem compareVersions_of_unknown {a b : String} (ha : Version.parse? a = none)
    (hb : (Version.parse? b).isSome = true) : compareVersions a b = .lt := by
  obtain ⟨v, hv⟩ := Option.isSome_iff_exists.1 hb
  simp [compareVersions, ha, hv]

theorem isSome_of_compareVersions {a b : String} (h : compareVersions a b = .gt) :
    (Version.parse? a).isSome = true := by
  unfold compareVersions at h
  cases ha : Version.parse? a with
  | none => rw [ha] at h; cases hb : Version.parse? b <;> simp [hb] at h
  | some v => rfl

/-- The first of the members with the greatest version. -/
def IsNewest {α : Type} (version : α → String) (a : α) (l : List α) : Prop :=
  ∃ before after, l = before ++ a :: after ∧ (∀ x ∈ before, compareVersions (version x) (version a) = .lt) ∧
    ∀ x ∈ after, (compareVersions (version x) (version a)).isLE = true

namespace IsNewest

variable {α : Type} {version : α → String} {a b : α} {l : List α}

theorem singleton (version : α → String) (a : α) : IsNewest version a [a] := ⟨[], [], rfl, by simp, by simp⟩

theorem mem (h : IsNewest version a l) : a ∈ l := by
  obtain ⟨before, after, rfl, -⟩ := h
  simp

theorem isLE (h : IsNewest version a l) {x : α} (hx : x ∈ l) :
    (compareVersions (version x) (version a)).isLE = true := by
  obtain ⟨before, after, rfl, older, others⟩ := h
  rcases mem_append.1 hx with hx | hx
  · rw [older x hx]
    rfl
  · rcases mem_cons.1 hx with rfl | hx
    · exact Std.ReflCmp.isLE_rfl
    · exact others x hx

theorem keep (h : IsNewest version a l) (hb : compareVersions (version b) (version a) ≠ .gt) :
    IsNewest version a (l ++ [b]) := by
  obtain ⟨before, after, rfl, older, others⟩ := h
  refine ⟨before, after ++ [b], by simp, older, fun x hx => ?_⟩
  rcases mem_append.1 hx with hx | hx
  · exact others x hx
  · rw [mem_singleton.1 hx]
    exact Ordering.isLE_iff_ne_gt.2 hb

theorem replace (h : IsNewest version a l) (hb : compareVersions (version b) (version a) = .gt) :
    IsNewest version b (l ++ [b]) :=
  ⟨l, [], rfl, fun _ hx => Std.TransCmp.lt_of_isLE_of_lt (h.isLE hx) (Std.OrientedCmp.lt_of_gt hb), by simp⟩

theorem unique (ha : IsNewest version a l) (hb : IsNewest version b l) : a = b := by
  obtain ⟨front, back, rfl, older, others⟩ := ha
  obtain ⟨front', back', same, older', others'⟩ := hb
  -- of two places the later one would be newer than the earlier, and not newer
  rcases append_eq_append_iff.1 same with ⟨mid, rfl, rest⟩ | ⟨mid, rfl, rest⟩
  · cases mid with
    | nil => exact (List.cons.inj rest).1
    | cons c mid =>
      obtain ⟨rfl, rfl⟩ := List.cons.inj rest
      exact absurd (others b (by simp)) (Std.OrientedCmp.not_isLE_of_lt (older' a (by simp)))
  · cases mid with
    | nil => exact (List.cons.inj rest).1.symm
    | cons c mid =>
      obtain ⟨rfl, rfl⟩ := List.cons.inj rest
      exact absurd (others' a (by simp)) (Std.OrientedCmp.not_isLE_of_lt (older b (by simp)))

theorem filter (h : IsNewest version a l) {q : α → Bool} (ha : q a = true) : IsNewest version a (l.filter q) := by
  obtain ⟨before, after, rfl, older, others⟩ := h
  refine ⟨before.filter q, after.filter q, by simp [ha], fun x hx => ?_, fun x hx => ?_⟩
  · exact older x (mem_filter.1 hx).1
  · exact others x (mem_filter.1 hx).1

end IsNewest

/-- What a scan has found among the hits it has seen. -/
def Merge.IsFound (best : Option Hit) (seen : List Hit) : Prop :=
  match best with
  | none => ∀ h ∈ seen, Version.parse? h.version = none
  | some b => (Version.parse? b.version).isSome = true ∧ IsNewest Hit.version b seen

theorem Merge.isFound_newest? (group : List Hit) : IsFound (newest? group) group := by
  suffices scan : ∀ (rest seen : List Hit) (best : Option Hit), IsFound best seen →
      IsFound (rest.foldl _ best) (seen ++ rest) from scan group [] none (by simp [IsFound])
  intro rest
  induction rest with
  | nil => simp
  | cons h rest ih =>
    intro seen best found
    rw [foldl_cons, append_cons]
    refine ih _ _ ?_
    cases parsed : Version.parse? h.version with
    | none =>
      cases best with
      | none => exact forall_mem_append.2 ⟨found, by simpa using parsed⟩
      | some b =>
        obtain ⟨known, newest⟩ := found
        exact ⟨known, newest.keep (by rw [compareVersions_of_unknown parsed known]; decide)⟩
    | some v =>
      have known : (Version.parse? h.version).isSome = true := by rw [parsed]; rfl
      cases best with
      | none => exact ⟨known, seen, [], rfl, fun x hx => compareVersions_of_unknown (found x hx) known, by simp⟩
      | some b =>
        by_cases newer : compareVersions h.version b.version = .gt
        · simpa [newer] using ⟨known, found.2.replace newer⟩
        · simpa [newer] using ⟨found.1, found.2.keep newer⟩

namespace Divergence

variable {versions : List (Source × String)} {order : List Source}

theorem isNewest_best {b : Source × String} {seen : List (Source × String)} (h : IsNewest (·.2) b seen)
    (rest : List (Source × String)) : IsNewest (·.2) (best b rest) (seen ++ rest) := by
  induction rest generalizing b seen with
  | nil => rwa [best, append_nil]
  | cons c rest ih =>
    rw [best, append_cons]
    refine ih ?_
    split
    · next newer => exact h.replace (eq_of_beq newer)
    · next not => exact h.keep fun newer => not (beq_iff_eq.2 newer)

theorem isNewest_of_recommend? {s : Source} {reason : String} (h : recommend? versions order = some (s, reason)) :
    ∃ v, IsNewest (·.2) (s, v) (candidates versions order) := by
  unfold recommend? at h
  split at h
  · cases h
  · next first rest listed =>
    have top : IsNewest (·.2) (best first rest) (first :: rest) := isNewest_best (.singleton _ _) rest
    rw [listed]
    dsimp only at h
    split at h
    · cases h
      exact ⟨_, top⟩
    · next none =>
      cases h
      -- none is older than the newest, so the newest is the first of all
      have same : best first rest = first := by
        obtain ⟨before, after, split, older, -⟩ := top
        cases before with
        | nil => exact (List.cons.inj split).1.symm
        | cons c before =>
          obtain ⟨rfl, -⟩ := List.cons.inj split
          refine absurd (any_eq_true.2 ⟨first, (.head _), ?_⟩) none
          exact beq_iff_eq.2 (Std.OrientedCmp.gt_of_lt (older first (.head _)))
      rw [same] at top
      exact ⟨first.2, top⟩

end Divergence

theorem one_lt_length_eraseDups {α : Type} [BEq α] [LawfulBEq α] {l : List α} :
    1 < l.eraseDups.length ↔ ∃ a ∈ l, ∃ b ∈ l, a ≠ b := by
  constructor
  · intro several
    have nodup := Plan.nodup_eraseDups l
    have mem (a : α) (h : a ∈ l.eraseDups) : a ∈ l := mem_eraseDups.1 h
    rcases listed : l.eraseDups with _ | ⟨a, _ | ⟨b, rest⟩⟩
    · simp [listed] at several
    · simp [listed] at several
    · rw [listed] at nodup mem
      exact ⟨a, mem a (by simp), b, mem b (by simp), fun same => by simp [same] at nodup⟩
  · rintro ⟨a, ha, b, hb, ne⟩
    have two : [a, b].Nodup := by simpa using ne
    have within : [a, b] ⊆ l.eraseDups := by simp [subset_def, mem_eraseDups, ha, hb]
    exact (two.subperm within).length_le

namespace Merge

variable {order : List Source} {hits : List (Source × List Hit)} {group : List Hit}

def copies (order : List Source) (hits : List (Source × List Hit)) (k : Key) : List Hit :=
  order.flatMap fun s => ((hits.lookup s).getD []).filter (·.key == k)

theorem filter_inOrder (order : List Source) (hits : List (Source × List Hit)) (k : Key) :
    (inOrder order hits).filter (·.key == k) = copies order hits k := filter_flatMap

/-- What the findings of an element say of its copies. -/
structure Represents (copies : List Hit) (all : Bool) (found : List Finding) : Prop where
  hits : found.map (·.hit) = if all then copies else copies.take 1
  duplicate : ∀ f ∈ found, f.isDuplicate = true ↔ ∃ a ∈ copies, ∃ b ∈ copies, a.source ≠ b.source
  /-- The first finding names the store of the newest copy, if that one is newer. -/
  update : ∀ f ∈ found.head?, ∀ s, f.updateFrom = some s ↔
    ∃ h, IsNewest Hit.version h copies ∧ h.source = s ∧ compareVersions h.version f.hit.version = .gt
  others : ∀ f ∈ found.tail, f.updateFrom = none

theorem updateFrom?_eq_some_iff {first : Hit} {s : Source} : updateFrom? first group = some s ↔
    ∃ h, IsNewest Hit.version h group ∧ h.source = s ∧ compareVersions h.version first.version = .gt := by
  have found := isFound_newest? group
  unfold updateFrom?
  cases newest : newest? group with
  | none =>
    rw [newest] at found
    refine ⟨fun no => (by cases no), ?_⟩
    rintro ⟨h, newest, -, newer⟩
    have known := isSome_of_compareVersions newer
    rw [found h newest.mem] at known
    cases known
  | some h =>
    rw [newest] at found
    obtain ⟨-, newest⟩ := found
    rw [Option.bind_some]
    constructor
    · intro named
      split at named
      · next newer => exact ⟨h, newest, Option.some.inj named, eq_of_beq newer⟩
      · cases named
    · rintro ⟨h', newest', rfl, newer⟩
      obtain rfl := newest.unique newest'
      rw [if_pos (beq_iff_eq.2 newer)]

theorem represents_findings (order : List Source) (all : Bool) (group : List Hit) :
    Represents group all (findings order all group) := by
  cases group with
  | nil => cases all <;> constructor <;> simp [findings]
  | cons first others =>
    have several : (1 < ((first :: others).map (·.source)).eraseDups.length) ↔
        ∃ a ∈ first :: others, ∃ b ∈ first :: others, a.source ≠ b.source := by
      rw [one_lt_length_eraseDups]
      simp
    refine ⟨?_, fun f hf => ?_, fun f hf s => ?_, fun f hf => ?_⟩
    · cases all <;> simp [findings, Function.comp_def]
    · rw [← several]
      rcases mem_cons.1 hf with rfl | hf
      · exact decide_eq_true_iff
      · cases all with
        | false => cases hf
        | true =>
          obtain ⟨h, -, rfl⟩ := mem_map.1 hf
          exact decide_eq_true_iff
    · obtain rfl := Option.some.inj hf
      exact updateFrom?_eq_some_iff
    · cases all with
      | false => cases hf
      | true =>
        obtain ⟨h, -, rfl⟩ := mem_map.1 hf
        rfl

theorem key_of_mem_findings {all : Bool} {k : Key} {l : List Hit} {f : Finding}
    (h : f ∈ findings order all (l.filter (·.key == k))) : f.key = k := by
  have hit : f.hit ∈ l.filter (·.key == k) := by
    have hits := (represents_findings order all (l.filter (·.key == k))).hits
    have mem : f.hit ∈ (findings order all (l.filter (·.key == k))).map (·.hit) := mem_map_of_mem h
    rw [hits] at mem
    cases all with
    | false => exact mem_of_mem_take mem
    | true => exact mem
  exact eq_of_beq (mem_filter.1 hit).2

theorem filter_merge (order : List Source) (hits : List (Source × List Hit)) (all : Bool) (k : Key) :
    (merge order hits all).filter (·.key == k) = findings order all (copies order hits k) := by
  have keyed (keys : List Key) (nodup : keys.Nodup) (l : List Hit) :
      (keys.flatMap fun k => findings order all (l.filter (·.key == k))).filter (·.key == k) =
        if k ∈ keys then findings order all (l.filter (·.key == k)) else [] := by
    induction keys with
    | nil => rfl
    | cons k' keys ih =>
      obtain ⟨absent, nodup⟩ := nodup_cons.1 nodup
      rw [flatMap_cons, filter_append, ih nodup]
      by_cases same : k' = k
      · subst same
        rw [if_neg absent, append_nil, filter_eq_self.2 fun f hf => beq_iff_eq.2 (key_of_mem_findings hf)]
        simp
      · have none : (findings order all (l.filter (·.key == k'))).filter (·.key == k) = [] :=
          filter_eq_nil_iff.2 fun f hf => by simp [key_of_mem_findings hf, same]
        simp [none, Ne.symm same]
  rw [merge, groups_eq, flatMap_map, keyed _ (Plan.nodup_eraseDups _), filter_inOrder]
  split
  · rfl
  · next absent =>
    have none : copies order hits k = [] := by
      rw [← filter_inOrder, filter_eq_nil_iff]
      exact fun h hh same => absent (mem_eraseDups.2 (mem_map.2 ⟨h, hh, eq_of_beq same⟩))
    rw [none]
    rfl

theorem merge_perm (order : List Source) (hits : List (Source × List Hit)) :
    ((merge order hits true).map (·.hit)).Perm (inOrder order hits) := by
  classical
  rw [perm_iff_count]
  intro h
  have own (l : List Hit) : l.count h = (l.filter (·.key == h.key)).count h :=
    (count_filter (by simp)).symm
  have same := (represents_findings order true (copies order hits h.key)).hits
  rw [← filter_merge, if_pos rfl, ← filter_inOrder] at same
  rw [own, own (inOrder order hits), ← same, filter_map]
  rfl

/-- How hits are merged. -/
theorem merge_law (order : List Source) (hits : List (Source × List Hit)) :
    (check order hits = .ok () ↔ ∀ h ∈ inOrder order hits, Version.check h.version = .ok ()) ∧
      ((merge order hits true).map (·.hit)).Perm (inOrder order hits) ∧
      ∀ k all, Represents (copies order hits k) all ((merge order hits all).filter (·.key == k)) :=
  ⟨check_eq_ok_iff, merge_perm order hits, fun k all => filter_merge order hits all k ▸ represents_findings order all _⟩

def digitRun (n : Nat) : String := String.ofList (List.replicate n '1')

theorem check_digitRun {n : Nat} (long : maxDigits < n) : Version.check (digitRun n) ≠ .ok () := by
  obtain ⟨m, rfl⟩ : ∃ m, n = m + 1 := ⟨n - 1, by omega⟩
  have digit : Text.isDigit '1' = true := by decide
  have blank : Text.isBlank '1' = false := by decide
  have trimmed : Text.trim Text.isBlank (List.replicate (m + 1) '1') = List.replicate (m + 1) '1' := by
    simp [Text.trim, Text.trimStart, Text.trimEnd, blank]
  have digits : List.replicate (m + 1) '1' ∈ Version.digitsOf (List.replicate (m + 1) '1') := by
    simp [Version.digitsOf, replicate_succ, digit]
  intro checked
  rw [Version.check, digitRun, String.toList_ofList, trimmed] at checked
  have short := forM_eq_ok_iff.1 checked _ digits
  rw [if_pos (by simpa using long)] at short
  cases short

def endlessHit : Hit :=
  { entry := { (default : Entry) with name := .text "a", version := digitRun (maxDigits + 1) }, source := .home }

/-- No merge comes of it. -/
theorem endless_version_unmerged : check [.home] [(.home, [endlessHit])] ≠ .ok () :=
  fun merged => check_digitRun (Nat.lt_succ_self maxDigits) (check_eq_ok_iff.1 merged endlessHit (by simp [inOrder]))

end Merge

end TriStore
