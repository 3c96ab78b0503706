import Mathlib.Data.List.Nodup
import TriStore.Proofs.NormalName
import TriStore.Proofs.Plan

/-!
A lookup answers the entry that qualifies by its name if there is one only, and else lists candidates that
differ.
-/
namespace TriStore
open List

theorem Name.tokenize_normalize_ne_nil {s : String} (h : normalize s ≠ "") :
    Relevance.tokenize (normalize s) ≠ [] := by
  have normal := isNormal_normalizeChars s.toList
  have named : Text.trim (· == '-') (normalizeChars s.toList) ≠ [] := by
    rw [normal.trimmed]
    exact fun none => h (by simp [normalize, none])
  obtain ⟨c, hc, plain⟩ := Text.exists_of_trim_ne_nil named
  have apart : Relevance.isSeparator c = false := by
    obtain ⟨blank, underscore, -⟩ := normal.plain c hc
    have hyphen : ¬c = '-' := by simpa using plain
    simp [Relevance.isSeparator, blank, underscore, hyphen]
  simpa [tokenize_normalize] using Text.words_ne_nil hc apart

theorem Key.label_inj {a b : Key} (h : a.label = b.label) : a = b := by
  have front (k : Key) : k.label.toList.takeWhile (· != '/') = k.kind.label.toList := by
    cases hk : k.kind <;> simp [label, hk, Kind.label]
  have kind : a.kind = b.kind := Kind.label_inj (String.toList_inj.1 (by rw [← front, ← front, h]))
  have name : a.name = b.name := by
    unfold label at h
    rw [kind] at h
    simpa using h
  cases a
  cases b
  simp_all

namespace Lookup

variable {query place : String} {es es' : List Entry} {e e' : Entry}

section Qualifying

/-- The name has in it what is wanted, or all the words of that. -/
def Resembles (wanted name : String) : Prop :=
  wanted.toList <:+: name.toList ∨ ∀ t ∈ Relevance.tokenize wanted, t ∈ Relevance.tokenize name

/-- The entry is named as the query says, or no entry is and its name resembles that. -/
def Qualifies (query : String) (es : List Entry) (e : Entry) : Prop :=
  let wanted := Name.normalize query
  wanted ≠ "" ∧ e ∈ es ∧
    (e.key.name = wanted ∨ (∀ e' ∈ es, e'.key.name ≠ wanted) ∧ Resembles wanted e.key.name)

theorem loosely_iff {wanted : String} : loosely wanted e = true ↔ Resembles wanted e.key.name := by
  simp only [loosely, Text.includes, Bool.or_eq_true, Text.occursIn_iff, all_eq_true, contains_iff_mem, Resembles]

theorem mem_candidates_iff : e ∈ candidates query es ↔ Qualifies query es e := by
  unfold candidates Qualifies
  by_cases blank : Name.normalize query = ""
  · simp [blank]
  rw [if_neg (by simpa using blank)]
  by_cases named : ∃ e' ∈ es, e'.key.name = Name.normalize query
  · obtain ⟨e', mem, name⟩ := named
    have found : (es.filter (·.key.name == Name.normalize query)).isEmpty = false := by
      rw [isEmpty_eq_false_iff]
      exact ne_nil_of_mem (mem_filter.2 ⟨mem, by simpa using name⟩)
    have taken : ¬∀ e' ∈ es, e'.key.name ≠ Name.normalize query := fun none => none e' mem name
    simp [found, taken, blank]
  · have none : ∀ e' ∈ es, e'.key.name ≠ Name.normalize query := fun e' mem name => named ⟨e', mem, name⟩
    have found : es.filter (·.key.name == Name.normalize query) = [] := by simpa using none
    rw [found]
    simp only [isEmpty_nil, Bool.not_true, Bool.false_eq_true, if_false, mem_mergeSort, mem_filter, loosely_iff]
    refine ⟨fun ⟨mem, like⟩ => ⟨blank, mem, .inr ⟨none, like⟩⟩, fun ⟨_, mem, reason⟩ => ⟨mem, ?_⟩⟩
    exact (reason.resolve_left (none e mem)).2

theorem candidates_perm (same : es.Perm es') : (candidates query es).Perm (candidates query es') := by
  have exact := same.filter fun e => e.key.name == Name.normalize query
  unfold candidates
  dsimp only
  rw [exact.isEmpty_eq]
  split
  · exact .refl _
  · split
    · exact exact
    · exact (mergeSort_perm _ _).trans ((same.filter _).trans (mergeSort_perm _ _).symm)

theorem Qualifies.of_name (h : Qualifies query es e) (mem : e' ∈ es) (name : e'.key.name = e.key.name) :
    Qualifies query es e' := by
  obtain ⟨named, -, reason⟩ := h
  refine ⟨named, mem, ?_⟩
  rwa [name]

theorem Qualifies.name_ne (h : Qualifies query es e) : e.key.name ≠ "" := by
  obtain ⟨named, -, same | ⟨-, inside | words⟩⟩ := h
  · rwa [same]
  · intro none
    rw [none] at inside
    exact named (String.toList_inj.1 (infix_nil.1 inside))
  · intro none
    obtain ⟨t, ht⟩ := exists_mem_of_ne_nil _ (Name.tokenize_normalize_ne_nil named)
    have word := words t ht
    rw [none] at word
    exact absurd word (by simp [Relevance.tokenize, Text.lowerChars, Text.lowerAfter, Text.words, Text.pieces])

theorem nodup_candidates (distinct : (es.map Entry.key).Nodup) : ((candidates query es).map Entry.key).Nodup := by
  unfold candidates
  dsimp only
  split
  · exact nodup_nil
  · split
    · exact (filter_sublist.map _).nodup distinct
    · exact ((mergeSort_perm _ _).map _).nodup_iff.2 ((filter_sublist.map _).nodup distinct)

end Qualifying

section Outcome

/-- How an entry is shown: by its name, and with its kind if two share the name. -/
def shown (ms : List Entry) (e : Entry) : String :=
  if (ms.map (·.key.name)).Nodup then e.key.name else e.key.label

theorem describe_eq (ms : List Entry) : describe ms = ms.map (shown ms) := by
  have plain : (ms.map (·.key.name)).eraseDups.length = (ms.map (·.key.name)).length ↔
      (ms.map (·.key.name)).Nodup := Plan.length_eraseDups_eq_iff
  unfold describe shown
  by_cases distinct : (ms.map (·.key.name)).Nodup
  · simp [distinct, plain.2 distinct]
  · have shared := mt plain.1 distinct
    simp_all

theorem nodup_shown {ms : List Entry} (distinct : (ms.map Entry.key).Nodup) : (ms.map (shown ms)).Nodup := by
  unfold shown
  split
  · next names => exact names
  · have labels := List.Nodup.map (fun _ _ => Key.label_inj) distinct
    rwa [map_map] at labels

theorem resolve_cases (query place : String) (es : List Entry) :
    candidates query es = [] ∧ resolve query es place = .error (.notFound query place) ∨
    (∃ e, candidates query es = [e] ∧ resolve query es place = .ok e) ∨ 2 ≤ (candidates query es).length ∧
      resolve query es place = .error (.ambiguous query ((candidates query es).map (shown (candidates query es)))) := by
  unfold resolve
  split
  · next none => exact .inl ⟨none, rfl⟩
  · next e only => exact .inr (.inl ⟨e, only, rfl⟩)
  · next none other =>
    refine .inr (.inr ⟨?_, by rw [describe_eq]⟩)
    rcases found : candidates query es with _ | ⟨e, _ | ⟨e', rest⟩⟩
    · exact absurd found none
    · exact absurd found (other e)
    · simp

theorem resolve_eq_ok_iff (distinct : (es.map Entry.key).Nodup) :
    resolve query es place = .ok e ↔ ∀ e', Qualifies query es e' ↔ e' = e := by
  simp only [← mem_candidates_iff]
  have nodup : (candidates query es).Nodup := Nodup.of_map _ (nodup_candidates distinct)
  rcases resolve_cases query place es with ⟨found, ends⟩ | ⟨e₁, found, ends⟩ | ⟨several, ends⟩
  · simp only [found, ends]
    exact ⟨nofun, fun only => nomatch (only e).2 rfl⟩
  · simp only [found, ends, mem_singleton]
    exact ⟨fun same e' => by rw [Except.ok.inj same], fun only => by rw [(only e₁).1 rfl]⟩
  · rw [ends]
    refine ⟨nofun, fun only => ?_⟩
    have whole : (candidates query es).Perm [e] :=
      (perm_ext_iff_of_nodup nodup (nodup_singleton e)).2 (by simpa using only)
    rw [whole.length_eq] at several
    simp at several

/-- The same entry, the same failure, or candidates that differ in their order only. -/
inductive Agree : Except Failure Entry → Except Failure Entry → Prop where
  | same (r : Except Failure Entry) : Agree r r
  | listed {query : String} {cs cs' : List String} (perm : cs.Perm cs') :
      Agree (.error (.ambiguous query cs)) (.error (.ambiguous query cs'))

theorem agree_of_perm (same : es.Perm es') : Agree (resolve query es place) (resolve query es' place) := by
  have perm : (candidates query es).Perm (candidates query es') := candidates_perm same
  rcases resolve_cases query place es with ⟨found, ends⟩ | ⟨e, found, ends⟩ | ⟨several, ends⟩
  · rw [found] at perm
    rw [ends, resolve, nil_perm.1 perm]
    exact .same _
  · rw [found] at perm
    rw [ends, resolve, perm_singleton.1 perm.symm]
    exact .same _
  · have alike : shown (candidates query es) = shown (candidates query es') := by
      unfold shown
      simp only [(perm.map (·.key.name)).nodup_iff]
    rcases resolve_cases query place es' with ⟨found, -⟩ | ⟨e, found, -⟩ | ⟨-, ends'⟩
    · simp [perm.length_eq, found] at several
    · simp [perm.length_eq, found] at several
    · rw [ends, ends', alike]
      exact .listed (perm.map _)

/-- A lookup answers the entry that alone qualifies, fails if none does, and else lists one candidate for each
that does, no two alike. The order of the entries does not matter. -/
theorem resolve_never_guesses (distinct : (es.map Entry.key).Nodup) (query place : String) :
    (∀ e, resolve query es place = .ok e ↔ ∀ e', Qualifies query es e' ↔ e' = e) ∧
    (resolve query es place = .error (.notFound query place) ↔ ∀ e, ¬Qualifies query es e) ∧
    ((∃ e e', e ≠ e' ∧ Qualifies query es e ∧ Qualifies query es e') →
      ∃ ms : List Entry, ms.Nodup ∧ (∀ e, e ∈ ms ↔ Qualifies query es e) ∧ (ms.map (shown ms)).Nodup ∧
        resolve query es place = .error (.ambiguous query (ms.map (shown ms)))) ∧
    ∀ es', es.Perm es' → Agree (resolve query es place) (resolve query es' place) := by
  have keys : ((candidates query es).map Entry.key).Nodup := nodup_candidates distinct
  refine ⟨fun e => resolve_eq_ok_iff distinct, ?_, ?_, fun es' same => agree_of_perm same⟩
  · simp only [← mem_candidates_iff]
    rcases resolve_cases query place es with ⟨found, ends⟩ | ⟨e, found, ends⟩ | ⟨several, ends⟩
    · simp [found, ends]
    · simp [found, ends]
    · rw [ends]
      refine ⟨nofun, fun none => ?_⟩
      rw [eq_nil_iff_forall_not_mem.2 none] at several
      simp at several
  · rintro ⟨e, e', differ, he, he'⟩
    rw [← mem_candidates_iff] at he he'
    refine ⟨candidates query es, Nodup.of_map _ keys, fun _ => mem_candidates_iff, nodup_shown keys, ?_⟩
    rcases resolve_cases query place es with ⟨found, -⟩ | ⟨e₁, found, -⟩ | ⟨-, ends⟩
    · simp [found] at he
    · simp only [found, mem_singleton] at he he'
      exact absurd (he.trans he'.symm) differ
    · exact ends

def twins : List Entry := [{ name := .text "helper", kind := .persona }, { name := .text "Helper", kind := .skill }]

/-- Two elements of one name, in either order. -/
theorem resolve_never_guesses_twins : Agree (resolve "helper.md" twins "") (resolve "helper.md" twins.reverse "") :=
  (resolve_never_guesses (by decide +kernel) "helper.md" "").2.2.2 _ (reverse_perm _).symm

end Outcome

section GivenBack

/-- The entry alone resembles what is wanted, and none is named so. -/
def Alone (wanted : String) (es : List Entry) (e : Entry) : Prop :=
  wanted ≠ "" ∧ (∀ e' ∈ es, e'.key.name ≠ wanted) ∧ ∀ e' ∈ es, Resembles wanted e'.key.name ↔ e' = e

theorem exists_normalize_eq_name (e : Entry) : ∃ s, e.key.name = Name.normalize s := by
  unfold Entry.key
  dsimp only
  split
  · exact ⟨_, rfl⟩
  · exact ⟨"", by decide +kernel⟩

theorem normalize_label_ne (k : Key) : Name.normalize k.label ≠ k.name := by
  intro same
  have slashes := Name.count_slash_normalize k.label
  rw [same] at slashes
  simp [Key.label] at slashes
  omega

theorem resolve_eq_ok_iff_alone (distinct : (es.map Entry.key).Nodup) (mem : e ∈ es)
    (other : Name.normalize query ≠ e.key.name) :
    resolve query es place = .ok e ↔ Alone (Name.normalize query) es e := by
  rw [resolve_eq_ok_iff distinct]
  constructor
  · intro only
    obtain ⟨named, -, same | ⟨none, -⟩⟩ := (only e).2 rfl
    · exact absurd same.symm other
    · refine ⟨named, none, fun e' he' => ⟨fun like => (only e').1 ⟨named, he', .inr ⟨none, like⟩⟩, ?_⟩⟩
      rintro rfl
      exact (((only e').2 rfl).2.2.resolve_left other.symm).2
  · rintro ⟨named, none, only⟩ e'
    constructor
    · rintro ⟨-, he', same | ⟨-, like⟩⟩
      · exact absurd same (none e' he')
      · exact (only e' he').1 like
    · rintro rfl
      exact ⟨named, mem, .inr ⟨none, (only e' mem).2 rfl⟩⟩

/-- A candidate that is looked up leads to its entry if it is a name that does not end like a file's, or if
nothing else is like it; not if the entry shares its name. -/
theorem given_back_iff {cs : List String} (distinct : (es.map Entry.key).Nodup)
    (ambiguous : resolve query es place = .error (.ambiguous query cs)) :
    ∃ ms : List Entry, cs = ms.map (shown ms) ∧ (∀ e, e ∈ ms ↔ Qualifies query es e) ∧ ∀ e ∈ ms,
      (resolve (shown ms e) es place = .ok e ↔
        (ms.map (·.key.name)).Nodup ∧ ¬['.', 'm', 'd'] <:+ e.key.name.toList ∨
          Alone (Name.normalize (shown ms e)) es e) ∧
      ((∃ e' ∈ es, e' ≠ e ∧ e'.key.name = e.key.name) → resolve (shown ms e) es place ≠ .ok e) := by
  have listed : cs = (candidates query es).map (shown (candidates query es)) := by
    rcases resolve_cases query place es with ⟨-, ends⟩ | ⟨e, -, ends⟩ | ⟨-, ends⟩
    · rw [ends] at ambiguous
      cases ambiguous
    · rw [ends] at ambiguous
      cases ambiguous
    · rw [ends] at ambiguous
      exact (Failure.ambiguous.inj (Except.error.inj ambiguous)).2.symm
  refine ⟨candidates query es, listed, fun _ => mem_candidates_iff, fun e he => ?_⟩
  generalize hms : candidates query es = ms at he
  have qualified : ∀ e, e ∈ ms ↔ Qualifies query es e := fun e => by rw [← hms, mem_candidates_iff]
  have mem : e ∈ es := ((qualified e).1 he).2.1
  -- no entry besides has the name, if the candidates are told apart by their names
  have only (names : (ms.map (·.key.name)).Nodup) (e' : Entry) (he' : e' ∈ es)
      (same : e'.key.name = e.key.name) : e' = e :=
    inj_on_of_nodup_map names ((qualified e').2 (((qualified e).1 he).of_name he' same)) he same
  have back : resolve (shown ms e) es place = .ok e ↔
      (ms.map (·.key.name)).Nodup ∧ ¬['.', 'm', 'd'] <:+ e.key.name.toList ∨
        Alone (Name.normalize (shown ms e)) es e := by
    by_cases plain : (ms.map (·.key.name)).Nodup ∧ ¬['.', 'm', 'd'] <:+ e.key.name.toList
    · have again : Name.normalize (shown ms e) = e.key.name := by
        obtain ⟨s, name⟩ := exists_normalize_eq_name e
        rw [shown, if_pos plain.1, name]
        rcases Name.normalize_normalize_or s with ⟨-, same⟩ | ⟨extended, -⟩
        · exact same
        · exact absurd (name ▸ extended) plain.2
      refine iff_of_true ((resolve_eq_ok_iff distinct).2 fun e' => ?_) (.inl plain)
      unfold Qualifies
      rw [again]
      constructor
      · rintro ⟨-, he', same | ⟨none, -⟩⟩
        · exact only plain.1 e' he' same
        · exact absurd rfl (none e mem)
      · rintro rfl
        exact ⟨((qualified e').1 he).name_ne, mem, .inl rfl⟩
    · have other : Name.normalize (shown ms e) ≠ e.key.name := by
        unfold shown
        split
        · next names =>
          obtain ⟨s, name⟩ := exists_normalize_eq_name e
          rcases Name.normalize_normalize_or s with ⟨bare, -⟩ | ⟨-, shorter⟩
          · exact absurd ⟨names, name ▸ bare⟩ plain
          · intro same
            rw [← name, same] at shorter
            exact Nat.lt_irrefl _ shorter
        · exact normalize_label_ne e.key
      rw [resolve_eq_ok_iff_alone distinct mem other, or_iff_right plain]
  refine ⟨back, ?_⟩
  rintro ⟨e', he', differ, same⟩ found
  rcases back.1 found with ⟨names, -⟩ | ⟨-, -, alone⟩
  · exact differ (only names e' he' same)
  · exact differ ((alone e' he').1 (by rw [same]; exact (alone e mem).2 rfl))

theorem resolve_twins :
    resolve "helper" twins "" = .error (.ambiguous "helper" ["personas/helper", "skills/helper"]) := by
  rfl

/-- Neither candidate for two elements of one name leads to its element. -/
theorem given_back_iff_twins : ∃ ms : List Entry, ["personas/helper", "skills/helper"] = ms.map (shown ms) ∧
    ∀ e ∈ ms, resolve (shown ms e) twins "" ≠ .ok e := by
  obtain ⟨ms, listed, qualified, back⟩ := given_back_iff (by decide +kernel) resolve_twins
  refine ⟨ms, listed, fun e he => (back e he).2 ?_⟩
  have mem := ((qualified e).1 he).2.1
  simp only [twins, mem_cons, not_mem_nil, or_false] at mem ⊢
  rcases mem with rfl | rfl
  · exact ⟨_, .inr rfl, by simp, by decide +kernel⟩
  · exact ⟨_, .inl rfl, by simp, by decide +kernel⟩

/-- A candidate for an element that shares its name is not found. -/
theorem given_back_lost :
    resolve "helper" twins "" = .error (.ambiguous "helper" ["personas/helper", "skills/helper"]) ∧
      resolve "personas/helper" twins "" = .error (.notFound "personas/helper" "") := by
  refine ⟨rfl, ?_⟩
  have none : twins.filter (loosely "personas/helper") = [] := filter_eq_nil_iff.2 (by decide +kernel)
  have normal : Name.normalize "personas/helper" = "personas/helper" := by decide +kernel
  have unnamed : twins.filter (·.key.name == "personas/helper") = [] :=
    filter_eq_nil_iff.2 (by decide +kernel)
  simp [resolve, candidates, normal, unnamed, none]

end GivenBack

end Lookup

end TriStore
