import Mathlib.Data.List.Forall2
import TriStore.Proofs.Query
import TriStore.Sync.Secret

/-!
The search for credentials finds one exactly when some stretch sets its word to a value between quotes.
-/
namespace TriStore.Credential
open List

open Text

/-- What stands for a small letter: itself, its capital, or one of four letters beyond ASCII with the same
other case. -/
def Spells (c w : Char) : Prop :=
  c.toLower = w ∨ (c.toNat, w) ∈ [(0x17f, 's'), (0x212a, 'k'), (0x130, 'i'), (0x131, 'i')]

/-- The word of a credential, with or without a joint between its two parts. -/
def Names (k : Credential) (word : List Char) : Prop :=
  ∃ first joint second, word = first ++ (joint ++ second) ∧ List.Forall₂ Spells first k.parts.1 ∧
    List.Forall₂ Spells second k.parts.2 ∧ (joint = [] ∨ k.parts.2 ≠ [] ∧ (joint = ['_'] ∨ joint = ['-']))

/-- A value between quotes, which need not be alike. -/
def Quotes (cs : List Char) : Prop :=
  ∃ opening value closing, cs = opening :: (value ++ [closing]) ∧ isQuote opening = true ∧ value ≠ [] ∧
    (∀ c ∈ value, isQuote c = false) ∧ isQuote closing = true

/-- A stretch of text that sets the word of a credential to a quoted value. -/
def Sets (k : Credential) (cs : List Char) : Prop :=
  ∃ word before sign after quoted, cs = word ++ (before ++ sign :: (after ++ quoted)) ∧ k.Names word ∧
    (∀ c ∈ before, isBlank c = true) ∧ (sign = ':' ∨ sign = '=') ∧ (∀ c ∈ after, isBlank c = true) ∧
    Quotes quoted

variable {k : Credential} {c w : Char} {cs word front rest : List Char}

theorem toLower_ne (beyond : 128 ≤ c.toNat) (small : w.toNat < 128) : c.toLower ≠ w := by
  have capital : ¬(c.val ≥ 'A'.val ∧ c.val ≤ 'Z'.val) := fun range => by
    have below : c.toNat ≤ 'Z'.toNat := range.2
    exact absurd (beyond.trans below) (by decide)
  have same : c.toLower = c := dif_neg capital
  rw [same]
  rintro rfl
  omega

theorem fold_eq_iff (small : w.toNat < 128) : fold c = w ↔ Spells c w := by
  unfold fold Spells
  by_cases s : c.toNat = 0x17f
  · simp [s, toLower_ne (c := c) (by omega) small, eq_comm (b := w)]
  · by_cases k : c.toNat = 0x212a
    · simp [k, toLower_ne (c := c) (by omega) small, eq_comm (b := w)]
    · by_cases i : c.toNat = 0x130 ∨ c.toNat = 0x131
      · have other := toLower_ne (c := c) (by omega) small
        rcases i with i | i <;> simp [i, other, eq_comm (b := w)]
      · obtain ⟨i, j⟩ := not_or.1 i
        simp [s, k, i, j]

theorem isSmall_parts (k : Credential) :
    k.parts.1.all (·.toNat < 128) = true ∧ k.parts.2.all (·.toNat < 128) = true := by
  cases k <;> decide

theorem afterWord_eq_some (small : word.all (·.toNat < 128) = true) :
    afterWord word cs = some rest ↔ ∃ front, cs = front ++ rest ∧ List.Forall₂ Spells front word := by
  induction word generalizing cs with
  | nil => simp [afterWord]
  | cons w word ih =>
    rw [all_cons, Bool.and_eq_true, decide_eq_true_eq] at small
    have spelt (c : Char) : (fold c == w) = true ↔ Spells c w := beq_iff_eq.trans (fold_eq_iff small.1)
    simp only [forall₂_cons_right_iff]
    cases cs with
    | nil => simp [afterWord]
    | cons c cs =>
      simp only [afterWord, spelt, Option.ite_none_right_eq_some, ih small.2]
      constructor
      · rintro ⟨spells, front, rfl, spelt⟩
        exact ⟨c :: front, rfl, c, front, spells, spelt, rfl⟩
      · rintro ⟨_, split, c, front, spells, spelt, rfl⟩
        obtain ⟨rfl, rfl⟩ := List.cons.inj split
        exact ⟨spells, front, rfl, spelt⟩

theorem exists_joint (cs : List Char) :
    ∃ joint, cs = joint ++ dropJoint cs ∧ (joint = [] ∨ joint = ['_'] ∨ joint = ['-']) := by
  cases cs with
  | nil => exact ⟨[], rfl, .inl rfl⟩
  | cons c cs =>
    rw [dropJoint]
    split
    · next joint => exact ⟨[c], rfl, .inr (by simpa using joint)⟩
    · exact ⟨[], rfl, .inl rfl⟩

/-- A second part never starts like a joint. -/
theorem dropJoint_append {second : List Char} (spelt : List.Forall₂ Spells second k.parts.2)
    (double : k.parts.2 ≠ []) (rest : List Char) : dropJoint (second ++ rest) = second ++ rest := by
  have key : k.parts.2 = ['k', 'e', 'y'] := by
    cases k with
    | apiKey | privateKey => rfl
    | secret | password | token => exact absurd rfl double
  rw [key] at spelt
  obtain ⟨c, cs, spells, -, rfl⟩ := forall₂_cons_right_iff.1 spelt
  have other : ¬(c == '_' || c == '-') = true := by
    rw [Bool.or_eq_true, beq_iff_eq, beq_iff_eq]
    rintro (rfl | rfl) <;> exact absurd spells (by unfold Spells; decide)
  rw [cons_append, dropJoint, if_neg other]

theorem afterKeyword_eq_some : afterKeyword k cs = some rest ↔ ∃ word, cs = word ++ rest ∧ k.Names word := by
  obtain ⟨small, small'⟩ := isSmall_parts k
  unfold afterKeyword Names
  dsimp only
  split
  · next single =>
    have none : k.parts.2 = [] := isEmpty_iff.1 single
    simp only [afterWord_eq_some small, none, forall₂_nil_right_iff, ne_eq, not_true_eq_false, false_and, or_false]
    constructor
    · rintro ⟨front, rfl, spelt⟩
      exact ⟨front, rfl, front, [], [], by simp, spelt, rfl, rfl⟩
    · rintro ⟨_, rfl, first, joint, second, rfl, spelt, rfl, rfl⟩
      exact ⟨first, by simp, spelt⟩
  · next double =>
    have double : k.parts.2 ≠ [] := fun none => double (isEmpty_iff.2 none)
    simp only [Option.bind_eq_some_iff, afterWord_eq_some small, afterWord_eq_some small']
    constructor
    · rintro ⟨after, ⟨first, rfl, spelt⟩, second, joined, spelt'⟩
      obtain ⟨joint, split, form⟩ := exists_joint after
      rw [joined] at split
      refine ⟨first ++ (joint ++ second), by simp [split], first, joint, second, rfl, spelt, spelt', ?_⟩
      exact form.imp_right fun form => ⟨double, form⟩
    · rintro ⟨_, rfl, first, joint, second, rfl, spelt, spelt', form⟩
      refine ⟨_, ⟨first, append_assoc .., spelt⟩, second, ?_, spelt'⟩
      rcases form with rfl | ⟨-, rfl | rfl⟩
      · exact dropJoint_append spelt' double rest
      · rfl
      · rfl

theorem startsQuoted_iff : startsQuoted cs = true ↔ ∃ quoted, quoted <+: cs ∧ Quotes quoted := by
  constructor
  · intro h
    unfold startsQuoted at h
    split at h
    · next opening c more =>
      simp only [Bool.and_eq_true, Bool.not_eq_true'] at h
      obtain ⟨⟨quote, plain⟩, closed⟩ := h
      obtain ⟨closing, found⟩ := Option.isSome_iff_exists.1 (List.find?_isSome.2 (any_eq_true.1 closed))
      obtain ⟨closes, value, rest, rfl, before⟩ := List.find?_eq_some_iff_append.1 found
      refine ⟨opening :: (c :: value ++ [closing]), ⟨rest, by simp⟩, opening, c :: value, closing, rfl, quote,
        cons_ne_nil _ _, forall_mem_cons.2 ⟨plain, by simpa using before⟩, closes⟩
    · cases h
  · rintro ⟨_, ⟨rest, rfl⟩, opening, value, closing, rfl, quote, some, plain, closes⟩
    obtain ⟨c, value, rfl⟩ := exists_cons_of_ne_nil some
    simp [startsQuoted, quote, plain c (.head _), closes]

theorem dropWhile_blanks {before : List Char} (blank : ∀ c ∈ before, isBlank c = true)
    (other : isBlank c = false) (rest : List Char) :
    (before ++ c :: rest).dropWhile isBlank = c :: rest := by
  rw [dropWhile_append_of_pos blank, dropWhile_cons_of_neg (by simp [other])]

theorem isBlank_of_isQuote (quote : isQuote c = true) : isBlank c = false := by
  rcases Bool.or_eq_true _ _ ▸ quote with h | h <;> rw [beq_iff_eq.1 h] <;> decide

theorem startsAt_iff : startsAt k cs = true ↔ ∃ set, set <+: cs ∧ k.Sets set := by
  constructor
  · intro h
    unfold startsAt at h
    split at h
    · cases h
    · next rest named =>
      obtain ⟨word, rfl, names⟩ := afterKeyword_eq_some.1 named
      split at h
      · next sign more dropped =>
        obtain ⟨sets, started⟩ := Bool.and_eq_true _ _ ▸ h
        obtain ⟨quoted, ⟨tail, whole⟩, quotes⟩ := startsQuoted_iff.1 started
        refine ⟨_, ⟨tail, ?_⟩, word, rest.takeWhile isBlank, sign, more.takeWhile isBlank, quoted, rfl, names,
          fun c => mem_takeWhile_imp, by simpa using sets, fun c => mem_takeWhile_imp, quotes⟩
        calc
          _ = word ++ (rest.takeWhile isBlank ++ sign :: (more.takeWhile isBlank ++ (quoted ++ tail))) := by simp
          _ = word ++ rest := by
            rw [whole, takeWhile_append_dropWhile, ← dropped, takeWhile_append_dropWhile]
      · cases h
  · rintro ⟨_, ⟨tail, rfl⟩, word, before, sign, after, quoted, rfl, names, blank, sets, blank', quotes⟩
    have named : afterKeyword k (word ++ (before ++ sign :: (after ++ quoted)) ++ tail) =
        some (before ++ sign :: (after ++ (quoted ++ tail))) :=
      afterKeyword_eq_some.2 ⟨word, by simp, names⟩
    have solid : isBlank sign = false := by
      rcases sets with rfl | rfl <;> decide
    have started : startsQuoted (quoted ++ tail) = true :=
      startsQuoted_iff.2 ⟨quoted, prefix_append _ _, quotes⟩
    obtain ⟨opening, value, closing, rfl, quote, -⟩ := quotes
    simp only [startsAt, named]
    rw [dropWhile_blanks blank solid]
    dsimp only
    rw [cons_append, dropWhile_blanks blank' (isBlank_of_isQuote quote), ← cons_append, started]
    simpa using sets

theorem occursIn_iff : occursIn k cs = true ↔ ∃ set, set <:+: cs ∧ k.Sets set := by
  induction cs with
  | nil =>
    simp only [occursIn, Bool.false_eq_true, infix_nil, exists_eq_left, false_iff]
    rintro ⟨word, before, sign, after, quoted, none, -⟩
    simp at none
  | cons c cs ih =>
    simp only [occursIn, Bool.or_eq_true, startsAt_iff, ih, infix_cons_iff, or_and_right, exists_or]

theorem label_injective : Function.Injective label := by
  intro k l same
  cases k <;> cases l <;> first | rfl | exact absurd same (by decide)

/-- A credential is reported exactly when some stretch of the content sets its word to a quoted value, so also
within longer content. The names come in a fixed order, each at most once. -/
theorem reported_iff_sets (content : String) : (∀ k : Credential, k.label ∈ (findSecrets content).map label ↔
      ∃ set, set <:+: content.toList ∧ k.Sets set) ∧ (∀ before after, (findSecrets content).map label ⊆
      (findSecrets (before ++ content ++ after)).map label) ∧
    ((findSecrets content).map label).Sublist ["api_key", "secret", "password", "token", "private_key"] ∧
    ((findSecrets content).map label).Nodup := by
  have reported (k : Credential) (s : String) : k ∈ findSecrets s ↔ ∃ set, set <:+: s.toList ∧ k.Sets set := by
    have listed : k ∈ all := by cases k <;> decide
    rw [findSecrets, mem_filter, occursIn_iff, and_iff_right listed]
  have order : ((findSecrets content).map label).Sublist (all.map label) := filter_sublist.map label
  refine ⟨fun k => ?_, fun before after => map_subset _ fun k found => ?_, order, order.nodup (by decide)⟩
  · rw [mem_map_of_injective label_injective, reported]
  · obtain ⟨set, inside, sets⟩ := (reported k _).1 found
    refine (reported k _).2 ⟨set, inside.trans ?_, sets⟩
    rw [String.toList_append, String.toList_append]
    exact infix_append _ _ _

end TriStore.Credential
