import TriStore.Portfolio.Access
import TriStore.Proofs.LowerCase

/-!
What a search reads of its query: the words of the query, and its normal name. Queries that agree in
their trimmed lower case have the same words.
-/
namespace TriStore
open List

theorem Text.occursIn_iff {needle cs : List Char} : occursIn needle cs = true ↔ needle <:+: cs := by
  induction cs with
  | nil => simp [occursIn]
  | cons c cs ih =>
    rw [occursIn, Bool.or_eq_true, isPrefixOf_iff_prefix, ih, infix_cons_iff]

theorem Name.dropExtension_cases (cs : List Char) :
    dropExtension cs = cs ∧ ¬['.', 'm', 'd'] <:+ cs ∨ ∃ stem m d, cs = stem ++ ['.', m, d] ∧
      dropExtension cs = stem ∧ (m = 'm' ∨ m = 'M') ∧ (d = 'd' ∨ d = 'D') := by
  unfold dropExtension
  split
  · next d m rest reversed =>
    have whole : cs = rest.reverse ++ ['.', m, d] := by
      rw [← reverse_reverse cs, reversed]
      simp
    split
    · next letters =>
      simp only [Bool.and_eq_true, Bool.or_eq_true, beq_iff_eq] at letters
      exact .inr ⟨rest.reverse, m, d, whole, rfl, letters.2, letters.1⟩
    · next other =>
      refine .inl ⟨rfl, ?_⟩
      rintro ⟨stem, same⟩
      simp [← same] at reversed
      simp [← reversed.1, ← reversed.2.1] at other
  · next none =>
    refine .inl ⟨rfl, ?_⟩
    rintro ⟨stem, same⟩
    exact none 'd' 'm' stem.reverse (by simp [← same])

theorem Name.dropExtension_isPrefix (cs : List Char) : dropExtension cs <+: cs := by
  rcases dropExtension_cases cs with ⟨same, -⟩ | ⟨stem, m, d, whole, dropped, -⟩
  · exact ⟨[], (append_nil _).trans same⟩
  · rw [dropped, whole]
    exact prefix_append _ _

theorem Name.mem_of_mem_squeeze {cs : List Char} {c : Char} (h : c ∈ squeeze cs) : c ∈ cs := by
  fun_induction squeeze cs with
  | case1 cs ih => exact mem_cons_of_mem _ (ih h)
  | case2 d cs _ ih =>
    rcases mem_cons.1 h with rfl | h
    · exact (.head _)
    · exact mem_cons_of_mem _ (ih h)
  | case3 => exact h

theorem Name.tokenize_ne_nil {s : String} (h : normalize s ≠ "") : Relevance.tokenize s ≠ [] := by
  have chars : normalizeChars s.toList ≠ [] := by
    intro none
    exact h (by simp [normalize, none])
  obtain ⟨y, hy, plain⟩ := Text.exists_of_trim_ne_nil chars
  obtain ⟨x, hx, rfl⟩ := mem_map.1 (mem_of_mem_squeeze hy)
  have hx_sep : Relevance.isSeparator x = false := by
    unfold hyphenated at plain
    split at plain
    · simp at plain
    · next other =>
      have parts : Text.isBlank x = false ∧ ¬x = '_' := by simpa using other
      have hyphen : ¬x = '-' := by simpa using plain
      simp [Relevance.isSeparator, parts, hyphen]
  obtain ⟨c, hc, plain⟩ : ∃ c ∈ s.toList, Relevance.isSeparator c = false := by
    by_contra none
    have parts : ∀ d ∈ dropExtension (Text.trim Text.isBlank s.toList), Relevance.isSeparator d = true := by
      simp only [not_exists, not_and, Bool.not_eq_false] at none
      exact fun d hd => none d (Text.mem_of_mem_trim ((dropExtension_isPrefix _).mem hd))
    rw [Text.lowerChars, Relevance.lowerAfter_separators parts] at hx
    exact absurd (parts x hx) (by simp [hx_sep])
  obtain ⟨z, hz, same⟩ := Text.exists_mem_lowerAfter hc false
  have apart : Relevance.isSeparator z = false := by
    by_contra mark
    rw [Bool.not_eq_false] at mark
    rw [← same (Text.toNat_mem_markPoints mark), mark] at plain
    exact absurd plain (by decide)
  simpa [Relevance.tokenize, Text.lowerChars] using Text.words_ne_nil hz apart

namespace Relevance

variable {t : Texts} {wanted : String}

theorem score_eq {q q' : String} (fold : Text.lower (Text.strip q) = Text.lower (Text.strip q'))
    (name : Name.normalize q = Name.normalize q') (e : Entry) : score e q = score e q' := by
  unfold score
  rw [tokenize_eq_of_lower_strip fold, name]

theorem places_ne_exact {token : String} {x : Nat × MatchKind} (h : x ∈ places t token) : x.2 ≠ .exact := by
  unfold places at h
  simp only [mem_append] at h
  rcases h with ((h | h) | h) | h
  · split at h
    · split at h
      · simp_all
      · split at h <;> simp_all
    · simp at h
  all_goals
    split at h <;> simp_all

theorem le_foldr_of_mem {n : Nat} {ns : List Nat} (h : n ∈ ns) : n ≤ ns.foldr (· + ·) 0 := by
  induction ns with
  | nil => simp at h
  | cons m ns ih =>
    rw [foldr_cons]
    rcases mem_cons.1 h with rfl | h
    · omega
    · have := ih h
      omega

theorem scoreTexts_pos {tokens : List String} (found : (∃ token ∈ tokens, Text.includes t.name token = true) ∨
      wanted ≠ "" ∧ Text.includes t.name wanted = true) : 0 < (scoreTexts t tokens wanted).1 := by
  have points : 0 < ((tokens.flatMap (places t)).map (·.1)).foldr (· + ·) 0 + wholeBonus t wanted := by
    rcases found with ⟨token, mem, inside⟩ | ⟨named, inside⟩
    · obtain ⟨n, hn, positive⟩ : ∃ n ∈ (places t token).map (·.1), 0 < n := by
        simp only [places, inside, if_true]
        split
        · exact ⟨10, by simp, by decide⟩
        · split
          · exact ⟨5, by simp, by decide⟩
          · exact ⟨2, by simp, by decide⟩
      have among : n ∈ (tokens.flatMap (places t)).map (·.1) := by
        obtain ⟨x, hx, rfl⟩ := mem_map.1 hn
        exact mem_map_of_mem (mem_flatMap.2 ⟨token, mem, hx⟩)
      have := le_foldr_of_mem among
      omega
    · have bonus : 0 < wholeBonus t wanted := by
        simp only [wholeBonus, inside, String.isEmpty_eq_false_iff.2 named, Bool.not_false, Bool.and_self, if_true]
        split <;> decide
      omega
  unfold scoreTexts
  split
  · simpa using points
  · exact points

theorem scoreTexts_self (tokens : List String) (h : t.name ≠ "") :
    (scoreTexts t tokens t.name).2 = .exact ∧ 0 < (scoreTexts t tokens t.name).1 := by
  refine ⟨?_, scoreTexts_pos (.inr ⟨h, Text.occursIn_iff.2 infix_rfl⟩)⟩
  simp only [scoreTexts, beq_self_eq_true, if_true]

theorem scoreTexts_ne (tokens : List String) (h : wanted ≠ t.name) : (scoreTexts t tokens wanted).2 ≠ .exact := by
  have other : (wanted == t.name) = false := by simpa using h
  simp only [scoreTexts, other, if_false, Bool.false_eq_true]
  cases found : ((tokens.flatMap (places t)).map (·.2)).find? (· != .none) with
  | none => simp
  | some kind =>
    obtain ⟨x, hx, rfl⟩ := mem_map.1 (mem_of_find?_eq_some found)
    obtain ⟨token, -, hp⟩ := mem_flatMap.1 hx
    exact places_ne_exact hp

end Relevance

theorem Hit.among_eq {q q' : String} (fold : Text.lower (Text.strip q) = Text.lower (Text.strip q'))
    (name : Name.normalize q = Name.normalize q') (s : Source) (es : List Entry) :
    among s q es = among s q' es := by
  unfold among
  simp only [Relevance.score_eq fold name]

end TriStore
