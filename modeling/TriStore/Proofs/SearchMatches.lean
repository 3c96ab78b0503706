import TriStore.Proofs.Resolution

/-!
What a name is looked up by is also found by a search. A lookup takes the words of the normal name,
a search those of the query as it stands.
-/
namespace TriStore
open List Relevance

namespace Text

variable {sep : Char → Bool}

theorem isInfix_of_mem_pieces {cs w : List Char} (h : w ∈ pieces sep cs) : w <:+: cs := by
  have both : (∀ p ∈ (pieces sep cs).head?, p <+: cs) ∧ ∀ p ∈ pieces sep cs, p <:+: cs := by
    clear h
    induction cs with
    | nil => simp [pieces]
    | cons c cs ih =>
      obtain ⟨first, all⟩ := ih
      cases hc : sep c with
      | true =>
        rw [pieces_cons_sep hc]
        simpa using fun p hp => infix_cons (all p hp)
      | false =>
        obtain ⟨p, ps, found⟩ := exists_pieces sep cs
        rw [pieces_cons_other hc found]
        have front : c :: p <+: c :: cs := by simpa [found] using first
        refine ⟨by simpa using front, forall_mem_cons.2 ⟨front.isInfix, fun q hq => ?_⟩⟩
        exact infix_cons (all q (found ▸ mem_cons_of_mem p hq))
  exact both.2 w h

theorem words_append_cons {c : Char} {front : List Char} (hf : ∀ d ∈ front, sep d = false)
    (some : front ≠ []) (h : sep c = true) (cs : List Char) :
    words sep (front ++ c :: cs) = front :: words sep cs := by
  simp [words, pieces_append_cons hf h, some]

theorem words_of_forall {cs : List Char} (h : ∀ c ∈ cs, sep c = false) (some : cs ≠ []) : words sep cs = [cs] := by
  simp [words, pieces_of_forall h, some]

theorem exists_first {α : Type} (p : α → Bool) (l : List α) : (∀ a ∈ l, p a = false) ∨
      ∃ front a rest, l = front ++ a :: rest ∧ (∀ b ∈ front, p b = false) ∧ p a = true := by
  cases found : l.find? p with
  | none => exact .inl (by simpa using found)
  | some a =>
    obtain ⟨here, front, rest, whole, before⟩ := List.find?_eq_some_iff_append.1 found
    exact .inr ⟨front, a, rest, whole, by simpa using before, here⟩

end Text

namespace Relevance

open Text

theorem not_isSeparator_lower {cs : List Char} (h : ∀ c ∈ cs, isSeparator c = false) (b : Bool) :
    ∀ c ∈ lowerAfter b cs, isSeparator c = false := by
  intro c hc
  by_contra sep
  rw [Bool.not_eq_false] at sep
  exact absurd sep (by simp [h c ((lowerAfter_facts hc).2.2 (toNat_mem_markPoints sep))])

theorem shares_word (cs back : List Char) :
    words isSeparator (lowerChars cs) = [] ∨ (∃ w, words isSeparator (lowerChars cs) = [w]) ∨
      ∃ w ∈ words isSeparator (lowerChars cs), w ∈ words isSeparator (lowerChars (cs ++ back)) := by
  induction cs with
  | nil => exact .inl rfl
  | cons c cs ih =>
    by_cases sep : isSeparator c = true
    · have mark := toNat_mem_markPoints sep
      rw [cons_append, lowerChars, lowerChars, lowerAfter_cons_mark mark, lowerAfter_cons_mark mark,
        words_cons_sep sep, words_cons_sep sep]
      exact ih
    · right
      rcases exists_first isSeparator (c :: cs) with none | ⟨front, d, rest, whole, hf, hd⟩
      · exact .inl ⟨_, words_of_forall (not_isSeparator_lower none false) (lowerAfter_cons_ne_nil _ _ _)⟩
      · cases front with
        | nil =>
          obtain ⟨rfl, -⟩ := List.cons.inj whole
          exact absurd hd sep
        | cons a front =>
          have words_eq (rest : List Char) : words isSeparator (lowerChars (a :: front ++ d :: rest)) =
              lowerChars (a :: front) :: words isSeparator (lowerChars rest) := by
            rw [lowerChars, lowerAfter_append_mark (toNat_mem_markPoints hd),
              words_append_cons (not_isSeparator_lower hf false) (lowerAfter_cons_ne_nil _ _ _) hd]
            rfl
          refine .inr ⟨lowerChars (a :: front), ?_, ?_⟩
          · rw [whole, words_eq]
            exact (.head _)
          · rw [whole, append_assoc]
            exact words_eq (rest ++ back) ▸ (.head _)

end Relevance

namespace Name

open Text Relevance

theorem pieces_hyphenated (cs : List Char) : pieces isSeparator (cs.map hyphenated) = pieces isSeparator cs := by
  induction cs with
  | nil => rfl
  | cons c cs ih =>
    have kept : isSeparator (hyphenated c) = isSeparator c ∧ (isSeparator c = false → hyphenated c = c) := by
      unfold hyphenated isSeparator
      split
      · next mark =>
        rw [Bool.or_eq_true] at mark
        rcases mark with mark | mark <;> simp [mark]
      · simp
    rw [map_cons, pieces, pieces, kept.1, ih]
    split
    · rfl
    · next plain => rw [kept.2 (by simpa using plain)]

theorem pieces_squeeze (cs : List Char) : (pieces isSeparator (squeeze cs)).head? = (pieces isSeparator cs).head? ∧
      words isSeparator (squeeze cs) = words isSeparator cs := by
  have hyphen : isSeparator '-' = true := by decide
  fun_induction squeeze cs with
  | case1 cs ih =>
    refine ⟨by simp [ih.1, pieces, hyphen], ?_⟩
    rw [ih.2, words_cons_sep hyphen ('-' :: cs)]
  | case2 c cs single ih =>
    by_cases sep : isSeparator c = true
    · exact ⟨by simp [pieces, sep], by rw [words_cons_sep sep, words_cons_sep sep, ih.2]⟩
    · obtain ⟨first, rest⟩ := ih
      obtain ⟨p, ps, found⟩ := exists_pieces isSeparator cs
      obtain ⟨p', ps', found'⟩ := exists_pieces isSeparator (squeeze cs)
      obtain rfl : p' = p := by simpa [found, found'] using first
      by_cases blank : p' = []
      · simp_all [words, pieces]
      · simp_all [words, pieces]
  | case3 => exact ⟨rfl, rfl⟩

theorem words_normalizeChars (cs : List Char) : words isSeparator (normalizeChars cs) =
    words isSeparator (lowerChars (dropExtension (trim isBlank cs))) := by
  unfold normalizeChars
  generalize lowerChars (dropExtension (trim isBlank cs)) = body
  obtain ⟨front, back, split, hf, hb⟩ := exists_trim (· == '-') (squeeze (body.map hyphenated))
  have sep (c : Char) (h : (c == '-') = true) : isSeparator c = true := by simp [isSeparator, h]
  have whole := congrArg (words isSeparator) split
  rw [words_append_back fun c hc => sep c (hb c hc), words_append_front fun c hc => sep c (hf c hc),
    (pieces_squeeze _).2, words, pieces_hyphenated] at whole
  rw [← whole, words]

theorem IsNormal.eq_of_words {cs w : List Char} (h : IsNormal cs) (one : words isSeparator cs = [w]) : cs = w := by
  rcases exists_first isSeparator cs with none | ⟨front, c, rest, whole, hf, hc⟩
  · have some : cs ≠ [] := by
      rintro rfl
      simp [words, pieces] at one
    rw [words_of_forall none some] at one
    exact (List.cons.inj one).1
  · have hyphen (d : Char) (hd : d ∈ cs) (sep : isSeparator d = true) : d = '-' := by
      obtain ⟨blank, underscore, -⟩ := h.plain d hd
      simpa [isSeparator, blank, underscore] using sep
    have some : front ≠ [] := by
      rintro rfl
      exact h.head?_ne (by simpa [whole] using hyphen c (by simp [whole]) hc)
    rw [whole, words_append_cons hf some hc] at one
    -- what follows the first word are separators, but the name does not end with one
    have seps : ∀ d ∈ c :: rest, isSeparator d = true := by
      refine forall_mem_cons.2 ⟨hc, fun d hd => ?_⟩
      by_contra plain
      exact words_ne_nil hd (by simpa using plain) (List.cons.inj one).2
    have last := getLast_mem (cons_ne_nil c rest)
    refine absurd ?_ h.getLast?_ne
    rw [whole, List.getLast?_append, List.getLast?_eq_some_getLast (cons_ne_nil c rest),
      hyphen _ (by rw [whole]; exact mem_append_right _ last) (seps _ last)]
    rfl

theorem exists_token {s : String} (named : normalize s ≠ "") :
    (∃ t ∈ tokenize (normalize s), t ∈ tokenize s) ∨ tokenize (normalize s) = [normalize s] := by
  have some := tokenize_normalize_ne_nil named
  obtain ⟨back, whole⟩ := dropExtension_isPrefix (trim isBlank s.toList)
  rw [tokenize_normalize] at some ⊢
  rcases shares_word (dropExtension (trim isBlank s.toList)) back with none | ⟨w, one⟩ | ⟨w, mine, others⟩
  · simp [words_normalizeChars, none] at some
  · rw [← words_normalizeChars] at one
    right
    rw [one, ← (isNormal_normalizeChars s.toList).eq_of_words one]
    rfl
  · left
    rw [whole, words_lower_trim] at others
    rw [← words_normalizeChars] at mine
    refine ⟨String.ofList w, mem_map_of_mem mine, ?_⟩
    exact mem_map_of_mem others

theorem includes_of_mem_tokenize {s t : String} (h : t ∈ tokenize (normalize s)) :
    includes (normalize s) t = true := by
  rw [tokenize_normalize] at h
  obtain ⟨w, hw, rfl⟩ := mem_map.1 h
  simpa [includes, normalize, occursIn_iff] using isInfix_of_mem_pieces (mem_filter.1 hw).1

end Name

namespace Relevance

variable {query : String} {e : Entry}

theorem score_of_tokens (words : tokenize query ≠ []) : score e query =
    Texts.ofEntry e >>= fun t => .ok (scoreTexts t (tokenize query) (Name.normalize query)) := by
  unfold score
  split
  · next none => exact absurd none words
  · rfl

theorem exists_score (texts : ∃ t, Texts.ofEntry e = .ok t) (query : String) : ∃ r, score e query = .ok r := by
  obtain ⟨t, texts⟩ := texts
  by_cases words : tokenize query = []
  · exact ⟨_, by rw [score, words]⟩
  · exact ⟨_, by rw [score_of_tokens words, texts, ok_bind]⟩

theorem Texts.name_of_ofEntry {t : Texts} (texts : ofEntry e = .ok t) : t.name = e.key.name := by
  simp only [ofEntry, bind_eq_ok] at texts
  obtain ⟨_, -, _, -, _, -, _, -, same⟩ := texts
  rw [← Except.ok.inj same]

end Relevance

namespace Hit

variable {s : Source} {query : String} {es : List Entry} {e : Entry}

theorem mem_among {hits : List Hit} (h : among s query es = .ok hits) (he : e ∈ es) {points : Nat}
    {how : MatchKind} (score : Relevance.score e query = .ok (points, how)) (positive : 0 < points) :
    { entry := e, source := s, score := points, matchKind := how } ∈ hits := by
  obtain ⟨scored, made, sorted⟩ := bind_eq_ok.1 h
  obtain rfl := Except.ok.inj sorted
  obtain ⟨hit, mem, made⟩ := (mapM_eq_ok made).1 e he
  rw [score, ok_bind] at made
  obtain rfl := Except.ok.inj made
  exact mem_mergeSort.2 (mem_filter.2 ⟨mem, by simpa using positive⟩)

theorem exists_among (texts : ∀ e ∈ es, ∃ t, Relevance.Texts.ofEntry e = .ok t) (s : Source) (query : String) :
    ∃ hits, among s query es = .ok hits := by
  refine exists_bind_eq_ok (exists_mapM_eq_ok fun e he => ?_) fun _ => ⟨_, rfl⟩
  exact exists_bind_eq_ok (exists_score (texts e he) query) fun _ => ⟨_, rfl⟩

end Hit

namespace Lookup

variable {query : String} {es : List Entry} {e : Entry}

theorem includes_of_mem_candidates (h : e ∈ candidates query es) :
    (∃ token ∈ Relevance.tokenize query, Text.includes e.key.name token = true) ∨
      Name.normalize query ≠ "" ∧ Text.includes e.key.name (Name.normalize query) = true := by
  obtain ⟨named, -, same | ⟨-, inside | words⟩⟩ := mem_candidates_iff.1 h
  · refine .inr ⟨named, ?_⟩
    rw [same]
    exact Text.occursIn_iff.2 infix_rfl
  · exact .inr ⟨named, Text.occursIn_iff.2 inside⟩
  · obtain ⟨s, name⟩ := exists_normalize_eq_name e
    rw [name] at words ⊢
    rcases Name.exists_token named with ⟨t, mine, raw⟩ | one
    · exact .inl ⟨t, raw, Name.includes_of_mem_tokenize (words t mine)⟩
    · exact .inr ⟨named, Name.includes_of_mem_tokenize (words _ (by simp [one]))⟩

theorem of_score (h : e ∈ candidates query es) {r : Nat × MatchKind} (score : Relevance.score e query = .ok r) :
    0 < r.1 ∧ (e.key.name = Name.normalize query → r.2 = .exact) := by
  have named := (mem_candidates_iff.1 h).1
  rw [score_of_tokens (Name.tokenize_ne_nil named)] at score
  obtain ⟨t, texts, score⟩ := bind_eq_ok.1 score
  have name := Texts.name_of_ofEntry texts
  rw [← Except.ok.inj score]
  refine ⟨scoreTexts_pos (name ▸ includes_of_mem_candidates h), fun same => ?_⟩
  rw [← same, ← name]
  exact (scoreTexts_self _ (by rw [name, same]; exact named)).1

/-- All that a lookup takes into account scores in a search for the same, as an exact match if named so, and
is among the hits of a store that lists it. -/
theorem matches_score (query : String) :
    (∀ es, ∀ e ∈ candidates query es, (∃ t, Relevance.Texts.ofEntry e = .ok t) →
      ∃ points how, Relevance.score e query = .ok (points, how) ∧ 0 < points ∧
        (e.key.name = Name.normalize query → how = .exact)) ∧
    ∀ s kind es w w', (Action.listEntries s kind).ends w = (.ok es, w') →
      (∀ e ∈ es, ∃ t, Relevance.Texts.ofEntry e = .ok t) →
      ∃ hits, (Action.searchStore s query kind).ends w = (.ok hits, w') ∧
        ∀ e ∈ candidates query es, ∃ hit ∈ hits, hit.entry = e ∧ 0 < hit.score ∧
          (e.key.name = Name.normalize query → hit.matchKind = .exact) := by
  refine ⟨fun es e he texts => ?_, fun s kind es w w' listed texts => ?_⟩
  · obtain ⟨⟨points, how⟩, score⟩ := exists_score texts query
    exact ⟨points, how, score, of_score he score⟩
  · obtain ⟨hits, found⟩ := Hit.exists_among texts s query
    refine ⟨hits, ?_, fun e he => ?_⟩
    · rw [Action.searchStore, Action.ends_bind_of_ok listed, Action.ends_liftExcept, found]
    · have mem := (mem_candidates_iff.1 he).2.1
      obtain ⟨⟨points, how⟩, score⟩ := exists_score (texts e mem) query
      obtain ⟨positive, exact⟩ := of_score he score
      exact ⟨_, Hit.mem_among found mem score positive, rfl, positive, exact⟩

def scholar : Entry := { name := .text "victorian-scholar", kind := .persona }

theorem matches_score_scholar : scholar ∈ candidates "Scholar Victorian.md" [scholar] ∧
    ∃ points how, Relevance.score scholar "Scholar Victorian.md" = .ok (points, how) ∧ 0 < points := by
  have mem : scholar ∈ candidates "Scholar Victorian.md" [scholar] :=
    mem_candidates_iff.2 ⟨by decide +kernel, mem_singleton_self _,
      .inr ⟨forall_mem_singleton.2 (by decide +kernel), .inr (by decide +kernel)⟩⟩
  obtain ⟨points, how, score, positive, -⟩ := (matches_score _).1 _ _ mem ⟨_, rfl⟩
  exact ⟨mem, points, how, score, positive⟩

end Lookup

end TriStore
