import Mathlib.Data.List.TakeWhile
import TriStore.Search.Relevance

/-!
What is in lower case stays so, and separators at the ends of a text change neither its lower case nor its words.
-/
namespace TriStore.Text
open List

section Marks

variable {c : Char}

def blankPoints : List Nat := [
  9, 10, 11, 12, 13, 28, 29, 30, 31, 32, 0x85, 0xa0, 0x1680, 0x2000, 0x2001, 0x2002, 0x2003, 0x2004,
  0x2005, 0x2006, 0x2007, 0x2008, 0x2009, 0x200a, 0x2028, 0x2029, 0x202f, 0x205f, 0x3000]

theorem toNat_mem_blankPoints (h : isBlank c = true) : c.toNat ∈ blankPoints := by
  simp only [isBlank, Bool.or_eq_true, Bool.and_eq_true, decide_eq_true_eq, beq_iff_eq] at h
  have among {lo count : Nat} (sub : List.range' lo count ⊆ blankPoints) (low : lo ≤ c.toNat)
      (high : c.toNat < lo + count) : c.toNat ∈ blankPoints := sub (mem_range'_1.2 ⟨low, high⟩)
  rcases h with (((((((((h | h) | h) | h) | h) | h) | h) | h) | h) | h) | h
  · exact among (by decide : List.range' 9 5 ⊆ _) (by omega) (by omega)
  · exact among (by decide : List.range' 28 5 ⊆ _) (by omega) (by omega)
  · rw [h]; decide
  · rw [h]; decide
  · rw [h]; decide
  · exact among (by decide : List.range' 0x2000 11 ⊆ _) (by omega) (by omega)
  all_goals
    rw [h]
    decide

def markPoints : List Nat := 45 :: 47 :: 95 :: blankPoints

theorem toNat_mem_markPoints (h : Relevance.isSeparator c = true) : c.toNat ∈ markPoints := by
  simp only [Relevance.isSeparator, Bool.or_eq_true, beq_iff_eq] at h
  rcases h with (blank | rfl) | rfl
  · simp [markPoints, toNat_mem_blankPoints blank]
  · decide
  · decide

theorem mark_facts (h : c.toNat ∈ markPoints) :
    lowerChar c = [c] ∧ isCased c = false ∧ isPassedOver c = false ∧ c ≠ 'Σ' := by
  have table : ∀ n ∈ markPoints, lowerChar (Char.ofNat n) = [Char.ofNat n] ∧
      isCased (Char.ofNat n) = false ∧ isPassedOver (Char.ofNat n) = false ∧ Char.ofNat n ≠ 'Σ' := by
    decide +kernel
  simpa using table c.toNat h

theorem lowerAfter_cons (b : Bool) (c : Char) (cs : List Char) : lowerAfter b (c :: cs) =
    (if c == 'Σ' then [if b && !casedFollows cs then 'ς' else 'σ'] else lowerChar c) ++
      lowerAfter (if isPassedOver c then b else isCased c) cs := rfl

theorem lowerAfter_cons_mark (h : c.toNat ∈ markPoints) (b : Bool) (cs : List Char) :
    lowerAfter b (c :: cs) = c :: lowerAfter false cs := by
  obtain ⟨lower, cased, passed, sigma⟩ := mark_facts h
  simp [lowerAfter_cons, lower, cased, passed, sigma]

theorem casedFollows_append_mark (h : c.toNat ∈ markPoints) (cs rest : List Char) :
    casedFollows (cs ++ c :: rest) = casedFollows cs := by
  induction cs with
  | nil =>
    obtain ⟨-, cased, passed, -⟩ := mark_facts h
    simp [casedFollows, cased, passed]
  | cons d cs ih => simp only [cons_append, casedFollows, ih]

theorem lowerAfter_append_mark (h : c.toNat ∈ markPoints) (b : Bool) (cs rest : List Char) :
    lowerAfter b (cs ++ c :: rest) = lowerAfter b cs ++ c :: lowerAfter false rest := by
  induction cs generalizing b with
  | nil => exact lowerAfter_cons_mark h b rest
  | cons d cs ih =>
    simp only [cons_append, lowerAfter_cons, casedFollows_append_mark h, ih, append_assoc]

end Marks

section Bands

variable {bands : List LetterBand} {n : Nat} {cs : List Char} {x : Char}

theorem exists_band (h : lowerShift bands n ≠ 0) :
    ∃ b ∈ bands, b.lo ≤ n ∧ n ≤ b.hi ∧ (n - b.lo) % b.step = 0 ∧ lowerShift bands n = b.shift := by
  induction bands with
  | nil => exact absurd rfl h
  | cons b rest ih =>
    unfold lowerShift at h ⊢
    split at h
    · exact absurd rfl h
    · next above =>
      rw [if_neg above]
      split at h
      · next below =>
        rw [if_pos below]
        split at h
        · next step =>
          rw [if_pos step]
          exact ⟨b, (.head _), by omega, below, by simpa using step, rfl⟩
        · exact absurd rfl h
      · next below =>
        rw [if_neg below]
        obtain ⟨b', hb', found⟩ := ih h
        exact ⟨b', mem_cons_of_mem _ hb', found⟩

/-- No letter from the first to the last, or no second one of them, is in a band. -/
def isClear : List LetterBand → Nat → Nat → Bool → Bool
  | [], _, _, _ => true
  | b :: rest, first, last, alternate =>
    last.blt b.lo || (b.hi.blt first || alternate && b.step == 2 && (first + b.lo) % 2 == 1) &&
      isClear rest first last alternate

theorem lowerShift_of_isClear {first last n : Nat} {alternate : Bool}
    (clear : isClear bands first last alternate = true) (low : first ≤ n) (high : n ≤ last)
    (step : alternate = true → (n - first) % 2 = 0) : lowerShift bands n = 0 := by
  induction bands with
  | nil => rfl
  | cons b rest ih =>
    unfold lowerShift
    split
    · rfl
    · next above =>
      simp only [isClear, Bool.or_eq_true, Bool.and_eq_true, Nat.blt_eq] at clear
      obtain ⟨outside, clear⟩ := clear.resolve_left (by omega)
      have later := ih clear
      split
      · next inside =>
        rcases outside with below | odd
        · omega
        · simp only [beq_iff_eq] at odd
          obtain ⟨⟨alternates, two⟩, odd⟩ := odd
          have even := step alternates
          rw [two, if_neg (by simp; omega)]
      · exact later

/-- Stretches without lower case. All marks are in them, and two capitals. -/
def gaps : List (Nat × Nat) :=
  [(0, 96), (0x85, 0xa0), (0x130, 0x130), (931, 931), (0x1680, 0x1680), (0x2000, 0x205f), (0x3000, 0x3000)]

theorem exists_gap : ∀ m ∈ 0x130 :: 931 :: markPoints, ∃ g ∈ gaps, g.1 ≤ m ∧ m ≤ g.2 := by
  decide

theorem bands_proper : ∀ b ∈ lowerBands,
    isClear lowerBands ((b.lo : Int) + b.shift).toNat ((b.hi : Int) + b.shift).toNat
      (b.step == 2 || b.lo == b.hi) = true ∧
    (∀ g ∈ gaps, (b.hi : Int) + b.shift < g.1 ∨ (g.2 : Int) < b.lo + b.shift) ∧
    0 ≤ (b.lo : Int) + b.shift ∧ (b.hi : Int) + b.shift < 0x110000 ∧
    ((b.hi : Int) + b.shift < 0xd800 ∨ 0xe000 ≤ (b.lo : Int) + b.shift) := by
  decide +kernel

theorem lowerShift_lowered (h : lowerShift lowerBands n ≠ 0) :
    let m := ((n : Int) + lowerShift lowerBands n).toNat
    lowerShift lowerBands m = 0 ∧ m ∉ 0x130 :: 931 :: markPoints ∧ (Char.ofNat m).toNat = m := by
  obtain ⟨b, hb, low, high, step, shift⟩ := exists_band h
  obtain ⟨clear, proper, positive, last, surrogate⟩ := bands_proper b hb
  refine ⟨?_, fun mem => ?_, toNat_ofNat (by omega) (by omega)⟩
  · refine lowerShift_of_isClear clear (by omega) (by omega) fun alternate => ?_
    simp only [Bool.or_eq_true, beq_iff_eq] at alternate
    rcases alternate with two | only
    · rw [two] at step
      omega
    · omega
  · obtain ⟨g, hg, _, _⟩ := exists_gap _ mem
    rcases proper g hg with _ | _ <;> omega

theorem special_facts (h : x ∈ ['i', Char.ofNat 0x307, 'ς', 'σ']) :
    lowerChar x = [x] ∧ x ≠ 'Σ' ∧ x.toNat ∉ markPoints := by
  simp only [mem_cons, not_mem_nil, or_false] at h
  rcases h with rfl | rfl | rfl | rfl <;> decide

theorem lowerChar_facts {x y : Char} (hx : x ∈ lowerChar y) (sigma : y ≠ 'Σ') :
    lowerChar x = [x] ∧ x ≠ 'Σ' ∧ (x.toNat ∈ markPoints → x = y) := by
  unfold lowerChar at hx
  split at hx
  · obtain ⟨lower, notSigma, notMark⟩ := special_facts (mem_append_left ['ς', 'σ'] hx)
    exact ⟨lower, notSigma, fun mark => absurd mark notMark⟩
  · next plain =>
    have whole := mem_singleton.1 hx
    by_cases moved : lowerShift lowerBands y.toNat = 0
    · have same : x = y := by
        rw [whole, moved]
        simp
      subst same
      refine ⟨?_, sigma, fun _ => rfl⟩
      unfold lowerChar
      rw [if_neg plain, moved]
      simp
    · obtain ⟨still, other, code⟩ := lowerShift_lowered moved
      rw [← whole] at code
      rw [← code] at still other
      simp only [mem_cons, not_or] at other
      refine ⟨?_, ?_, fun mark => absurd mark other.2.2⟩
      · unfold lowerChar
        rw [if_neg (by simpa using other.1), still]
        simp
      · rintro rfl
        exact other.2.1 rfl

theorem lowerAfter_facts {b : Bool} (hx : x ∈ lowerAfter b cs) :
    lowerChar x = [x] ∧ x ≠ 'Σ' ∧ (x.toNat ∈ markPoints → x ∈ cs) := by
  induction cs generalizing b with
  | nil => exact absurd hx not_mem_nil
  | cons c cs ih =>
    rcases mem_append.1 hx with hx | hx
    · split at hx
      · have special : x ∈ ['i', Char.ofNat 0x307, 'ς', 'σ'] := by
          rw [mem_singleton.1 hx]
          split <;> simp
        obtain ⟨lower, sigma, notMark⟩ := special_facts special
        exact ⟨lower, sigma, fun mark => absurd mark notMark⟩
      · next sigma =>
        obtain ⟨lower, notSigma, same⟩ := lowerChar_facts hx (by simpa using sigma)
        exact ⟨lower, notSigma, fun mark => by simp [same mark]⟩
    · obtain ⟨lower, sigma, mem⟩ := ih hx
      exact ⟨lower, sigma, fun mark => mem_cons_of_mem _ (mem mark)⟩

theorem exists_mem_lowerAfter {c : Char} (mem : c ∈ cs) (b : Bool) :
    ∃ x ∈ lowerAfter b cs, x.toNat ∈ markPoints → x = c := by
  induction cs generalizing b with
  | nil => simp at mem
  | cons d cs ih =>
    rcases mem_cons.1 mem with rfl | mem
    · by_cases sigma : c = 'Σ'
      · have table : ∀ final : Bool, (if final then 'ς' else 'σ').toNat ∉ markPoints := by decide
        refine ⟨_, ?_, fun mark => absurd mark (table (b && !casedFollows cs))⟩
        rw [lowerAfter_cons, if_pos (by simpa using sigma)]
        exact (.head _)
      · obtain ⟨x, hx⟩ : ∃ x, x ∈ lowerChar c := by
          unfold lowerChar
          split <;> exact ⟨_, (.head _)⟩
        exact ⟨x, by simp [lowerAfter_cons, sigma, hx], (lowerChar_facts hx sigma).2.2⟩
    · obtain ⟨x, hx, same⟩ := ih mem (if isPassedOver d = true then b else isCased d)
      exact ⟨x, mem_append_right _ hx, same⟩

theorem lowerAfter_cons_ne_nil (b : Bool) (c : Char) (cs : List Char) : lowerAfter b (c :: cs) ≠ [] := by
  simp only [lowerAfter_cons, lowerChar]
  split
  · simp
  · split <;> simp

theorem lowerAfter_eq_self (h : ∀ c ∈ cs, lowerChar c = [c] ∧ c ≠ 'Σ') (b : Bool) : lowerAfter b cs = cs := by
  induction cs generalizing b with
  | nil => rfl
  | cons c cs ih =>
    obtain ⟨lower, sigma⟩ := h c (.head _)
    rw [lowerAfter_cons, if_neg (by simpa using sigma), lower, ih fun d hd => h d (.tail _ hd)]
    rfl

end Bands

section Trim

variable {p : Char → Bool}

theorem trim_append_takeWhile (p : Char → Bool) (cs : List Char) :
    trim p cs ++ ((cs.dropWhile p).reverse.takeWhile p).reverse = cs.dropWhile p := by
  rw [trim, trimEnd, trimStart, ← reverse_append, takeWhile_append_dropWhile, reverse_reverse]

theorem exists_trim (p : Char → Bool) (cs : List Char) :
    ∃ front back, cs = front ++ trim p cs ++ back ∧ (∀ c ∈ front, p c = true) ∧ ∀ c ∈ back, p c = true := by
  refine ⟨cs.takeWhile p, ((cs.dropWhile p).reverse.takeWhile p).reverse, ?_, ?_, ?_⟩
  · rw [append_assoc, trim_append_takeWhile, takeWhile_append_dropWhile]
  · intro c hc
    exact mem_takeWhile_imp hc
  · intro c hc
    exact mem_takeWhile_imp (mem_reverse.1 hc)

theorem mem_of_mem_trim {cs : List Char} {c : Char} (h : c ∈ trim p cs) : c ∈ cs := by
  obtain ⟨front, back, split, -, -⟩ := exists_trim p cs
  rw [split]
  simp [h]

theorem exists_of_trim_ne_nil {cs : List Char} (h : trim p cs ≠ []) : ∃ c ∈ cs, p c = false := by
  apply Classical.byContradiction
  intro none
  have all : ∀ c ∈ cs, p c = true := by
    intro c hc
    cases hp : p c with
    | true => rfl
    | false => exact absurd ⟨c, hc, hp⟩ none
  have start : cs.dropWhile p = [] := dropWhile_eq_nil_iff.2 all
  exact h (by simp [trim, trimStart, trimEnd, start])

end Trim

section Words

variable {c : Char} {front cs : List Char} {sep : Char → Bool}

theorem pieces_cons_sep (h : sep c = true) (cs : List Char) : pieces sep (c :: cs) = [] :: pieces sep cs :=
  if_pos h

theorem pieces_cons_other {p : List Char} {ps : List (List Char)} (h : sep c = false)
    (found : pieces sep cs = p :: ps) : pieces sep (c :: cs) = (c :: p) :: ps := by
  have step : pieces sep (c :: cs) = _ := if_neg (by simp [h])
  rw [step, found]

theorem words_cons_sep (h : sep c = true) (cs : List Char) : words sep (c :: cs) = words sep cs := by
  rw [words, pieces_cons_sep h]
  rfl

theorem words_append_front (h : ∀ c ∈ front, sep c = true) (cs : List Char) :
    words sep (front ++ cs) = words sep cs := by
  induction front with
  | nil => rfl
  | cons c rest ih =>
    rw [cons_append, words_cons_sep (h c (.head _)), ih fun d hd => h d (.tail _ hd)]

theorem exists_pieces (sep : Char → Bool) (cs : List Char) : ∃ p ps, pieces sep cs = p :: ps := by
  induction cs with
  | nil => exact ⟨[], [], rfl⟩
  | cons c cs ih =>
    cases h : sep c with
    | true => exact ⟨_, _, pieces_cons_sep h cs⟩
    | false =>
      obtain ⟨p, ps, found⟩ := ih
      exact ⟨_, _, pieces_cons_other h found⟩

theorem pieces_of_forall (h : ∀ c ∈ cs, sep c = false) : pieces sep cs = [cs] := by
  induction cs with
  | nil => rfl
  | cons c cs ih => exact pieces_cons_other (h c (.head _)) (ih fun d hd => h d (.tail _ hd))

theorem pieces_append_cons (hf : ∀ d ∈ front, sep d = false)
    (h : sep c = true) (cs : List Char) : pieces sep (front ++ c :: cs) = front :: pieces sep cs := by
  induction front with
  | nil => exact pieces_cons_sep h cs
  | cons d front ih =>
    rw [forall_mem_cons] at hf
    exact pieces_cons_other hf.1 (ih hf.2)

theorem pieces_append_sep (h : sep c = true) (cs : List Char) : pieces sep (cs ++ [c]) = pieces sep cs ++ [[]] := by
  induction cs with
  | nil => exact pieces_cons_sep h []
  | cons d cs ih =>
    cases hd : sep d with
    | true => rw [cons_append, pieces_cons_sep hd, pieces_cons_sep hd, ih, cons_append]
    | false =>
      obtain ⟨p, ps, found⟩ := exists_pieces sep cs
      rw [found, cons_append] at ih
      rw [cons_append, pieces_cons_other hd ih, pieces_cons_other hd found, cons_append]

theorem words_append_back {back : List Char} (h : ∀ c ∈ back, sep c = true) (cs : List Char) :
    words sep (cs ++ back) = words sep cs := by
  induction back generalizing cs with
  | nil => rw [append_nil]
  | cons c rest ih =>
    have step : words sep (cs ++ [c]) = words sep cs := by
      simp [words, pieces_append_sep (h c (.head _))]
    have moved : cs ++ c :: rest = cs ++ [c] ++ rest := by simp
    rw [moved, ih (fun d hd => h d (.tail _ hd)) (cs ++ [c]), step]

theorem words_ne_nil (mem : c ∈ cs) (h : sep c = false) : words sep cs ≠ [] := by
  have some : ∃ p ∈ pieces sep cs, p ≠ [] := by
    induction cs with
    | nil => simp at mem
    | cons d cs ih =>
      cases hd : sep d with
      | true =>
        have hc : c ∈ cs := by
          rcases mem_cons.1 mem with rfl | hc
          · simp [h] at hd
          · exact hc
        obtain ⟨p, hp, ne⟩ := ih hc
        exact ⟨p, by simp [pieces_cons_sep hd, hp], ne⟩
      | false =>
        obtain ⟨p, ps, found⟩ := exists_pieces sep cs
        exact ⟨d :: p, by simp [pieces_cons_other hd found], by simp⟩
  obtain ⟨p, hp, ne⟩ := some
  intro none
  have hw : p ∈ words sep cs := by simp [words, hp, ne]
  simp [none] at hw

end Words

end TriStore.Text

namespace TriStore.Relevance

open List Text

variable {front back : List Char}

theorem isSeparator_of_isBlank {c : Char} (h : isBlank c = true) : isSeparator c = true := by
  simp [isSeparator, h]

theorem lowerAfter_separators (h : ∀ c ∈ back, isSeparator c = true) (b : Bool) : lowerAfter b back = back :=
  lowerAfter_eq_self (fun c hc =>
    have facts := mark_facts (toNat_mem_markPoints (h c hc))
    ⟨facts.1, facts.2.2.2⟩) b

theorem words_lower_append (hf : ∀ c ∈ front, isSeparator c = true) (hb : ∀ c ∈ back, isSeparator c = true)
    (cs : List Char) :
    words isSeparator (lowerChars (front ++ cs ++ back)) = words isSeparator (lowerChars cs) := by
  have ahead : words isSeparator (lowerChars (front ++ (cs ++ back))) =
      words isSeparator (lowerChars (cs ++ back)) := by
    induction front with
    | nil => rfl
    | cons c front ih =>
      rw [forall_mem_cons] at hf
      rw [cons_append, lowerChars, lowerAfter_cons_mark (toNat_mem_markPoints hf.1), words_cons_sep hf.1]
      exact ih hf.2
  rw [append_assoc, ahead]
  cases back with
  | nil => rw [append_nil]
  | cons c rest =>
    have kept := lowerAfter_separators (fun d hd => hb d (mem_cons_of_mem c hd)) false
    rw [lowerChars, lowerAfter_append_mark (toNat_mem_markPoints (hb c (.head _))), kept,
      words_append_back hb, lowerChars]

theorem words_lower_trim (cs : List Char) :
    words isSeparator (lowerChars (trim isBlank cs)) = words isSeparator (lowerChars cs) := by
  obtain ⟨front, back, split, hf, hb⟩ := exists_trim isBlank cs
  have whole := words_lower_append (fun c hc => isSeparator_of_isBlank (hf c hc))
    (fun c hc => isSeparator_of_isBlank (hb c hc)) (trim isBlank cs)
  rw [← whole, ← split]

theorem tokenize_eq_of_lower_strip {s t : String} (h : lower (strip s) = lower (strip t)) :
    tokenize s = tokenize t := by
  have chars (r : String) : (lower (strip r)).toList = lowerChars (trim isBlank r.toList) := by
    simp [lower, strip]
  unfold tokenize
  rw [← words_lower_trim s.toList, ← words_lower_trim t.toList, ← chars, ← chars, h]

end TriStore.Relevance
