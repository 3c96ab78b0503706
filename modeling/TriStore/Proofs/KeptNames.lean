import TriStore.Proofs.PlannedCopies

/-!
Normal names keep their code points. A text that keeps code points is made of loose characters and
of pairs.
-/
namespace TriStore
open List

namespace Text

def IsLoose (c : Char) : Prop := c.toNat < 0x10e000 ∨ 0x10e804 ≤ c.toNat

theorem not_isFirst {c : Char} (h : IsLoose c) : ¬isFirst c = true := by
  rw [isFirst_iff]
  unfold IsLoose at h
  omega

theorem not_isSecond {c : Char} (h : IsLoose c) : ¬isSecond c = true := by
  rw [isSecond_iff]
  unfold IsLoose at h
  omega

/-- The characters are loose, or stand in pairs. -/
inductive Paired : List Char → Prop where
  | nil : Paired []
  | loose {c : Char} {cs : List Char} (hc : IsLoose c) (rest : Paired cs) : Paired (c :: cs)
  | pair {c d : Char} {cs : List Char} (hc : isFirst c = true) (hd : isSecond d = true)
      (rest : Paired cs) : Paired (c :: d :: cs)

namespace Paired

variable {cs ds : List Char}

theorem loose_append (loose : ∀ c ∈ ds, IsLoose c) (h : Paired cs) : Paired (ds ++ cs) := by
  induction ds with
  | nil => exact h
  | cons d ds ih =>
    rw [forall_mem_cons] at loose
    exact .loose loose.1 (ih loose.2)

theorem of_cons {c : Char} (hc : IsLoose c) (h : Paired (c :: cs)) : Paired cs := by
  cases h with
  | loose _ rest => exact rest
  | pair first _ _ => exact absurd first (not_isFirst hc)

theorem of_concat {c : Char} (hc : IsLoose c) : {cs : List Char} → Paired (cs ++ [c]) → Paired cs
  | [], _ => .nil
  | [a], h => by
    cases h with
    | loose ha _ => exact .loose ha .nil
    | pair _ second _ => exact absurd second (not_isSecond hc)
  | a :: b :: cs, h => by
    cases h with
    | loose ha rest => exact .loose ha (of_concat hc rest)
    | pair first second rest => exact .pair first second (of_concat hc rest)

theorem of_append {front back : List Char} (hf : ∀ c ∈ front, IsLoose c) (hb : ∀ c ∈ back, IsLoose c)
    (h : Paired (front ++ cs ++ back)) : Paired cs := by
  have left : Paired (front ++ cs) := by
    induction back generalizing cs with
    | nil => simpa using h
    | cons b back ih =>
      rw [forall_mem_cons] at hb
      have whole : Paired (front ++ (cs ++ [b])) := ih hb.2 (by simpa using h)
      exact of_concat hb.1 (by simpa using whole)
  clear h
  induction front with
  | nil => exact left
  | cons f front ih =>
    rw [forall_mem_cons] at hf
    exact ih hf.2 (of_cons hf.1 left)

theorem trim {p : Char → Bool} (hp : ∀ c, p c = true → IsLoose c) (h : Paired cs) : Paired (Text.trim p cs) := by
  obtain ⟨front, back, whole, hf, hb⟩ := exists_trim p cs
  rw [whole] at h
  exact of_append (fun c hc => hp c (hf c hc)) (fun c hc => hp c (hb c hc)) h

end Paired

theorem isInStretch_iff {n : Nat} : (stretchStart ≤ n && n < stretchEnd) = true ↔ 0x10d800 ≤ n ∧ n < 0x10e804 := by
  simp only [Bool.and_eq_true, decide_eq_true_eq]
  exact Iff.rfl

theorem ofPoint_pointOf {c : Char} (h : IsLoose c) : ofPoint (pointOf c) = [c] := by
  unfold IsLoose at h
  unfold pointOf
  by_cases standIn : isStandIn c = true
  · rw [if_pos standIn]
    rw [isStandIn_iff] at standIn
    have half : isHalf (c.toNat - 0x10d800 + 0xd800) = true := isHalf_iff.2 (by omega)
    have code : c.toNat - 0x10d800 + 0xd800 - 0xd800 + 0x10d800 = c.toNat := by omega
    rw [ofPoint, stretchStart, if_pos half, code, Char.ofNat_toNat]
  · rw [if_neg standIn]
    rw [isStandIn_iff] at standIn
    have character : ¬isHalf c.toNat = true := by
      have valid : c.toNat < 0xd800 ∨ 0xdfff < c.toNat ∧ c.toNat < 0x110000 := c.valid
      rw [isHalf_iff]
      omega
    have outside : ¬(stretchStart ≤ c.toNat && c.toNat < stretchEnd) = true := by
      rw [isInStretch_iff]
      omega
    rw [ofPoint, if_neg character, if_neg outside, Char.ofNat_toNat]

theorem ofPoint_pointOfPair {c d : Char} (hc : isFirst c = true) (hd : isSecond d = true) :
    ofPoint (pointOfPair c d) = [c, d] := by
  rw [isFirst_iff] at hc
  rw [isSecond_iff] at hd
  have number : pointOfPair c d = 0x10d800 + (c.toNat - 0x10e802) * 2050 + (d.toNat - 0x10e000) := rfl
  have character : ¬isHalf (pointOfPair c d) = true := by
    rw [isHalf_iff]
    omega
  have inside : (stretchStart ≤ pointOfPair c d && pointOfPair c d < stretchEnd) = true := by
    rw [isInStretch_iff]
    omega
  have first : 0x10e802 + (pointOfPair c d - 0x10d800) / 2050 = c.toNat := by omega
  have second : 0x10e000 + (pointOfPair c d - 0x10d800) % 2050 = d.toNat := by omega
  rw [ofPoint, if_neg character, if_pos inside]
  show [Char.ofNat (0x10e802 + (pointOfPair c d - 0x10d800) / 2050),
    Char.ofNat (0x10e000 + (pointOfPair c d - 0x10d800) % 2050)] = [c, d]
  rw [first, second, Char.ofNat_toNat, Char.ofNat_toNat]

theorem paired_ofPoint_append (n : Nat) {cs : List Char} (h : Paired cs) : Paired (ofPoint n ++ cs) := by
  unfold ofPoint
  by_cases half : isHalf n = true
  · rw [if_pos half]
    rw [isHalf_iff] at half
    have code : (Char.ofNat (n - 0xd800 + 0x10d800)).toNat = n - 0xd800 + 0x10d800 :=
      toNat_ofNat (by omega) (by omega)
    exact .loose (.inl (by rw [stretchStart, code]; omega)) h
  · rw [if_neg half]
    rw [isHalf_iff] at half
    by_cases inside : 0x10d800 ≤ n ∧ n < 0x10e804
    · have first : (Char.ofNat (0x10e802 + (n - 0x10d800) / 2050)).toNat =
          0x10e802 + (n - 0x10d800) / 2050 := toNat_ofNat (by omega) (by omega)
      have second : (Char.ofNat (0x10e000 + (n - 0x10d800) % 2050)).toNat =
          0x10e000 + (n - 0x10d800) % 2050 := toNat_ofNat (by omega) (by omega)
      rw [if_pos (isInStretch_iff.2 inside)]
      refine .pair (isFirst_iff.2 ?_) (isSecond_iff.2 ?_) h
      · rw [stretchStart, firstStart, show seconds = 2050 from rfl, first]
        omega
      · rw [stretchStart, secondStart, show seconds = 2050 from rfl, second]
        omega
    · rw [if_neg (isInStretch_iff.not.2 inside)]
      refine .loose ?_ h
      unfold IsLoose
      by_cases small : n < 0x110000
      · rw [toNat_ofNat (by omega) small]
        omega
      · have invalid : ¬n.isValidChar := by
          omega
        rw [Char.ofNat, dif_neg invalid]
        decide

theorem isKept_iff {s : String} : IsKept s ↔ Paired s.toList := by
  unfold IsKept ofCodes
  constructor
  · intro kept
    rw [← kept, String.toList_ofList]
    generalize points s.toList = ns
    induction ns with
    | nil => exact .nil
    | cons n ns ih =>
      exact paired_ofPoint_append n ih
  · intro paired
    have same : ofPoints (points s.toList) = s.toList := by
      generalize s.toList = cs at paired
      induction paired with
      | nil => rfl
      | loose hc _ ih =>
        rw [points_cons (not_isFirst hc), ofPoints, flatMap_cons, ofPoint_pointOf hc]
        exact congrArg _ ih
      | pair hc hd _ ih =>
        rw [points_cons_cons hc hd, ofPoints, flatMap_cons, ofPoint_pointOfPair hc hd]
        exact congrArg _ ih
    rw [same, String.ofList_toList]

theorem isLoose_of_isBlank {c : Char} (h : isBlank c = true) : IsLoose c := by
  have small : ∀ n ∈ blankPoints, n < 0x10e000 := by decide
  exact .inl (small _ (toNat_mem_blankPoints h))

theorem bands_loose : ∀ b ∈ lowerBands, b.hi < 0x10e000 ∧ (b.hi : Int) + b.shift < 0x10e000 := by
  decide +kernel

theorem lowerShift_of_pair {c : Char} (h : isFirst c = true ∨ isSecond c = true) :
    lowerShift lowerBands c.toNat = 0 := by
  by_contra moved
  obtain ⟨b, hb, -, high, -⟩ := exists_band moved
  have small := (bands_loose b hb).1
  rw [isFirst_iff, isSecond_iff] at h
  omega

theorem lowerChar_of_pair {c : Char} (h : isFirst c = true ∨ isSecond c = true) : lowerChar c = [c] ∧ c ≠ 'Σ' := by
  rw [lowerChar, lowerShift_of_pair h, if_neg]
  · refine ⟨by simp, ?_⟩
    rintro rfl
    revert h
    decide
  · rw [isFirst_iff, isSecond_iff] at h
    simp only [beq_iff_eq]
    omega

theorem isLoose_lowerChar {c x : Char} (h : IsLoose c) (hx : x ∈ lowerChar c) : IsLoose x := by
  unfold lowerChar at hx
  split at hx
  · have table : ∀ z ∈ ['i', Char.ofNat 0x307], IsLoose z :=
      forall_mem_cons.2 ⟨.inl (by decide), forall_mem_singleton.2 (.inl (by decide))⟩
    exact table x hx
  · rw [mem_singleton.1 hx]
    by_cases moved : lowerShift lowerBands c.toNat = 0
    · simpa [moved] using h
    · obtain ⟨-, -, code⟩ := lowerShift_lowered moved
      obtain ⟨b, hb, -, high, -, shift⟩ := exists_band moved
      have small := (bands_loose b hb).2
      refine .inl ?_
      omega

theorem Paired.lowerAfter {cs : List Char} (h : Paired cs) (b : Bool) : Paired (Text.lowerAfter b cs) := by
  induction h generalizing b with
  | nil => exact .nil
  | @loose c cs hc _ ih =>
    refine loose_append (fun x hx => ?_) (ih _)
    split at hx
    · rw [mem_singleton.1 hx]
      split
      · exact .inl (by decide)
      · exact .inl (by decide)
    · exact isLoose_lowerChar hc hx
  | @pair c d cs hc hd _ ih =>
    obtain ⟨lower, sigma⟩ := lowerChar_of_pair (.inl hc)
    obtain ⟨lower', sigma'⟩ := lowerChar_of_pair (.inr hd)
    rw [Text.lowerAfter_cons, Text.lowerAfter_cons, if_neg (by simpa using sigma), if_neg (by simpa using sigma'),
      lower, lower']
    exact .pair hc hd (ih _)

end Text

namespace Name

variable {c : Char} {cs : List Char}

open Text

theorem hyphenated_of_pair (h : isFirst c = true ∨ isSecond c = true) : hyphenated c = c := by
  have solid : isBlank c = false := by
    by_contra blank
    have loose := isLoose_of_isBlank (by simpa using blank)
    exact h.elim (not_isFirst loose) (not_isSecond loose)
  have other : c ≠ '_' := by
    rintro rfl
    revert h
    decide
  simp [hyphenated, solid, other]

theorem isLoose_hyphenated (h : IsLoose c) : IsLoose (hyphenated c) := by
  unfold hyphenated
  split
  · exact .inl (by decide)
  · exact h

theorem paired_map_hyphenated (h : Paired cs) : Paired (cs.map hyphenated) := by
  induction h with
  | nil => exact .nil
  | loose hc _ ih => exact .loose (isLoose_hyphenated hc) ih
  | pair hc hd _ ih =>
    rw [map_cons, map_cons, hyphenated_of_pair (.inl hc), hyphenated_of_pair (.inr hd)]
    exact .pair hc hd ih

theorem squeeze_cons (c : Char) (cs : List Char) :
    squeeze (c :: cs) = c :: squeeze cs ∨ c = '-' ∧ squeeze (c :: cs) = squeeze cs := by
  by_cases again : ∃ ds, c = '-' ∧ cs = '-' :: ds
  · obtain ⟨ds, rfl, rfl⟩ := again
    exact .inr ⟨rfl, by rw [squeeze]⟩
  · left
    rw [squeeze]
    intro ds hyphen follows
    exact again ⟨ds, hyphen, follows⟩

theorem paired_squeeze (h : Paired cs) : Paired (squeeze cs) := by
  have whole : ∀ {c : Char} (cs), isFirst c = true ∨ isSecond c = true → squeeze (c :: cs) = c :: squeeze cs := by
    intro c cs hc
    refine (squeeze_cons c cs).resolve_right ?_
    rintro ⟨rfl, -⟩
    revert hc
    decide
  induction h with
  | nil => exact .nil
  | @loose c cs hc _ ih =>
    rcases squeeze_cons c cs with kept | ⟨-, dropped⟩
    · rw [kept]
      exact .loose hc ih
    · rw [dropped]
      exact ih
  | pair hc hd _ ih =>
    rw [whole _ (.inl hc), whole _ (.inr hd)]
    exact .pair hc hd ih

theorem paired_dropExtension (h : Paired cs) : Paired (dropExtension cs) := by
  rcases dropExtension_cases cs with ⟨same, -⟩ | ⟨stem, m, d, whole, dropped, hm, hd⟩
  · rwa [same]
  · rw [whole, ← nil_append stem] at h
    rw [dropped]
    refine Paired.of_append (by simp) (fun c hc => .inl ?_) h
    simp only [mem_cons, not_mem_nil, or_false] at hc
    rcases hc with rfl | rfl | rfl
    · decide
    · rcases hm with rfl | rfl <;> decide
    · rcases hd with rfl | rfl <;> decide

theorem isKept_normalize {s : String} (h : IsKept s) : IsKept (normalize s) := by
  have hyphen : ∀ c : Char, (c == '-') = true → IsLoose c := by
    intro c hc
    rw [beq_iff_eq.1 hc]
    exact .inl (by decide)
  rw [isKept_iff] at h ⊢
  rw [normalize, String.toList_ofList]
  refine Paired.trim hyphen (paired_squeeze (paired_map_hyphenated (Paired.lowerAfter ?_ false)))
  exact paired_dropExtension (Paired.trim (fun _ => isLoose_of_isBlank) h)

end Name

end TriStore
