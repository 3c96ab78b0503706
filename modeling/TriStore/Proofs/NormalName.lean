import TriStore.Proofs.Query

/-!
A normal name stays as it is when it is made normal again, so the file that a key names belongs to that key.
-/
namespace TriStore
open List

namespace Text

theorem count_slash_lowerAfter (b : Bool) (cs : List Char) : (lowerAfter b cs).count '/' = cs.count '/' := by
  induction cs generalizing b with
  | nil => rfl
  | cons c cs ih =>
    by_cases slash : c = '/'
    · rw [slash, lowerAfter_cons_mark (by decide), count_cons, count_cons, ih]
    · rw [lowerAfter_cons, count_append, ih, count_cons_of_ne slash, count_eq_zero.2, Nat.zero_add]
      split
      · split <;> decide
      · next sigma => exact fun mem => slash ((lowerChar_facts mem (by simpa using sigma)).2.2 (by decide)).symm

section Trim

variable {p : Char → Bool} {cs : List Char}

theorem of_head?_dropWhile {c : Char} (h : (cs.dropWhile p).head? = some c) : p c = false := by
  have first := List.head?_dropWhile_not p cs
  rw [h] at first
  simpa using first

theorem of_head?_trim {c : Char} (h : (trim p cs).head? = some c) : p c = false := by
  have whole : (cs.dropWhile p).head? = some c := by
    rw [← trim_append_takeWhile, head?_append, h]
    rfl
  exact of_head?_dropWhile whole

theorem of_getLast?_trim {c : Char} (h : (trim p cs).getLast? = some c) : p c = false := by
  rw [trim, trimEnd, getLast?_reverse] at h
  exact of_head?_dropWhile h

theorem trim_eq_self (first : ∀ c, cs.head? = some c → p c = false)
    (last : ∀ c, cs.getLast? = some c → p c = false) : trim p cs = cs := by
  have front : cs.dropWhile p = cs := dropWhile_eq_self_iff.2 fun hl =>
    Bool.eq_false_iff.1 (first _ (by rw [head?_eq_getElem?, getElem?_eq_getElem hl]))
  have back : cs.reverse.dropWhile p = cs.reverse := dropWhile_eq_self_iff.2 fun hl =>
    Bool.eq_false_iff.1 (last _ (by rw [← head?_reverse, head?_eq_getElem?, getElem?_eq_getElem hl]))
  rw [trim, trimStart, front, trimEnd, back, reverse_reverse]

theorem trim_trim (p : Char → Bool) (cs : List Char) : trim p (trim p cs) = trim p cs :=
  trim_eq_self (fun _ => of_head?_trim) fun _ => of_getLast?_trim

theorem count_trim {c : Char} (hc : p c = false) (cs : List Char) : (trim p cs).count c = cs.count c := by
  obtain ⟨front, back, split, hfront, hback⟩ := exists_trim p cs
  have outside : ∀ ds : List Char, (∀ d ∈ ds, p d = true) → ds.count c = 0 := fun ds hds =>
    count_eq_zero.2 fun mem => by simp [hds c mem] at hc
  rw [congrArg (List.count c) split, count_append, count_append, outside front hfront,
    outside back hback, Nat.zero_add, Nat.add_zero]

end Trim

end Text

namespace Name

variable {cs : List Char}

open Text

/-- A normal name has no blank, no underscore and no capital. -/
structure IsNormal (cs : List Char) : Prop where
  plain : ∀ c ∈ cs, isBlank c = false ∧ c ≠ '_' ∧ lowerChar c = [c] ∧ c ≠ 'Σ'
  squeezed : squeeze cs = cs
  trimmed : trim (· == '-') cs = cs

theorem squeeze_eq_self (h : ¬['-', '-'] <:+: cs) : squeeze cs = cs := by
  fun_induction squeeze cs with
  | case1 cs ih => exact absurd ⟨[], cs, rfl⟩ h
  | case2 c cs single ih => rw [ih fun inside => h (infix_cons inside)]
  | case3 => rfl

theorem head?_squeeze (cs : List Char) : (squeeze cs).head? = cs.head? := by
  fun_induction squeeze cs with
  | case1 cs ih => exact ih
  | case2 c cs single ih => rfl
  | case3 => rfl

theorem not_infix_squeeze (cs : List Char) : ¬['-', '-'] <:+: squeeze cs := by
  fun_induction squeeze cs with
  | case1 cs ih => exact ih
  | case2 c cs single ih =>
    intro inside
    rcases infix_cons_iff.1 inside with front | inside
    · obtain ⟨rfl, next⟩ := cons_prefix_cons.1 front
      have second : cs.head? = some '-' := by
        rw [← head?_squeeze]
        obtain ⟨rest, whole⟩ := next
        rw [← whole]
        rfl
      obtain ⟨rest, rfl⟩ := List.head?_eq_some_iff.1 second
      exact single rest rfl rfl
    · exact ih inside
  | case3 => simp

theorem trim_isInfix (p : Char → Bool) (cs : List Char) : trim p cs <:+: cs := by
  obtain ⟨front, back, split, -, -⟩ := exists_trim p cs
  exact ⟨front, back, split.symm⟩

theorem isNormal_normalizeChars (cs : List Char) : IsNormal (normalizeChars cs) where
  plain c hc := by
    obtain ⟨x, hx, rfl⟩ := mem_map.1 (mem_of_mem_squeeze (mem_of_mem_trim hc))
    unfold hyphenated
    split
    · decide +kernel
    · next kept =>
      obtain ⟨lower, sigma, -⟩ := lowerAfter_facts hx
      simp only [Bool.or_eq_true, beq_iff_eq, not_or, Bool.not_eq_true] at kept
      exact ⟨kept.1, kept.2, lower, sigma⟩
  squeezed := squeeze_eq_self fun inside =>
    not_infix_squeeze _ (inside.trans (trim_isInfix _ _))
  trimmed := trim_trim _ _

theorem IsNormal.lowerChars_eq (h : IsNormal cs) : lowerChars cs = cs :=
  lowerAfter_eq_self (fun c hc => (h.plain c hc).2.2) false

theorem tokenize_normalize (s : String) : Relevance.tokenize (normalize s) =
    (words Relevance.isSeparator (normalizeChars s.toList)).map String.ofList := by
  rw [Relevance.tokenize, normalize, String.toList_ofList, (isNormal_normalizeChars _).lowerChars_eq]

theorem IsNormal.head?_ne (h : IsNormal cs) : cs.head? ≠ some '-' := by
  intro hyphen
  rw [← h.trimmed] at hyphen
  simpa using of_head?_trim hyphen

theorem IsNormal.getLast?_ne (h : IsNormal cs) : cs.getLast? ≠ some '-' := by
  intro hyphen
  rw [← h.trimmed] at hyphen
  simpa using of_getLast?_trim hyphen

theorem normalizeChars_of_plain (plain : ∀ c ∈ cs, isBlank c = false ∧ c ≠ '_' ∧ lowerChar c = [c] ∧ c ≠ 'Σ') :
    normalizeChars cs = trim (· == '-') (squeeze (dropExtension cs)) := by
  have inside : ∀ c ∈ dropExtension cs, c ∈ cs := fun c hc => (dropExtension_isPrefix cs).mem hc
  have lower : lowerChars (dropExtension cs) = dropExtension cs :=
    lowerAfter_eq_self (fun c hc => (plain c (inside c hc)).2.2) false
  have hyphens : (dropExtension cs).map hyphenated = (dropExtension cs).map id := by
    refine map_congr_left fun c hc => ?_
    obtain ⟨blank, underscore, -⟩ := plain c (inside c hc)
    simp [hyphenated, blank, underscore]
  unfold normalizeChars
  dsimp only
  rw [trim_eq_self (fun c hc => (plain c (mem_of_mem_head? hc)).1) fun c hc =>
    (plain c (mem_of_mem_getLast? hc)).1, lower, hyphens, List.map_id]

theorem dropExtension_append (cs : List Char) : dropExtension (cs ++ ['.', 'm', 'd']) = cs := by
  simp [dropExtension]

theorem IsNormal.normalizeChars_append (h : IsNormal cs) : normalizeChars (cs ++ ['.', 'm', 'd']) = cs := by
  rw [normalizeChars_of_plain, dropExtension_append, h.squeezed, h.trimmed]
  refine forall_mem_append.2 ⟨h.plain, forall_mem_cons.2 ⟨by decide +kernel, ?_⟩⟩
  exact forall_mem_cons.2 ⟨by decide +kernel, forall_mem_singleton.2 (by decide +kernel)⟩

theorem IsNormal.dropExtension_eq_or (h : IsNormal cs) :
    ¬['.', 'm', 'd'] <:+ cs ∧ dropExtension cs = cs ∨ ∃ stem, cs = stem ++ ['.', 'm', 'd'] := by
  rcases dropExtension_cases cs with ⟨same, bare⟩ | ⟨stem, m, d, whole, -, hm, hd⟩
  · exact .inl ⟨bare, same⟩
  · have small (c : Char) (hc : c ∈ cs) : c ≠ 'D' ∧ c ≠ 'M' := by
      constructor <;> rintro rfl <;> exact absurd (h.plain _ hc).2.2.1 (by decide +kernel)
    rw [hm.resolve_right (small m (by simp [whole])).2, hd.resolve_right (small d (by simp [whole])).1] at whole
    exact .inr ⟨stem, whole⟩

theorem length_squeeze_le (cs : List Char) : (squeeze cs).length ≤ cs.length := by
  fun_induction squeeze cs with
  | case1 cs ih => exact Nat.le_succ_of_le ih
  | case2 c cs single ih => exact Nat.succ_le_succ ih
  | case3 => exact Nat.le_refl _

theorem IsNormal.normalizeChars_eq_or (h : IsNormal cs) : ¬['.', 'm', 'd'] <:+ cs ∧ normalizeChars cs = cs ∨
      ['.', 'm', 'd'] <:+ cs ∧ (normalizeChars cs).length < cs.length := by
  rw [normalizeChars_of_plain h.plain]
  rcases h.dropExtension_eq_or with ⟨bare, same⟩ | ⟨stem, rfl⟩
  · exact .inl ⟨bare, by rw [same, h.squeezed, h.trimmed]⟩
  · refine .inr ⟨suffix_append _ _, ?_⟩
    rw [dropExtension_append]
    calc (trim (· == '-') (squeeze stem)).length
        ≤ (squeeze stem).length := (trim_isInfix _ _).length_le
      _ ≤ stem.length := length_squeeze_le _
      _ < (stem ++ ['.', 'm', 'd']).length := by simp

/-- The form of a name in a key: in lower case, its words joined by single hyphens. -/
structure HasForm (name : String) : Prop where
  joined : ∀ c ∈ name.toList, isBlank c = false ∧ c ≠ '_'
  single : ¬['-', '-'] <:+: name.toList
  first : name.toList.head? ≠ some '-'
  last : name.toList.getLast? ≠ some '-'
  lower : Text.lower name = name

theorem HasForm.isNormal {name : String} (h : HasForm name) : IsNormal name.toList where
  plain c hc := by
    have lower : lowerChars name.toList = name.toList := by
      simpa [Text.lower] using congrArg String.toList h.lower
    obtain ⟨small, sigma, -⟩ := lowerAfter_facts (lower.symm ▸ hc : c ∈ lowerChars name.toList)
    exact ⟨(h.joined c hc).1, (h.joined c hc).2, small, sigma⟩
  squeezed := squeeze_eq_self h.single
  trimmed := by
    refine trim_eq_self (fun c hc => beq_false_of_ne ?_) fun c hc => beq_false_of_ne ?_
    · rintro rfl
      exact h.first hc
    · rintro rfl
      exact h.last hc

theorem hasForm_normalize (s : String) : HasForm (normalize s) := by
  have normal : IsNormal (normalize s).toList := by
    rw [normalize, String.toList_ofList]
    exact isNormal_normalizeChars _
  refine ⟨fun c hc => ?_, ?_, normal.head?_ne, normal.getLast?_ne, ?_⟩
  · obtain ⟨blank, underscore, -⟩ := normal.plain c hc
    exact ⟨blank, underscore⟩
  · rw [← normal.squeezed]
    exact not_infix_squeeze _
  · rw [Text.lower, normal.lowerChars_eq, String.ofList_toList]

theorem HasForm.normalize_append {name : String} (h : HasForm name) : normalize (name ++ ".md") = name := by
  have chars : (name ++ ".md").toList = name.toList ++ ['.', 'm', 'd'] := by simp
  rw [normalize, chars, h.isNormal.normalizeChars_append, String.ofList_toList]

theorem normalize_extension (s : String) : normalize (normalize s ++ ".md") = normalize s :=
  (hasForm_normalize s).normalize_append

theorem normalize_normalize_or (s : String) :
    ¬['.', 'm', 'd'] <:+ (normalize s).toList ∧ normalize (normalize s) = normalize s ∨
      ['.', 'm', 'd'] <:+ (normalize s).toList ∧ (normalize (normalize s)).length < (normalize s).length := by
  have once : (normalize s).toList = normalizeChars s.toList := String.toList_ofList
  have twice : normalize (normalize s) = String.ofList (normalizeChars (normalizeChars s.toList)) := by
    rw [normalize, once]
  rw [twice, once]
  rcases (isNormal_normalizeChars s.toList).normalizeChars_eq_or with ⟨bare, same⟩ | ⟨extended, shorter⟩
  · exact .inl ⟨bare, by rw [same, normalize]⟩
  · refine .inr ⟨extended, ?_⟩
    rw [String.length_ofList, ← String.length_toList, once]
    exact shorter

/-- Normal names have one form, and each text of this form is the normal name of its own file. Making one
normal again changes it exactly if it ends in the extension. -/
theorem normalize_normal_form (s : String) : HasForm (normalize s) ∧ (HasForm s ↔ normalize (s ++ ".md") = s) ∧
      (normalize (normalize s) = normalize s ↔ ¬['.', 'm', 'd'] <:+ (normalize s).toList) := by
  refine ⟨hasForm_normalize s, ⟨HasForm.normalize_append, fun own => own ▸ hasForm_normalize _⟩, ?_⟩
  rcases normalize_normalize_or s with ⟨bare, same⟩ | ⟨extended, shorter⟩
  · exact iff_of_true same bare
  · refine iff_of_false (fun same => ?_) (not_not_intro extended)
    rw [same] at shorter
    exact Nat.lt_irrefl _ shorter

section Slash

theorem count_slash_dropExtension (cs : List Char) : (dropExtension cs).count '/' = cs.count '/' := by
  rcases dropExtension_cases cs with ⟨same, -⟩ | ⟨stem, m, d, whole, dropped, hm, hd⟩
  · rw [same]
  · rw [dropped, whole, count_append]
    rcases hm with rfl | rfl <;> rcases hd with rfl | rfl <;> rfl

theorem count_slash_squeeze (cs : List Char) : (squeeze cs).count '/' = cs.count '/' := by
  fun_induction squeeze cs with
  | case1 cs ih => simpa [count_cons] using ih
  | case2 d cs single ih => rw [count_cons, count_cons, ih]
  | case3 => rfl

theorem count_slash_hyphenated (cs : List Char) : (cs.map hyphenated).count '/' = cs.count '/' := by
  induction cs with
  | nil => rfl
  | cons c cs ih =>
    have same : (hyphenated c == '/') = (c == '/') := by
      by_cases slash : c = '/'
      · rw [slash]
        rfl
      · unfold hyphenated
        split
        · simp [slash]
        · rfl
    rw [map_cons, count_cons, count_cons, ih, same]

theorem count_slash_normalize (s : String) : (normalize s).toList.count '/' = s.toList.count '/' := by
  rw [normalize, String.toList_ofList, normalizeChars, count_trim (by decide), count_slash_squeeze,
    count_slash_hyphenated, lowerChars, count_slash_lowerAfter, count_slash_dropExtension,
    count_trim (by decide)]

theorem slash_mem_normalize {s : String} : '/' ∈ (normalize s).toList ↔ '/' ∈ s.toList := by
  rw [← count_pos_iff, count_slash_normalize, count_pos_iff]

end Slash

end Name

end TriStore
