import TriStore.Proofs.SoundEntries

/-!
An element whose header says something is described by that header alone, whatever its body.
-/
namespace TriStore
open List

theorem Entry.ofContent_of_fields {key : Key} {content content' : String} {path revision : Value} {e : Entry}
    (same : Header.fields content = Header.fields content') (encodes : Digest.Encodes content')
    (made : ofContent key content path revision = .ok e) :
    ∃ digest revision', ofContent key content' path revision = .ok { e with digest, revision := revision' } := by
  obtain ⟨digest, digested⟩ := exists_ofContent_digest_iff.2 encodes
  obtain ⟨blob, stored⟩ := Digest.blob_eq_ok_iff.2 encodes
  simp only [ofContent, bind_eq_ok] at made ⊢
  obtain ⟨fields, read, version, hversion, description, hdescription, tags, htags, author, hauthor, _, -, _, -, made⟩ :=
    made
  obtain rfl := Except.ok.inj made
  exact ⟨_, _, fields, same ▸ read, version, hversion, description, hdescription, tags, htags, author, hauthor, digest,
    digested, blob, stored, rfl⟩

namespace Header

/-- Three hyphens that only blanks follow. -/
def isDelimiter (line : String) : Bool :=
  line.toList.take 3 == ['-', '-', '-'] && (line.toList.drop 3).all Text.isBlank

def isBlankLine (line : String) : Bool := line.toList.all Text.isBlank

def linesOf (ls : List String) : List Char := ls.flatMap (·.toList ++ ['\n'])

/-- The content with the given lines between two delimiters, and the given body after them. -/
def document (ls : List String) (body : String) : String :=
  String.ofList ("---".toList ++ '\n' :: (linesOf ls ++ ("---".toList ++ '\n' :: body.toList)))

abbrev AreInner (ls : List String) : Prop := ∀ l ∈ ls, '\n' ∉ l.toList ∧ isDelimiter l = false

theorem linesOf_cons (l : String) (ls : List String) : linesOf (l :: ls) = l.toList ++ '\n' :: linesOf ls := by
  simp [linesOf]

theorem linesOf_append (ls ls' : List String) : linesOf (ls ++ ls') = linesOf ls ++ linesOf ls' :=
  flatMap_append

theorem closes_line {line : String} (whole : '\n' ∉ line.toList) (rest : List Char) :
    closes (line.toList ++ '\n' :: rest) = isDelimiter line := by
  unfold closes isDelimiter
  generalize line.toList = cs at whole ⊢
  by_cases short : cs.length < 3
  · -- The line break is among the first three characters.
    have one : '\n' ∈ (cs ++ '\n' :: rest).take 3 := by
      rw [take_append, mem_append]
      exact .inr (mem_take_iff_getElem.2 ⟨0, by simp; omega, rfl⟩)
    have left : (cs ++ '\n' :: rest).take 3 ≠ ['-', '-', '-'] := fun same => by simp [same] at one
    have right : cs.take 3 ≠ ['-', '-', '-'] := fun same => by
      have := congrArg List.length same
      simp at this
      omega
    rw [beq_eq_false_iff_ne.2 left, beq_eq_false_iff_ne.2 right, Bool.false_and, Bool.false_and]
  · have long : 3 ≤ cs.length := by omega
    rw [take_append_of_le_length long, drop_append_of_le_length long]
    congr 1
    have inside : '\n' ∉ cs.drop 3 := fun mem => whole (mem_of_mem_drop mem)
    generalize cs.drop 3 = ds at inside
    induction ds with
    | nil => simp [show Text.isBlank '\n' = true by decide]
    | cons d ds ih =>
      obtain ⟨ne, inside⟩ := not_or.1 (mt mem_cons.2 inside)
      specialize ih inside
      rw [cons_append, takeWhile_cons, all_cons]
      split
      · next blank => simpa [blank, ne] using ih
      · next dark => simp [dark]

theorem body_line {line : List Char} (whole : '\n' ∉ line) (rest : List Char) : body (line ++ '\n' :: rest) =
      if closes rest then some line else (body rest).map (line ++ '\n' :: ·) := by
  induction line with
  | nil => cases closed : closes rest <;> simp [body, closed]
  | cons c cs ih =>
    obtain ⟨ne, whole⟩ := not_or.1 (mt mem_cons.2 whole)
    have other : (c == '\n') = false := by simpa using Ne.symm ne
    rw [cons_append, body, ih whole, other, Bool.false_and, if_neg Bool.false_ne_true]
    split <;> simp [Function.comp_def]

theorem body_lines {l : String} {ls : List String} (inner : AreInner (l :: ls)) (rest : List Char) :
    body (linesOf (l :: ls) ++ ("---".toList ++ '\n' :: rest)) =
      some (['\n'].intercalate ((l :: ls).map String.toList)) := by
  induction ls generalizing l with
  | nil =>
    have closed : closes ("---".toList ++ '\n' :: rest) = isDelimiter "---" := closes_line (by decide) rest
    rw [linesOf_cons, append_assoc, cons_append, body_line (inner l (.head _)).1, linesOf,
      flatMap_nil, nil_append, closed]
    simp [isDelimiter, List.intercalate]
  | cons l' ls ih =>
    obtain ⟨here, later⟩ := forall_mem_cons.1 inner
    have unclosed : closes (linesOf (l' :: ls) ++ ("---".toList ++ '\n' :: rest)) = false := by
      rw [linesOf_cons, append_assoc, cons_append, closes_line (later l' (.head _)).1]
      exact (later l' (.head _)).2
    rw [linesOf_cons l, append_assoc, cons_append, body_line here.1, unclosed, ih later]
    simp [List.intercalate]

theorem block?_eq {front space : List Char} {c : Char} (blanks : ∀ x ∈ front, Text.isBlank x = true)
    (ends : front.getLast? = some '\n') (spaces : ∀ x ∈ space, Text.isBlank x = true) (whole : '\n' ∉ space)
    (dark : Text.isBlank c = false) (rest : List Char) :
    block? ("---".toList ++ (front ++ (space ++ c :: rest))) = body (space ++ c :: rest) := by
  obtain ⟨before, rfl⟩ := List.getLast?_eq_some_iff.1 ends
  have gap : (before ++ ['\n'] ++ (space ++ c :: rest)).takeWhile Text.isBlank = before ++ ['\n'] ++ space := by
    rw [takeWhile_append_of_pos blanks, takeWhile_append_of_pos spaces,
      takeWhile_cons_of_neg (by simp [dark]), append_nil]
  have start : (before ++ ['\n'] ++ space).reverse.dropWhile (· != '\n') = (before ++ ['\n']).reverse := by
    rw [reverse_append, dropWhile_append_of_pos]
    · simp
    · intro x hx
      have : x ≠ '\n' := fun same => whole (same ▸ mem_reverse.1 hx)
      simpa using this
  have three (cs : List Char) : ("---".toList ++ cs).take 3 = ['-', '-', '-'] := rfl
  have after (cs : List Char) : ("---".toList ++ cs).drop 3 = cs := rfl
  simp only [block?, three, after, gap, start]
  rw [length_reverse, drop_left]
  simp

theorem front_of_blank {ls : List String} (blank : ∀ l ∈ ls, isBlankLine l = true) :
    (∀ x ∈ '\n' :: linesOf ls, Text.isBlank x = true) ∧ ('\n' :: linesOf ls).getLast? = some '\n' := by
  have break' : Text.isBlank '\n' = true := by decide
  constructor
  · simp only [linesOf, forall_mem_cons, mem_flatMap, mem_append, mem_singleton]
    refine ⟨break', ?_⟩
    rintro x ⟨l, hl, hx | rfl⟩
    · exact all_eq_true.1 (blank l hl) x hx
    · exact break'
  · rcases eq_nil_or_concat ls with rfl | ⟨ls, l, rfl⟩
    · rfl
    · simp [linesOf, List.getLast?_cons]

variable {ls : List String}

theorem toList_document (ls : List String) (b : String) : (document ls b).toList =
      "---".toList ++ ('\n' :: linesOf ls ++ ("---".toList ++ '\n' :: b.toList)) :=
  String.toList_ofList

theorem block?_document_of_blank (blank : ∀ l ∈ ls, isBlankLine l = true) (b : String) :
    block? (document ls b).toList = body ("---".toList ++ '\n' :: b.toList) := by
  obtain ⟨blanks, ends⟩ := front_of_blank blank
  rw [toList_document]
  exact block?_eq blanks ends (forall_mem_nil _) not_mem_nil (by decide) _

theorem block?_document (inner : AreInner ls) (told : ∃ l ∈ ls, isBlankLine l = false) (b : String) :
    block? (document ls b).toList = some (['\n'].intercalate ((ls.dropWhile isBlankLine).map String.toList)) := by
  rcases Text.exists_first (!isBlankLine ·) ls with none | ⟨front, l, more, rfl, blank, dark⟩
  · obtain ⟨l, hl, dark⟩ := told
    exact absurd dark (by simpa using none l hl)
  · have blank : ∀ l ∈ front, isBlankLine l = true := by simpa using blank
    obtain ⟨blanks, ends⟩ := front_of_blank blank
    have inner' : AreInner (l :: more) := fun x hx => inner x (mem_append_right _ hx)
    have rest : (front ++ l :: more).dropWhile isBlankLine = l :: more := by
      rw [dropWhile_append_of_pos blank, dropWhile_cons_of_neg (by simpa using dark)]
    rw [rest, ← body_lines inner' b.toList, toList_document, linesOf_append, ← cons_append, append_assoc,
      linesOf_cons]
    rcases Text.exists_first (!Text.isBlank ·) l.toList with none | ⟨space, c, t, line, spaces, black⟩
    · exact absurd dark (by simpa [isBlankLine] using none)
    · have whole : '\n' ∉ space := fun mem =>
        (inner' l (.head _)).1 (line ▸ mem_append_left _ mem)
      rw [line]
      simp only [append_assoc, cons_append]
      exact block?_eq blanks ends (by simpa using spaces) whole (by simpa using black) _

theorem body_read_as_header :
    (fields (document [] "a: 1\n---\n")).toOption.any (fun v => (v.field? "a").isSome) = true ∧
      (fields (document [] "")).toOption.any (fun v => (v.field? "a").isSome) = false := by
  decide +kernel

/-- The fields read from a document are the same with any body exactly if a line of its header is not blank;
then the header is what is read, and entries differ in digest and revision only. -/
theorem fields_document_iff (inner : AreInner ls) :
    ((∀ b b', fields (document ls b) = fields (document ls b')) ↔ ∃ l ∈ ls, isBlankLine l = false) ∧
      ((∃ l ∈ ls, isBlankLine l = false) → ∀ b,
        block? (document ls b).toList = some (['\n'].intercalate ((ls.dropWhile isBlankLine).map String.toList)) ∧
        ∀ key path revision e, Entry.ofContent key (document ls b) path revision = .ok e →
          ∀ b', Digest.Encodes (document ls b') → ∃ digest revision',
            Entry.ofContent key (document ls b') path revision = .ok { e with digest, revision := revision' }) := by
  have same (told : ∃ l ∈ ls, isBlankLine l = false) (b b' : String) :
      fields (document ls b) = fields (document ls b') := by
    rw [fields, fields, block?_document inner told, block?_document inner told]
  refine ⟨⟨fun same => ?_, same⟩, fun told b => ⟨block?_document inner told b, fun key path revision e made b' encodes =>
    Entry.ofContent_of_fields (same told b b') encodes made⟩⟩
  by_contra silent
  have blank : ∀ l ∈ ls, isBlankLine l = true := by simpa using silent
  have bare (b : String) : fields (document ls b) = fields (document [] b) := by
    rw [fields, fields, block?_document_of_blank blank, block?_document_of_blank (by simp)]
  have read := body_read_as_header
  rw [← bare, ← bare, same _ ""] at read
  exact Bool.false_ne_true (read.2.symm.trans read.1)

theorem fields_document_iff_titled : AreInner ["", "a: 1"] ∧
      fields (document ["", "a: 1"] "b: 2\n---\n") = fields (document ["", "a: 1"] "") := by
  have inner : AreInner ["", "a: 1"] := by decide
  exact ⟨inner, (fields_document_iff inner).1.2 (by decide) _ _⟩

/-- Without a header line, the body is read as a header. -/
theorem body_describes_untitled : AreInner [] ∧ fields (document [] "a: 1\n---\n") ≠ fields (document [] "") := by
  refine ⟨by decide, fun same => ?_⟩
  have read := body_read_as_header
  rw [same] at read
  exact Bool.false_ne_true (read.2.symm.trans read.1)

end Header

end TriStore
