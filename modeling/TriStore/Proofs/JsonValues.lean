import TriStore.Proofs.Action

/-!
The values that JSON texts give have no number that is too long to be shown, and none refers to itself.
-/
namespace TriStore

namespace Value

variable {vs : List Value} {kvs : List (Value × Value)}

/-- No number in it is too long to be shown, and it does not refer to itself. -/
def IsPlain (v : Value) : Prop := v.isWritable = true ∧ v.isCyclic = false

theorem isPlain_list : IsPlain (.list vs) ↔ ∀ v ∈ vs, IsPlain v := by
  show areWritable vs = true ∧ anyCyclic vs = false ↔ _
  induction vs with
  | nil => simp [areWritable, anyCyclic]
  | cons v vs ih =>
    rw [List.forall_mem_cons, ← ih]
    simp [IsPlain, areWritable, anyCyclic, and_assoc, and_left_comm]

theorem isPlain_map : IsPlain (.map kvs) ↔ ∀ x ∈ kvs, IsPlain x.1 ∧ IsPlain x.2 := by
  show pairsAreWritable kvs = true ∧ anyPairCyclic kvs = false ↔ _
  induction kvs with
  | nil => simp [pairsAreWritable, anyPairCyclic]
  | cons x kvs ih =>
    rw [List.forall_mem_cons, ← ih]
    simp [IsPlain, pairsAreWritable, anyPairCyclic, and_assoc, and_left_comm]

theorem isPlain_insert {key value : Value} (key_plain : key.IsPlain) (value_plain : value.IsPlain)
    (h : IsPlain (.map kvs)) : IsPlain (.map (insert key value kvs)) := by
  rw [isPlain_map] at h ⊢
  induction kvs with
  | nil => exact List.forall_mem_singleton.2 ⟨key_plain, value_plain⟩
  | cons x kvs ih =>
    obtain ⟨first, rest⟩ := List.forall_mem_cons.1 h
    unfold insert
    split
    · exact List.forall_mem_cons.2 ⟨⟨first.1, value_plain⟩, rest⟩
    · exact List.forall_mem_cons.2 ⟨first, ih rest⟩

theorem IsPlain.of_field? {name : String} {v : Value} (h : IsPlain (.map kvs))
    (found : (Value.map kvs).field? name = some v) : v.IsPlain := by
  obtain ⟨x, held, rfl⟩ := Option.map_eq_some_iff.1 found
  exact (isPlain_map.1 h x (List.mem_of_find?_eq_some held)).2

end Value

namespace Json

open Value (IsPlain)

theorem number_lt {ds : List Char} (digits : ∀ c ∈ ds, isDigit c = true) : number ds < Nat.pow 10 ds.length := by
  have start (n : Nat) : ds.foldl (fun n c => n * 10 + (c.toNat - 48)) n < (n + 1) * Nat.pow 10 ds.length := by
    induction ds generalizing n with
    | nil => simp
    | cons c ds ih =>
      have digit : c.toNat - 48 ≤ 9 := by
        have := digits c (by simp)
        simp only [isDigit, Bool.and_eq_true, decide_eq_true_eq, Char.le_def] at this
        have : c.toNat ≤ 57 := this.2
        omega
      calc _ < (n * 10 + (c.toNat - 48) + 1) * Nat.pow 10 ds.length := ih (fun c hc => digits c (by simp [hc])) _
        _ ≤ ((n + 1) * 10) * Nat.pow 10 ds.length := Nat.mul_le_mul_right _ (by omega)
        _ = _ := by
          rw [Nat.mul_assoc, Nat.mul_comm 10]
          rfl
  simpa [number] using start 0

/-- What is read, if anything, is a plain value. -/
def ReadsPlain (x : Except Fault (Value × Cursor)) : Prop := ∀ v c, x = .ok (v, c) → v.IsPlain

theorem readsPlain_ok {v : Value} {c : Cursor} (h : v.IsPlain) : ReadsPlain (.ok (v, c)) := by
  rintro _ _ ⟨⟩
  exact h

theorem readsPlain_error {e : Fault} : ReadsPlain (.error e) := nofun

theorem readsPlain_bind {α : Type} {x : Except Fault α} {f : α → Except Fault (Value × Cursor)}
    (h : ∀ a, x = .ok a → ReadsPlain (f a)) : ReadsPlain (x >>= f) := by
  intro v c read
  obtain ⟨a, is, next⟩ := bind_eq_ok.1 read
  exact h a is v c next

theorem readsPlain_scanNumber (c : Cursor) : ReadsPlain (scanNumber c) := by
  unfold scanNumber
  extract_lets negative body whole signs rest frac rest' fracSize
  have digits : ∀ c ∈ whole, isDigit c = true := by
    clear_value body
    dsimp only [whole]
    split
    · simp [isDigit]
    · exact List.all_eq_true.1 List.all_takeWhile
  split
  · exact readsPlain_error
  · cases scanExponent rest' with
    | some read => exact readsPlain_ok ⟨rfl, rfl⟩
    | none =>
      dsimp only
      split
      · split
        · exact readsPlain_error
        · next short =>
          refine readsPlain_ok ⟨?_, rfl⟩
          have size : (if negative then -(number whole : Int) else number whole).natAbs = number whole := by
            split <;> simp
          rw [Value.isWritable, decide_eq_true_eq, size]
          generalize maxDigits = limit at short ⊢
          exact Nat.lt_of_lt_of_le (number_lt digits) (Nat.pow_le_pow_right (by decide) (Nat.not_lt.1 short))
      · exact readsPlain_ok ⟨rfl, rfl⟩

theorem isPlain_of_word? {cs : List Char} {v : Value} {n : Nat} (h : word? cs = some (v, n)) : v.IsPlain := by
  obtain ⟨⟨w, v'⟩, listed, is⟩ := List.exists_of_findSome?_eq_some h
  dsimp only at is
  split at is
  · cases is
    simp only [List.mem_cons, Prod.mk.injEq, List.not_mem_nil, or_false] at listed
    rcases listed with ⟨_, rfl⟩ | ⟨_, rfl⟩ | ⟨_, rfl⟩ | ⟨_, rfl⟩ | ⟨_, rfl⟩ | ⟨_, rfl⟩
    all_goals exact ⟨rfl, rfl⟩
  · cases is

-- The three readers call each other with less fuel, so one induction on it serves all.
theorem readsPlain_scan (fuel : Nat) : (∀ depth c, ReadsPlain (scanValue fuel depth c)) ∧
    (∀ depth acc c, IsPlain (.map acc) → ReadsPlain (scanMembers fuel depth acc c)) ∧
    ∀ depth acc c, (∀ v ∈ acc, v.IsPlain) → ReadsPlain (scanItems fuel depth acc c) := by
  induction fuel with
  | zero =>
    refine ⟨?_, ?_, ?_⟩
    all_goals
      intros
      exact readsPlain_error
  | succ fuel ih =>
    obtain ⟨value, members, items⟩ := ih
    refine ⟨fun depth c => ?_, fun depth acc c read => ?_, fun depth acc c read => ?_⟩
    · rw [scanValue.eq_def]
      dsimp only
      split
      · exact readsPlain_bind fun _ _ => readsPlain_ok ⟨rfl, rfl⟩
      · split
        · exact readsPlain_error
        · split
          · exact readsPlain_ok ⟨rfl, rfl⟩
          · exact members _ _ _ ⟨rfl, rfl⟩
      · split
        · exact readsPlain_error
        · split
          · exact readsPlain_ok ⟨rfl, rfl⟩
          · exact items _ _ _ nofun
      · split
        · next found => exact readsPlain_ok (isPlain_of_word? found)
        · exact readsPlain_scanNumber c
    · rw [scanMembers.eq_def]
      dsimp only
      split
      · refine readsPlain_bind fun ⟨key, c⟩ _ => ?_
        split
        · exact readsPlain_error
        · refine readsPlain_bind fun ⟨v, c⟩ scanned => ?_
          have more := Value.isPlain_insert (show (Value.text key).IsPlain from ⟨rfl, rfl⟩) (value _ _ v c scanned) read
          dsimp only
          split
          · exact readsPlain_ok more
          · exact members _ _ _ more
          · exact readsPlain_error
      · exact readsPlain_error
    · rw [scanItems]
      refine readsPlain_bind fun ⟨v, c⟩ scanned => ?_
      have more : ∀ w ∈ v :: acc, w.IsPlain := List.forall_mem_cons.2 ⟨value _ _ v c scanned, read⟩
      dsimp only
      split
      · exact readsPlain_ok (Value.isPlain_list.2 fun w hw => more w (List.mem_reverse.1 hw))
      · exact items _ _ _ more
      · exact readsPlain_error

theorem isPlain_of_parse {s : String} {v : Value} (h : parse s = .ok v) : v.IsPlain := by
  unfold parse at h
  dsimp only at h
  split at h
  · cases h
  · obtain ⟨⟨v', c⟩, scanned, ends⟩ := bind_eq_ok.1 h
    dsimp only at ends
    split at ends
    · cases ends
      exact (readsPlain_scan _).1 _ _ v c scanned
    · cases ends

end Json

theorem Policy.isPlain_of_mem_elements? {v w : Value} (h : v.IsPlain) (hw : w ∈ (elements? v).getD []) :
    w.IsPlain := by
  unfold elements? Value.opened at hw
  rw [h.2] at hw
  cases v with
  | list vs | tuple vs => exact Value.isPlain_list.1 h w hw
  | _ => cases hw

end TriStore
