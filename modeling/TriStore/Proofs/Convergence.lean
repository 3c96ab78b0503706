import TriStore.Proofs.Deletion
import TriStore.Proofs.PlannedCopies

/-!
A sync that is repeated: an item that is carried out leaves the same under its key on both sides.
-/
namespace TriStore
open List TriStore.Shelf

namespace Shelf

def uncounted (x : Shelf) : Shelf := { x with calls := {} }

def bare (x : Shelf) : Shelf := { x with contents := [], calls := {} }

variable {x y : Shelf} {key : Key}

theorem get?_uncounted (x : Shelf) (key : Key) : x.uncounted.get? key = x.get? key := rfl

theorem bare_uncounted (x : Shelf) : x.uncounted.bare = x.bare := rfl

theorem writable_bare (x : Shelf) : x.bare.writable = x.writable := rfl

theorem source_bare (x : Shelf) : x.bare.source = x.source := rfl

theorem check_bare (x : Shelf) : x.bare.check = x.check := rfl

theorem fst_write (x : Shelf) (key : Key) (content : String) (expected : Option Value) :
    (x.write key content expected).1 = if !x.writable then .error (.readOnly x.source)
      else x.check >>= fun _ => x.checkWrite key expected >>= fun _ => (Digest.blob content).map .text := by
  rw [write_eq]
  split
  · rfl
  · cases x.check with
    | error e => rfl
    | ok _ => cases x.checkWrite key expected <;> rfl

theorem fst_delete (x : Shelf) (key : Key) :
    (x.delete key).1 = if !x.writable then .error (.readOnly x.source) else x.check := by
  rw [delete_eq]
  split
  · rfl
  · cases x.check <;> rfl

section Bare

variable (h : y.bare = x.bare)

include h

theorem writable_congr : y.writable = x.writable := by
  rw [← writable_bare, h, writable_bare]

theorem source_congr : y.source = x.source := by
  rw [← source_bare, h, source_bare]

theorem check_congr : y.check = x.check := by
  rw [← check_bare, h, check_bare]

theorem content_congr (same : y.get? key = x.get? key) : y.content key = x.content key := by
  rw [content, check_congr h, same, source_congr h, content]

theorem fst_write_congr (same : y.get? key = x.get? key) (content : String) (expected : Option Value) :
    (y.write key content expected).1 = (x.write key content expected).1 := by
  have checkWrite : y.checkWrite key expected = x.checkWrite key expected := by
    unfold Shelf.checkWrite
    rw [same]
  rw [fst_write, fst_write, writable_congr h, source_congr h, check_congr h, checkWrite]

theorem fst_delete_congr (key : Key) : (y.delete key).1 = (x.delete key).1 := by
  rw [fst_delete, fst_delete, writable_congr h, source_congr h, check_congr h]

end Bare

end Shelf

namespace Portfolio

def Alike (x y : Source → Shelf) : Prop := ∀ s, (y s).uncounted = (x s).uncounted

def Akin (x y : Source → Shelf) : Prop := ∀ s, (y s).bare = (x s).bare

def SameUnder (k : Key) (x y : Source → Shelf) : Prop := ∀ s, (y s).get? k = (x s).get? k

instance : Std.Refl Alike := ⟨fun _ _ => rfl⟩

instance : Trans Alike Alike Alike := ⟨fun h h' s => (h' s).trans (h s)⟩

instance : Std.Refl Akin := ⟨fun _ _ => rfl⟩

instance : Trans Akin Akin Akin := ⟨fun h h' s => (h' s).trans (h s)⟩

variable {p : Portfolio} {x y z : Source → Shelf} {i : PlanItem} {k : Key}

instance : Std.Refl (SameUnder k) := ⟨fun _ _ => rfl⟩

instance : Trans (SameUnder k) (SameUnder k) (SameUnder k) := ⟨fun h h' s => (h' s).trans (h s)⟩

theorem Akin.symm (h : Akin x y) : Akin y x := fun s => (h s).symm

theorem SameUnder.symm (h : SameUnder k x y) : SameUnder k y x := fun s => (h s).symm

theorem Alike.akin (h : Alike x y) : Akin x y := by
  intro s
  rw [← bare_uncounted, h s, bare_uncounted]

theorem Alike.sameUnder (h : Alike x y) (k : Key) : SameUnder k x y := by
  intro s
  rw [← Shelf.get?_uncounted, h s, Shelf.get?_uncounted]

theorem alike_replace {t : Source} {calls : Calls} : Alike x (replace x t { x t with calls }) := by
  intro s
  by_cases eq : s = t
  · rw [eq, replace_self]
    rfl
  · rw [replace_ne x eq]

theorem fst_carryOn_congr (h : Akin x y) (same : SameUnder i.key x y) : (p.carryOn y i).1 = (p.carryOn x i).1 := by
  unfold carryOn contentOn
  rw [content_congr (h _) (same _)]
  split
  · exact fst_delete_congr (h _) i.key
  · split
    · rfl
    · dsimp only
      rw [fst_write_congr (h _) (same _)]

section Steps

/-- An item meets shelves as a plan does: nothing is at the source of a deletion, and other sources can be
encoded. -/
structure Fits (x : Source → Shelf) (i : PlanItem) : Prop where
  source : i.step = .delete → (x (endsOf i.flow).1).get? i.key = none
  encodes : ∀ c, (x (endsOf i.flow).1).get? i.key = some c → Digest.Encodes c

theorem Fits.congr (h : Fits x i) (same : SameUnder i.key x y) : Fits y i where
  source step := by
    rw [same]
    exact h.source step
  encodes := by
    rw [same]
    exact h.encodes

/-- The item comes to nothing and ends like that whenever the contents under its key are these. -/
structure Rests (p : Portfolio) (x : Source → Shelf) (i : PlanItem) (r : Except Failure Outcome) : Prop where
  status : ∀ o, r = .ok o → o.status ≠ .applied
  step : ∀ y, Akin x y → SameUnder i.key x y → (p.stepOn y i).1 = r ∧ Alike y (p.stepOn y i).2

theorem Rests.congr {r : Except Failure Outcome} (h : Rests p x i r) (akin : Akin x y)
    (same : SameUnder i.key x y) : Rests p y i r where
  status := h.status
  step z akin' same' := h.step z (Trans.trans akin akin') (Trans.trans same same')

theorem Rests.here {r : Except Failure Outcome} (h : Rests p x i r) :
    (p.stepOn x i).1 = r ∧ Alike x (p.stepOn x i).2 :=
  h.step x (Std.Refl.refl x) (Std.Refl.refl x)

/-- The two shelves come to hold the same under a key, and it was there before. -/
structure Levels (x y : Source → Shelf) (k : Key) : Prop where
  same : (y .home).get? k = (y .remote).get? k
  old : ∀ c, (y .home).get? k = some c → ∃ s, s ≠ .registry ∧ (x s).get? k = some c

theorem alike_of_fails (identity : ∀ key c, p.validate key c = .ok c) (fits : Fits x i) {e : Failure}
    (fails : (p.carryOn x i).1 = .error e) : Alike x (replace x (endsOf i.flow).2 (p.carryOn x i).2) := by
  obtain ⟨calls, ⟨e, failed⟩ | ⟨-, erases⟩ | ⟨c, -, content, puts⟩⟩ := p.carryOn_cases x i
  · rw [failed]
    exact alike_replace
  · rw [erases] at fails
    cases fails
  · obtain ⟨b, stored⟩ := Digest.blob_eq_ok_iff.2 (fits.encodes c (get?_of_contentOn identity content))
    rw [puts, stored] at fails
    cases fails

theorem levels_replace (flow : Direction) {c : Option String} {t : Shelf}
    (source : (x (endsOf flow).1).get? k = c) (target : t.get? k = c) :
    Levels x (replace x (endsOf flow).2 t) k := by
  have both : (replace x (endsOf flow).2 t .home).get? k = c ∧
      (replace x (endsOf flow).2 t .remote).get? k = c := by
    cases flow with
    | push | both => exact ⟨source, target⟩
    | pull => exact ⟨target, source⟩
  refine ⟨both.1.trans both.2.symm, fun c' found => ⟨(endsOf flow).1, (endsOf_ne_registry flow).1, ?_⟩⟩
  rw [source, ← both.1, found]

theorem stepOn_fate (identity : ∀ key c, p.validate key c = .ok c) (fits : Fits x i) :
    (∃ r, Rests p x i r) ∨ (∃ o, (p.stepOn x i).1 = .ok o) ∧ Levels x (p.stepOn x i).2 i.key := by
  obtain ⟨conflict, -⟩ | ⟨conflict, skipped, -⟩ | ⟨conflict, executable, carried⟩ := p.stepOn_cases x i
  · refine .inl ⟨.ok ⟨i, .conflict, i.reason⟩, by simp, fun y _ _ => ?_⟩
    rw [stepOn, if_pos (by simp [conflict])]
    exact ⟨rfl, Std.Refl.refl y⟩
  · refine .inl ⟨.ok ⟨i, .skipped, i.reason⟩, by simp, fun y _ _ => ?_⟩
    rw [stepOn, if_neg (by simpa using conflict), if_pos (by simp [skipped])]
    exact ⟨rfl, Std.Refl.refl y⟩
  · obtain ⟨calls, ⟨e, fails⟩ | ⟨step, erases⟩ | ⟨c, step, content, puts⟩⟩ := p.carryOn_cases x i
    · refine .inl ⟨outcomeOf i (.error e), fun o ho => (outcomeOf_error ho).2.1, fun y akin same => ?_⟩
      have again : (p.carryOn y i).1 = .error e := by
        rw [fst_carryOn_congr akin same, fails]
      rw [stepOn, if_neg (by simpa using conflict), if_neg (by simp [executable])]
      exact ⟨by rw [again], alike_of_fails identity (fits.congr same) again⟩
    · rw [carried, erases]
      exact .inr ⟨⟨_, rfl⟩, levels_replace i.flow (fits.source step) (Shelf.get?_erase_self _ _)⟩
    · have found := get?_of_contentOn identity content
      obtain ⟨b, stored⟩ := Digest.blob_eq_ok_iff.2 (fits.encodes c found)
      rw [carried, puts, stored]
      exact .inr ⟨⟨_, rfl⟩, levels_replace i.flow found (Shelf.get?_put_self _ _ _)⟩

end Steps

section Runs

theorem akin_carryOn (p : Portfolio) (x : Source → Shelf) (i : PlanItem) :
    Akin x (replace x (endsOf i.flow).2 (p.carryOn x i).2) :=
  carryOn_leaves (·.bare) (fun _ _ => rfl) (fun _ => rfl) (fun _ _ => rfl) p x

theorem stepOn_keeps {R : (Source → Shelf) → (Source → Shelf) → Prop} [Std.Refl R]
    (step : R x (replace x (endsOf i.flow).2 (p.carryOn x i).2)) : R x (p.stepOn x i).2 := by
  obtain ⟨-, noted⟩ | ⟨-, -, noted⟩ | ⟨-, -, carried⟩ := p.stepOn_cases x i
  · rw [noted]
    exact Std.Refl.refl x
  · rw [noted]
    exact Std.Refl.refl x
  · rw [carried]
    exact step

variable {items rest : List PlanItem}

theorem akin_applyAllOn (p : Portfolio) (items : List PlanItem) (x : Source → Shelf) :
    Akin x (p.applyAllOn items x).2 :=
  applyAllOn_keeps (fun i _ _ x => akin_carryOn p x i) x

theorem sameUnder_applyAllOn (other : ∀ i ∈ items, i.key ≠ k) (x : Source → Shelf) :
    SameUnder k x (p.applyAllOn items x).2 :=
  applyAllOn_keeps (fun i hi _ x => get?_carryOn_ne p x i (other i hi).symm) x

/-- The item comes to nothing and lets the next ones follow. -/
def Quiet (p : Portfolio) (x : Source → Shelf) (i : PlanItem) : Prop :=
  i.step = .unchanged ∨ ∃ o, Rests p x i (.ok o)

theorem Quiet.congr (h : Quiet p x i) (akin : Akin x y) (same : SameUnder i.key x y) : Quiet p y i :=
  h.imp_right fun ⟨o, stays⟩ => ⟨o, stays.congr akin same⟩

/-- What becomes of an item and of the contents under its key. -/
inductive Fate (p : Portfolio) (x y : Source → Shelf) (i : PlanItem) : Prop where
  | quiet (quiet : Quiet p x i) (same : SameUnder i.key x y)
  | levels (levels : Levels x y i.key)

theorem Levels.congr (h : Levels y z k) (same : SameUnder k x y) : Levels x z k where
  same := h.same
  old c found := by
    obtain ⟨s, hs, old⟩ := h.old c found
    exact ⟨s, hs, (same s).symm.trans old⟩

theorem Levels.trans (h : Levels x y k) (same : SameUnder k y z) : Levels x z k where
  same := by rw [same, same, h.same]
  old c found := h.old c ((same .home).symm.trans found)

theorem Fate.congr (h : Fate p y z i) (akin : Akin x y) (same : SameUnder i.key x y) : Fate p x z i := by
  cases h with
  | quiet quiet later => exact .quiet (quiet.congr akin.symm same.symm) (Trans.trans same later)
  | levels levels => exact .levels (levels.congr same)

theorem fate_of_stepOn (identity : ∀ key c, p.validate key c = .ok c) (fits : Fits x i) {o : Outcome}
    (stepped : p.stepOn x i = (.ok o, y)) (after : SameUnder i.key y z) : Fate p x z i := by
  obtain ⟨r, stays⟩ | ⟨-, levels⟩ := stepOn_fate identity fits
  · obtain ⟨rfl, alike⟩ := stays.here
    rw [stepped] at stays alike
    exact .quiet (.inr ⟨o, stays⟩) (Trans.trans (alike.sameUnder i.key) after)
  · rw [stepped] at levels
    exact .levels (levels.trans after)

theorem stays_of_stepOn (identity : ∀ key c, p.validate key c = .ok c) (fits : Fits x i) {e : Failure}
    (stepped : p.stepOn x i = (.error e, y)) : Rests p x i (.error e) ∧ Alike x y := by
  obtain ⟨r, stays⟩ | ⟨⟨o, ok⟩, -⟩ := stepOn_fate identity fits
  · obtain ⟨rfl, alike⟩ := stays.here
    rw [stepped] at stays alike
    exact ⟨stays, alike⟩
  · rw [stepped] at ok
    cases ok

/-- A run has done some items; the rest is none, or starts with an item that stops the run every time. -/
structure Progress (p : Portfolio) (x y : Source → Shelf) (r : Except Failure (List Outcome))
    (done rest : List PlanItem) : Prop where
  fates : ∀ i ∈ done, Fate p x y i
  same : ∀ i ∈ rest, SameUnder i.key x y
  ended : rest = [] ∧ (∃ os, r = .ok os) ∨ ∃ e i later, rest = i :: later ∧ i.step ≠ .unchanged ∧
    Rests p x i (.error e) ∧ r = .error e

theorem Progress.cons {r r' : Except Failure (List Outcome)} {done : List PlanItem}
    (h : Progress p y z r done rest) (akin : Akin x y)
    (others : ∀ j ∈ done ++ rest, SameUnder j.key x y) (fate : Fate p x z i)
    (ok : ∀ os, r = .ok os → ∃ os', r' = .ok os') (failed : ∀ e, r = .error e → r' = .error e) :
    Progress p x z r' (i :: done) rest where
  fates := forall_mem_cons.2 ⟨fate, fun j hj =>
    (h.fates j hj).congr akin (others j (mem_append_left rest hj))⟩
  same j hj := Trans.trans (others j (mem_append_right done hj)) (h.same j hj)
  ended := by
    obtain ⟨none, os, ended⟩ | ⟨e, j, later, rfl, changed, stays, ended⟩ := h.ended
    · exact .inl ⟨none, ok os ended⟩
    · have same := others j (by simp)
      exact .inr ⟨e, j, later, rfl, changed, stays.congr akin.symm same.symm, failed e ended⟩

theorem exists_progress (identity : ∀ key c, p.validate key c = .ok c)
    (nodup : (items.map (·.key)).Nodup) (fits : ∀ i ∈ items, Fits x i) : ∃ done rest, items = done ++ rest ∧
      Progress p x (p.applyAllOn items x).2 (p.applyAllOn items x).1 done rest := by
  induction items generalizing x with
  | nil => exact ⟨[], [], rfl, by simp, by simp, .inl ⟨rfl, [], rfl⟩⟩
  | cons i items ih =>
    obtain ⟨fresh, nodup⟩ := nodup_cons.1 nodup
    obtain ⟨fits, later⟩ := forall_mem_cons.1 fits
    have apart : ∀ j ∈ items, j.key ≠ i.key := fun j hj eq => fresh (mem_map.2 ⟨j, hj, eq⟩)
    by_cases unchanged : i.step = .unchanged
    · obtain ⟨done, rest, rfl, progress⟩ := ih nodup later
      rw [applyAllOn, if_pos (by simp [unchanged])]
      refine ⟨i :: done, rest, rfl, progress.cons (Std.Refl.refl x) (fun _ _ => Std.Refl.refl x)
        (.quiet (.inl unchanged) (sameUnder_applyAllOn apart x)) (fun os ended => ⟨os, ended⟩) ?_⟩
      exact fun _ ended => ended
    · rw [applyAllOn, if_neg (by simpa using unchanged)]
      rcases stepped : p.stepOn x i with ⟨e | o, x₁⟩
      · obtain ⟨stays, alike⟩ := stays_of_stepOn identity fits stepped
        exact ⟨[], i :: items, rfl, by simp, fun j _ => alike.sameUnder j.key,
          .inr ⟨e, i, items, rfl, unchanged, stays, rfl⟩⟩
      · have akin : Akin x (p.stepOn x i).2 := stepOn_keeps (akin_carryOn p x i)
        have others : ∀ j ∈ items, SameUnder j.key x (p.stepOn x i).2 := fun j hj =>
          stepOn_keeps (get?_carryOn_ne p x i (apart j hj))
        rw [stepped] at akin others
        have fate := fate_of_stepOn identity fits stepped (sameUnder_applyAllOn (p := p) apart x₁)
        obtain ⟨done, rest, rfl, progress⟩ := ih nodup fun j hj => (later j hj).congr (others j hj)
        refine ⟨i :: done, rest, rfl, progress.cons akin others fate (fun os ended => ?_) fun e ended => ?_⟩
        · exact ⟨o :: os, by dsimp only; rw [ended]; rfl⟩
        · exact map_eq_error.2 ended

theorem applyAllOn_quiet (quiet : ∀ i ∈ items, Quiet p x i) (alike : Alike x y) (rest : List PlanItem) :
    ∃ os z, Alike x z ∧ (∀ o ∈ os, o.status ≠ .applied) ∧ p.applyAllOn (items ++ rest) y =
        ((p.applyAllOn rest z).1.map (os ++ ·), (p.applyAllOn rest z).2) := by
  induction items generalizing y with
  | nil =>
    refine ⟨[], y, alike, by simp, ?_⟩
    rw [nil_append]
    rcases p.applyAllOn rest y with ⟨e | os, z⟩ <;> rfl
  | cons i items ih =>
    obtain ⟨first, quiet⟩ := forall_mem_cons.1 quiet
    by_cases unchanged : i.step = .unchanged
    · rw [cons_append, applyAllOn, if_pos (by simp [unchanged])]
      exact ih quiet alike
    · obtain ⟨o, stays⟩ := first.resolve_left unchanged
      obtain ⟨ended, alike'⟩ := stays.step y alike.akin (alike.sameUnder _)
      rw [cons_append, applyAllOn, if_neg (by simpa using unchanged)]
      rcases stepped : p.stepOn y i with ⟨e | o', y'⟩
      · rw [stepped] at ended
        cases ended
      · rw [stepped] at ended alike'
        obtain rfl : o' = o := Except.ok.inj ended
        obtain ⟨os, z, same, idle, run⟩ := ih quiet (Trans.trans alike alike')
        refine ⟨o' :: os, z, same, forall_mem_cons.2 ⟨stays.status o' rfl, idle⟩, ?_⟩
        dsimp only
        rw [run]
        cases (p.applyAllOn rest z).1 <;> rfl

end Runs

section Plans

variable {d : Direction} {m : Mode} {items items' : List PlanItem} {j : PlanItem}

theorem Levels.pair (h : Levels x y k) (shown : Shown (pairOn y k)) :
    ∃ e, pairOn y k = ⟨some e, some e⟩ ∧ e.sameContent e = true := by
  have same : (y .home).copy k = (y .remote).copy k := copy_congr h.same
  cases found : (y .home).copy k with
  | none =>
    obtain ⟨some | some, -⟩ := shown
    · exact absurd found some
    · exact absurd (same.symm.trans found) some
  | some e =>
    obtain ⟨c, -, made⟩ := Shelf.get?_of_copy found
    exact ⟨e, by rw [pairOn, ← same, found], (sameContent_iff made made).2 rfl⟩

/-- Under each key all is as before, or the shelves have come to hold the same, as was planned for. -/
def Settles (x y : Source → Shelf) : Prop :=
  ∀ k, SameUnder k x y ∨ Levels x y k ∧ Shown (pairOn x k)

theorem Settles.shown (h : Settles x y) (shown : Shown (pairOn y k)) : Shown (pairOn x k) := by
  rcases h k with same | ⟨-, shown⟩
  · exact pairOn_congr same ▸ shown
  · exact shown

theorem Plannable.again (h : Plannable x d m) (akin : Akin x y) (settles : Settles x y) : Plannable y d m where
  answers s hs := (check_congr (akin s)).trans (h.answers s hs)
  entry s hs k c found := by
    rcases settles k with same | ⟨levels, -⟩
    · exact h.entry s hs k c ((same s).symm.trans found)
    · have home : (y .home).get? k = some c := by
        cases s with
        | home => exact found
        | remote => exact levels.same.trans found
        | registry => exact absurd rfl hs
      obtain ⟨t, ht, old⟩ := levels.old c home
      exact h.entry t ht k c old
  comparable k shown := by
    rcases settles k with same | ⟨levels, -⟩
    · rw [pairOn_congr same] at shown ⊢
      exact h.comparable k shown
    · obtain ⟨e, pair, same⟩ := levels.pair shown
      rw [pair]
      exact Plan.checkPair_of_same same _ _

theorem Fate.quiet_again (h : Fate p x y i) (akin : Akin x y) (hi : i = itemOn x d m i.key)
    (shown : Shown (pairOn y i.key)) : Quiet p y (itemOn y d m i.key) := by
  cases h with
  | quiet quiet same =>
    have again : itemOn y d m i.key = i := by
      rw [hi]
      exact congrArg (Plan.item _ m i.key) (pairOn_congr same)
    rw [again]
    exact quiet.congr akin same
  | levels levels =>
    obtain ⟨e, pair, same⟩ := levels.pair shown
    refine .inl ?_
    show (Plan.verdict _ m (pairOn y i.key)).step = .unchanged
    rw [pair]
    exact Plan.unchanged_of_same same _ m

theorem settles_applyAllOn (identity : ∀ key c, p.validate key c = .ok c)
    (planned : Planned x d m items) (fits : ∀ i ∈ items, Fits x i) :
    Settles x (p.applyAllOn items x).2 := by
  intro k
  by_cases hk : ∃ i ∈ items, i.key = k
  · obtain ⟨i, hi, rfl⟩ := hk
    obtain ⟨done, rest, split, progress⟩ := exists_progress identity planned.nodup fits
    rcases mem_append.1 (split ▸ hi) with hi' | hi'
    · cases progress.fates i hi' with
      | quiet _ same => exact .inl same
      | levels levels => exact .inr ⟨levels, ((planned.mem_iff i).1 hi).1⟩
    · exact .inl (progress.same i hi')
  · exact .inl (sameUnder_applyAllOn (fun i hi eq => hk ⟨i, hi, eq⟩) x)

theorem exists_get?_of_shown (shown : Shown (pairOn x k)) : ∃ s c, s ≠ .registry ∧ (x s).get? k = some c := by
  obtain ⟨some | some, -⟩ := shown
  · obtain ⟨e, found⟩ := Option.ne_none_iff_exists'.1 some
    obtain ⟨c, held, -⟩ := Shelf.get?_of_copy found
    exact ⟨.home, c, by decide, held⟩
  · obtain ⟨e, found⟩ := Option.ne_none_iff_exists'.1 some
    obtain ⟨c, held, -⟩ := Shelf.get?_of_copy found
    exact ⟨.remote, c, by decide, held⟩

theorem Planned.apart {done later pre post : List PlanItem}
    (planned : Planned x d m (done ++ i :: later)) (planned' : Planned y d m (pre ++ i :: post))
    (settles : Settles x y) (kept : ∀ k, Shown (pairOn x k) → Text.IsKept k.name) :
    ∀ j ∈ pre, ∀ i' ∈ i :: later, i'.key ≠ j.key := by
  have after : ∀ i' ∈ later, i.key.le i'.key = true := by
    have sorted := planned.sorted
    rw [pairwise_map, pairwise_append, pairwise_cons] at sorted
    exact sorted.2.1.1
  intro j hj
  have before : j.key.le i.key = true := by
    have sorted := planned'.sorted
    rw [pairwise_map, pairwise_append] at sorted
    exact sorted.2.2 j hj i (.head _)
  have fresh : j.key ≠ i.key := by
    have nodup := planned'.nodup
    rw [List.Nodup, pairwise_map, pairwise_append] at nodup
    exact nodup.2.2 j hj i (.head _)
  have shown : Shown (pairOn x i.key) := ((planned.mem_iff i).1 (by simp)).1
  have shown' : Shown (pairOn x j.key) :=
    settles.shown ((planned'.mem_iff j).1 (mem_append_left _ hj)).1
  refine forall_mem_cons.2 ⟨fresh.symm, fun i' hi' eq => fresh ?_⟩
  exact Key.le_antisymm (kept _ shown') (kept _ shown) before (eq ▸ after i' hi')

namespace Progress

variable {r : Except Failure (List Outcome)} {done rest : List PlanItem}

theorem quiet (h : Progress p x y r done rest) (akin : Akin x y) (settles : Settles x y)
    (planned : Planned x d m (done ++ rest)) (planned' : Planned y d m items') (hj : j ∈ items')
    (other : ∀ i ∈ rest, i.key ≠ j.key) : Quiet p y j := by
  obtain ⟨shown, made⟩ := (planned'.mem_iff j).1 hj
  have hi : itemOn x d m j.key ∈ done ++ rest := (planned.mem_iff _).2 ⟨settles.shown shown, rfl⟩
  rcases mem_append.1 hi with hi | hi
  · rw [made]
    exact (h.fates _ hi).quiet_again akin rfl shown
  · exact (other (itemOn x d m j.key) hi rfl).elim

theorem goes_again (h : Progress p x y r done []) (akin : Akin x y) (settles : Settles x y)
    (planned : Planned x d m (done ++ [])) (planned' : Planned y d m items') :
    ∃ os z, p.applyAllOn items' y = (.ok os, z) ∧ Alike y z ∧ ∀ o ∈ os, o.status ≠ .applied := by
  obtain ⟨os, z, alike, idle, run⟩ := applyAllOn_quiet
    (fun j hj => h.quiet akin settles planned planned' hj (by simp)) (Std.Refl.refl y) []
  rw [append_nil] at run
  exact ⟨os ++ [], z, run, alike, by simpa using idle⟩

theorem stops_again {e : Failure} {later : List PlanItem} (h : Progress p x y r done (i :: later))
    (changed : i.step ≠ .unchanged) (stays : Rests p x i (.error e)) (akin : Akin x y)
    (settles : Settles x y) (planned : Planned x d m (done ++ i :: later)) (planned' : Planned y d m items')
    (kept : ∀ s k c, s ≠ .registry → (x s).get? k = some c → Text.IsKept k.name) :
    ∃ z, p.applyAllOn items' y = (.error e, z) ∧ Alike y z := by
  obtain ⟨shown, made⟩ := (planned.mem_iff i).1 (by simp)
  have same : SameUnder i.key x y := h.same i (.head _)
  have hi : i ∈ items' := by
    refine (planned'.mem_iff i).2 ⟨pairOn_congr same ▸ shown, ?_⟩
    rw [itemOn, pairOn_congr same]
    exact made
  obtain ⟨pre, post, rfl⟩ := append_of_mem hi
  have apart := planned.apart planned' settles fun k shown => by
    obtain ⟨s, c, hs, held⟩ := exists_get?_of_shown shown
    exact kept s k c hs held
  obtain ⟨os, z, alike, -, run⟩ := applyAllOn_quiet (fun j hj => h.quiet akin settles planned planned'
    (mem_append_left _ hj) (apart j hj)) (Std.Refl.refl y) (i :: post)
  have again := stays.step z (Trans.trans akin alike.akin) (Trans.trans same (alike.sameUnder i.key))
  rw [applyAllOn, if_neg (by simpa using changed)] at run
  rcases stepped : p.stepOn z i with ⟨e' | o, z'⟩
  · rw [stepped] at again run
    obtain rfl : e' = e := Except.error.inj again.1
    exact ⟨z', run, Trans.trans alike again.2⟩
  · rw [stepped] at again
    cases again.1

end Progress

end Plans

section Syncs

variable {o : Outcome} {items : List PlanItem} {c : String} {d : Direction} {m : Mode} {plan : Plan}
  {force confirm : Bool} {outcomes : List Outcome}

theorem fits_of_planOn (tidy : ∀ s, s ≠ .registry → (x s).Tidy) (planned : planOn x d m = .ok plan)
    (hi : i ∈ plan.items) : Fits x i where
  source step := (premise_of_planOn planned tidy hi).of_delete step
  encodes c found := by
    obtain ⟨e, made⟩ := (of_planOn tidy planned).1.entry _ (endsOf_ne_registry i.flow).1 _ c found
    obtain ⟨-, ⟨b, stored, -⟩, -⟩ := entryOf_eq_ok made
    exact Digest.blob_eq_ok_iff.1 ⟨b, stored⟩

theorem outcomeOf_ne_skipped {r : Except Failure Unit} (h : outcomeOf i r = .ok o) : o.status ≠ .skipped := by
  cases r with
  | ok _ => simp [← Except.ok.inj h]
  | error e =>
    cases e with
    | conflict key reason => simp [← Except.ok.inj h]
    | _ =>
      simp only [outcomeOf] at h
      split at h
      · cases h
      · simp [← Except.ok.inj h]

theorem applyAllOn_skipped (h : p.applyAllOn items x = (.ok outcomes, y)) :
    ∀ o ∈ outcomes, o.status = .skipped → o.item.step ≠ .conflict ∧ o.item.executable = false := by
  induction items generalizing x outcomes with
  | nil =>
    obtain ⟨rfl, -⟩ := by simpa [applyAllOn] using h
    simp
  | cons i rest ih =>
    by_cases unchanged : i.step = .unchanged
    · rw [applyAllOn, if_pos (by simp [unchanged])] at h
      exact ih h
    · obtain ⟨o, os, x₁, stepped, later, rfl⟩ := applyAllOn_cons_eq_ok unchanged h
      refine forall_mem_cons.2 ⟨fun skipped => ?_, ih later⟩
      obtain ⟨-, noted⟩ | ⟨conflict, kept, noted⟩ | ⟨-, -, carried⟩ := p.stepOn_cases x i
      · obtain ⟨rfl, -⟩ := by simpa using noted.symm.trans stepped
        cases skipped
      · obtain ⟨rfl, -⟩ := by simpa using noted.symm.trans stepped
        exact ⟨conflict, kept⟩
      · obtain ⟨outcome, -⟩ := Prod.mk.inj (carried.symm.trans stepped)
        exact absurd skipped (outcomeOf_ne_skipped outcome)

theorem sameDigest_of_unchanged {a b : Entry} (pair : pairOn x k = ⟨some a, some b⟩)
    (content : a.sameContent b = true) (flow : Direction) (held : (x (endsOf flow).1).get? k = some c) :
    ∃ c', (x (endsOf flow).2).get? k = some c' ∧ Digest.ofContent c' = Digest.ofContent c := by
  obtain ⟨here, there⟩ := Plan.Pair.mk.inj pair
  obtain ⟨c₁, held₁, made₁⟩ := Shelf.get?_of_copy here
  obtain ⟨c₂, held₂, made₂⟩ := Shelf.get?_of_copy there
  have same := (sameContent_iff made₁ made₂).1 content
  cases flow with
  | push | both =>
    obtain rfl : c₁ = c := Option.some.inj (held₁.symm.trans held)
    exact ⟨c₂, held₂, same.symm⟩
  | pull =>
    obtain rfl : c₂ = c := Option.some.inj (held₂.symm.trans held)
    exact ⟨c₁, held₁, same⟩

theorem sameUnder_of_unchanged (listed : Planned x d m items)
    (applied : p.applyAllOn items x = (.ok outcomes, y)) (hi : i ∈ items)
    (unchanged : i.step = .unchanged) : SameUnder i.key x y := by
  obtain ⟨changed, -, others⟩ := applyAllOn_effect listed.nodup applied
  refine others i.key fun o ho eq => ?_
  have mem : o.item ∈ outcomes.map (·.item) := mem_map_of_mem ho
  rw [changed] at mem
  obtain ⟨mem, step⟩ := mem_filter.1 mem
  have item : o.item = i := by
    rw [((listed.mem_iff o.item).1 mem).2, eq, ← ((listed.mem_iff i).1 hi).2]
  simp [item, unchanged] at step

theorem delete_of_skipped (listed : Planned x d m items)
    (applied : p.applyAllOn items x = (.ok outcomes, y)) (ho : o ∈ outcomes)
    (mem : o.item ∈ items) (skipped : o.status = .skipped) : o.item.step = .delete := by
  obtain ⟨-, made⟩ := (listed.mem_iff o.item).1 mem
  obtain ⟨conflict, kept⟩ := applyAllOn_skipped applied o ho skipped
  have noted := (Plan.verdict_reasons (Plan.effective d m) m (pairOn x o.item.key)).noted
    (by rw [← kept, made]; rfl)
  rw [made] at conflict ⊢
  exact noted.resolve_left conflict

theorem sameDigest_of_applied (identity : ∀ key c, p.validate key c = .ok c)
    (tidy : ∀ s, s ≠ .registry → (x s).Tidy) (planned : planOn x d m = .ok plan)
    (applied : p.applyAllOn plan.items x = (.ok outcomes, y)) (hi : i ∈ plan.items)
    (settled : ∀ o ∈ outcomes, o.item.key = i.key → o.status ≠ .conflict ∧ o.status ≠ .failed)
    (held : (y (endsOf i.flow).1).get? i.key = some c) :
    ∃ c', (y (endsOf i.flow).2).get? i.key = some c' ∧ Digest.ofContent c' = Digest.ofContent c := by
  have listed := (of_planOn tidy planned).2
  have fits := fits_of_planOn tidy planned hi
  by_cases unchanged : i.step = .unchanged
  · obtain ⟨-, made⟩ := (listed.mem_iff i).1 hi
    obtain ⟨a, b, pair, content⟩ := (Plan.verdict_reasons (Plan.effective d m) m
      (pairOn x i.key)).unchanged (by rw [← unchanged, made]; rfl)
    rw [← pairOn_congr (sameUnder_of_unchanged listed applied hi unchanged)] at pair
    exact sameDigest_of_unchanged pair content i.flow held
  · obtain ⟨items, effects, -⟩ := applyAllOn_effect listed.nodup applied
    have mem : i ∈ outcomes.map (·.item) := by
      rw [items]
      exact mem_filter.2 ⟨hi, by simpa using unchanged⟩
    obtain ⟨o, ho, rfl⟩ := mem_map.1 mem
    cases effects o ho with
    | copied _ _ _ kept passed target =>
      obtain rfl := eq_of_passed identity passed
      exact ⟨_, target, by rw [Option.some.inj (held.symm.trans kept)]⟩
    | removed _ step kept _ => cases (fits.source step).symm.trans (kept.symm.trans held)
    | untouched status same =>
      obtain ⟨conflict, failed⟩ := settled o ho rfl
      have skipped : o.status = .skipped := by
        cases found : o.status with
        | applied => exact absurd found status
        | conflict => exact absurd found conflict
        | failed => exact absurd found failed
        | skipped => rfl
      have gone := (same _ (endsOf_ne_registry o.item.flow).1).symm.trans held
      cases (fits.source (delete_of_skipped listed applied ho hi skipped)).symm.trans gone

theorem syncOn_of_planOn (confirmed : (force || confirm) = true)
    (admitted : checkBulk p.settings.sync (Plan.effective d m) = .ok ())
    (planned : planOn x d m = .ok plan) : p.syncOn x d m false force confirm =
      ((p.applyAllOn plan.items x).1.map fun outcomes => .finished { plan, outcomes },
        (p.applyAllOn plan.items x).2) := by
  rw [syncOn, if_neg (by simp), admitted, ok_bind, planned]
  dsimp only
  rw [if_neg (by simp [needsConfirmation, confirmed])]

theorem syncOn_cases (p : Portfolio) (x : Source → Shelf) (d : Direction) (m : Mode)
    (force confirm : Bool) : (∃ e, p.syncOn x d m false force confirm = (.error e, x)) ∨
      ∃ plan, checkBulk p.settings.sync (Plan.effective d m) = .ok () ∧ planOn x d m = .ok plan := by
  rw [syncOn, if_neg (by simp)]
  split
  · next e _ => exact .inl ⟨e, rfl⟩
  · next plan made =>
    obtain ⟨⟨⟩, admitted, planned⟩ := bind_eq_ok.1 made
    exact .inr ⟨plan, admitted, planned⟩

theorem unasked_of_confirmed (confirmed : (force || confirm) = true) {r : SyncReport}
    (h : (p.syncOn x d m false force confirm).1 = .ok (.finished r)) : r.requiresConfirmation = false := by
  obtain ⟨e, failed⟩ | ⟨plan, admitted, planned⟩ := p.syncOn_cases x d m force confirm
  · rw [failed] at h
    cases h
  · rw [syncOn_of_planOn confirmed admitted planned] at h
    cases applied : (p.applyAllOn plan.items x).1 with
    | error e =>
      rw [applied] at h
      cases h
    | ok os =>
      rw [applied] at h
      obtain rfl := SyncResult.finished.inj (Except.ok.inj h)
      rfl

theorem syncOn_again (identity : ∀ key c, p.validate key c = .ok c)
    (tidy : ∀ s, s ≠ .registry → (x s).Tidy) (confirmed : (force || confirm) = true)
    {result result' : Except Failure SyncResult} (first : p.syncOn x d m false force confirm = (result, y))
    (second : p.syncOn y d m false force confirm = (result', z)) :
    ((∃ r, result = .ok r) ∨ (∀ s k c, s ≠ .registry → (x s).get? k = some c → Text.IsKept k.name) →
      Alike y z ∧ ∀ r', result' = .ok (.finished r') → ∀ o ∈ r'.outcomes, o.status ≠ .applied) ∧
    ∀ r, result = .ok r → ∃ r', result' = .ok (.finished r') := by
  obtain ⟨e, failed⟩ | ⟨plan, admitted, planned⟩ := p.syncOn_cases x d m force confirm
  · obtain ⟨rfl, rfl⟩ := Prod.mk.inj (failed.symm.trans first)
    obtain ⟨rfl, rfl⟩ := Prod.mk.inj (failed.symm.trans second)
    exact ⟨fun _ => ⟨Std.Refl.refl x, nofun⟩, nofun⟩
  · have tidy' := staysTidy_syncOn tidy p d m false force confirm
    rw [syncOn_of_planOn confirmed admitted planned] at first tidy'
    obtain ⟨rfl, rfl⟩ := Prod.mk.inj first
    have fits : ∀ i ∈ plan.items, Fits x i := fun i hi => fits_of_planOn tidy planned hi
    obtain ⟨possible, listed⟩ := of_planOn tidy planned
    have akin := akin_applyAllOn p plan.items x
    have settles := settles_applyAllOn identity listed fits
    obtain ⟨plan', planned'⟩ := (possible.again akin settles).exists_planOn tidy'
    have listed' := (of_planOn tidy' planned').2
    rw [syncOn_of_planOn confirmed admitted planned'] at second
    obtain ⟨done, rest, split, progress⟩ := exists_progress identity listed.nodup fits
    rw [split] at listed
    obtain ⟨rfl, os, ended⟩ | ⟨e, i, later, rfl, changed, stays, ended⟩ := progress.ended
    · obtain ⟨os', z, again, alike, idle⟩ := progress.goes_again akin settles listed listed'
      rw [again] at second
      obtain ⟨rfl, rfl⟩ := Prod.mk.inj second
      refine ⟨fun _ => ⟨alike, fun r' hr' => ?_⟩, fun r _ => ⟨_, rfl⟩⟩
      obtain rfl := SyncResult.finished.inj (Except.ok.inj hr')
      exact idle
    · rw [ended]
      refine ⟨fun kept => ?_, nofun⟩
      obtain ⟨z, again, alike⟩ := progress.stops_again changed stays akin settles listed listed'
        (kept.resolve_left nofun)
      rw [again] at second
      obtain ⟨rfl, rfl⟩ := Prod.mk.inj second
      exact ⟨alike, nofun⟩

end Syncs

section Worlds

variable {w w' w'' : World} {d : Direction} {m : Mode} {force confirm : Bool}
  {result result' : Except Failure SyncResult}

/-- Syncs between stores in memory converge in one step, where validation changes nothing and deletions are
confirmed: the second of two like syncs changes and applies nothing, even if the first was stopped halfway, as
long as each name has its own place in the order. Once the first has finished so does the second, and an
element neither in conflict nor failed has one digest on both sides if the source of its flow has it. -/
theorem sync_converges (shelved : w.Shelved (· ≠ .registry))
    (identity : ∀ key c, p.validate key c = .ok c) (confirmed : (force || confirm) = true)
    (first : (p.sync d m false force confirm).ends w = (result, w'))
    (second : (p.sync d m false force confirm).ends w' = (result', w'')) : ((∃ r, result = .ok r) ∨
        (∀ s k c, s ≠ .registry → w.held s k = some c → Text.IsKept k.name) →
      (∀ s, s ≠ .registry → (w''.store s).backing.still = (w'.store s).backing.still) ∧
      ∀ r', result' = .ok (.finished r') → ∀ o ∈ r'.outcomes, o.status ≠ .applied) ∧
    ∀ r, result = .ok (.finished r) → (∃ r', result' = .ok (.finished r')) ∧ ∀ i ∈ r.plan.items,
        (∀ o ∈ r.outcomes, o.item.key = i.key → o.status ≠ .conflict ∧ o.status ≠ .failed) →
        ∀ c, w'.held (endsOf i.flow).1 i.key = some c → ∃ c', w'.held (endsOf i.flow).2 i.key = some c' ∧
            Digest.ofContent c' = Digest.ofContent c := by
  obtain ⟨x, h, shelves⟩ := shelved.exists_agrees
  have tidy : ∀ s, s ≠ .registry → (x s).Tidy := fun s hs => (shelves s hs).2
  have coherent := shelved.coherent (fun _ hs => hs) p
  obtain ⟨w₁, synced, h', cached⟩ := ends_sync (fun _ hs => hs) h coherent d m false force confirm
  obtain ⟨rfl, rfl⟩ := Prod.mk.inj (synced.symm.trans first)
  obtain ⟨w₂, synced', h'', -⟩ :=
    ends_sync (fun _ hs => hs) h' (coherent.mono cached) d m false force confirm
  obtain ⟨rfl, rfl⟩ := Prod.mk.inj (synced'.symm.trans second)
  obtain ⟨stays, finishes⟩ := syncOn_again identity tidy confirmed rfl rfl
  refine ⟨fun settled => ?_, fun r finished => ⟨finishes _ finished, fun i hi settled c held => ?_⟩⟩
  · obtain ⟨alike, idle⟩ := stays (settled.imp_right fun kept s k c hs held =>
      kept s k c hs ((h.held hs k).trans held))
    refine ⟨fun s hs => ?_, idle⟩
    rw [h'.holds s hs, h''.holds s hs]
    exact congrArg Backing.shelf (alike s)
  · obtain ⟨planned, applied⟩ := syncOn_eq_finished finished (unasked_of_confirmed confirmed finished)
    obtain ⟨source, target⟩ := endsOf_ne_registry i.flow
    rw [h'.held source] at held
    rw [h'.held target]
    exact sameDigest_of_applied identity tidy planned applied hi settled held

/-- The mirror push of stores with nothing in common applies both items, and nothing when done again. -/
theorem sync_converges_crossed : ∃ r w' r' w'',
    (sync { home := default } .push .mirror false false true).ends crossed = (.ok (.finished r), w') ∧
      r.outcomes.map (·.status) = [.applied, .applied] ∧
      (sync { home := default } .push .mirror false false true).ends w' = (.ok (.finished r'), w'') ∧
      (∀ o ∈ r'.outcomes, o.status ≠ .applied) ∧
      ∀ s, s ≠ .registry → (w''.store s).backing.still = (w'.store s).backing.still := by
  obtain ⟨r, w', ended, -, statuses, -⟩ := ends_sync_crossed
  rcases again : (sync { home := default } .push .mirror false false true).ends w' with ⟨result', w''⟩
  obtain ⟨stays, finishes⟩ := sync_converges (p := { home := default }) crossed_shelved
    (fun _ _ => rfl) rfl ended again
  obtain ⟨⟨r', rfl⟩, -⟩ := finishes r rfl
  obtain ⟨same, idle⟩ := stays (.inl ⟨_, rfl⟩)
  exact ⟨r, w', r', w'', ended, statuses, again, idle r' rfl, same⟩

end Worlds

end Portfolio

end TriStore
