import Mathlib.Data.List.Nodup
import TriStore.Proofs.FreshSearch
import TriStore.Proofs.SavedPolicy

/-!
A search as a series of rounds, one for each store that is visited.
-/
namespace TriStore
open List

/-- The store cannot be reached; the search goes on without it. -/
def Failure.IsUnavailable : Failure → Prop
  | .unavailable _ _ => True
  | _ => False

theorem Failure.IsUnavailable.exists_eq {e : Failure} (h : e.IsUnavailable) : ∃ t reason, e = .unavailable t reason := by
  cases e with
  | unavailable t reason => exact ⟨t, reason, rfl⟩
  | _ => cases h

/-- There is an answer, or the store cannot be reached. -/
def Responds {α : Type} (r : Except Failure α) : Prop := ∀ e, r = .error e → e.IsUnavailable

instance (e : Failure) : Decidable e.IsUnavailable := by
  cases e with
  | unavailable _ _ => exact isTrue trivial
  | _ => exact isFalse id

instance {α : Type} (r : Except Failure α) : Decidable (Responds r) :=
  decidable_of_iff (∀ e ∈ errorOf? r, e.IsUnavailable) (by cases r <;> simp [Responds, errorOf?])

/-- The options have the kinds that they should have. -/
structure SearchOptions.Fits (o : SearchOptions) : Prop where
  kind : o.misfits.kind = false
  page : o.page.count?.isSome = true
  size : o.pageSize.count?.isSome = true

namespace Portfolio

open TriStore.Action

structure Round where
  source : Source
  answer : Except Failure (List Hit × Bool)

def Round.searched? (x : Round) : Option Source :=
  match x.answer with
  | .ok _ => some x.source
  | .error _ => none

def Round.hits? (x : Round) : Option (Source × List Hit) :=
  match x.answer with
  | .ok (hits, _) => some (x.source, hits)
  | .error _ => none

def Round.missed? (x : Round) : Option (Source × String) :=
  match x.answer with
  | .error (.unavailable _ reason) => some (x.source, reason)
  | _ => none

/-- The world in which the visit goes on after what came of a store, unless it is over. -/
def onward? (o : SearchOptions) (policy : Policy) (s : Source) (w : World) :
    Except Failure (List Hit × Bool) → Option World
  | .ok (hits, _) => if !hits.isEmpty && !isExhaustive o policy then none else some w
  | .error (.unavailable _ reason) => some (w.note .warning ("Skipping " ++ s.title ++ ": " ++ reason))
  | .error _ => none

/-- The stores that a search visits, from a world on, with what comes of each. -/
def rounds (p : Portfolio) (query : String) (o : SearchOptions) (policy : Policy) : List Source → World → List Round
  | [], _ => []
  | s :: rest, w =>
    let r := (p.hitsIn s query o.kind).ends w
    ⟨s, r.1⟩ :: (onward? o policy s r.2 r.1).elim [] (p.rounds query o policy rest)

variable {p : Portfolio} {query : String} {o : SearchOptions} {policy : Policy} {w : World}

@[simp] theorem rounds_nil (w : World) : p.rounds query o policy [] w = [] := rfl

theorem rounds_cons (s : Source) (rest : List Source) (w : World) : p.rounds query o policy (s :: rest) w =
    ⟨s, ((p.hitsIn s query o.kind).ends w).1⟩ ::
      (onward? o policy s ((p.hitsIn s query o.kind).ends w).2 ((p.hitsIn s query o.kind).ends w).1).elim []
        (p.rounds query o policy rest) := rfl

theorem ends_ask_hitsIn (s : Source) (w : World) : (p.ask s query o.kind).ends w =
    (match ((p.hitsIn s query o.kind).ends w).1 with
      | .ok found => .ok (.ok found)
      | .error (.unavailable _ reason) => .ok (.error reason)
      | .error e => .error e, ((p.hitsIn s query o.kind).ends w).2) := by
  rw [ask, ends_tryCatch, ends_bind]
  rcases (p.hitsIn s query o.kind).ends w with ⟨e | found, w'⟩
  · cases e <;> rfl
  · rfl

/-- A tour after some more rounds. -/
structure Tour.Grows (tour : Tour) (xs : List Round) (tour' : Tour) : Prop where
  hits : tour'.hits = tour.hits ++ xs.filterMap Round.hits?
  searched : tour'.searched = tour.searched ++ xs.filterMap Round.searched?
  failures : tour'.failures = tour.failures ++ xs.filterMap Round.missed?

theorem Tour.Grows.trans {tour tour' tour'' : Tour} {xs ys : List Round} (h : tour.Grows xs tour')
    (h' : tour'.Grows ys tour'') : tour.Grows (xs ++ ys) tour'' where
  hits := by rw [h'.hits, h.hits, filterMap_append, append_assoc]
  searched := by rw [h'.searched, h.searched, filterMap_append, append_assoc]
  failures := by rw [h'.failures, h.failures, filterMap_append, append_assoc]

/-- How a visit ends: with what its rounds bring, or at the one that fails. -/
def VisitEnds (r : Except Failure Tour) (tour : Tour) (xs : List Round) : Prop :=
  (∃ tour', r = .ok tour' ∧ (∀ x ∈ xs, Responds x.answer) ∧ tour.Grows xs tour') ∨
    (∃ e, r = .error e) ∧ ∃ x ∈ xs, ¬Responds x.answer

theorem VisitEnds.cons {r : Except Failure Tour} {tour tour' : Tour} {x : Round} {xs : List Round}
    (responds : Responds x.answer) (grows : tour.Grows [x] tour') (h : VisitEnds r tour' xs) :
    VisitEnds r tour (x :: xs) := by
  rcases h with ⟨last, rfl, all, later⟩ | ⟨fails, y, hy, not⟩
  · exact .inl ⟨last, rfl, forall_mem_cons.2 ⟨responds, all⟩, grows.trans later⟩
  · exact .inr ⟨fails, y, mem_cons_of_mem x hy, not⟩

theorem visit_ends (fallback : policy.fallbackOnError = true) (order : List Source) (tour : Tour) (w : World) :
    VisitEnds ((p.visit query o policy order tour).ends w).1 tour (p.rounds query o policy order w) := by
  induction order generalizing tour w with
  | nil => exact .inl ⟨tour, rfl, by simp, by constructor <;> simp⟩
  | cons s rest ih =>
    rw [visit, ends_bind, ends_ask_hitsIn, rounds_cons]
    cases (p.hitsIn s query o.kind).ends w with | mk r w' => ?_
    cases r with
    | ok found =>
      obtain ⟨hits, known⟩ := found
      have responds : Responds (.ok (hits, known)) := fun e no => by cases no
      have grows : tour.Grows [⟨s, .ok (hits, known)⟩] { tour with
          hits := tour.hits ++ [(s, hits)]
          searched := tour.searched ++ [s]
          cacheHits := tour.cacheHits + (if known then 1 else 0) } := by
        constructor <;> simp [Round.hits?, Round.searched?, Round.missed?]
      by_cases enough : (!hits.isEmpty && !isExhaustive o policy) = true
      · simp only [onward?, enough, if_true]
        exact .inl ⟨_, rfl, by simpa using responds, grows⟩
      · simp only [onward?, enough]
        exact (ih _ w').cons responds grows
    | error e =>
      cases e with
      | unavailable t reason =>
        have responds : Responds (.error (.unavailable t reason) : Except Failure (List Hit × Bool)) := by
          intro e same
          cases same
          trivial
        have grows : tour.Grows [⟨s, .error (.unavailable t reason)⟩]
            { tour with failures := tour.failures ++ [(s, reason)] } := by
          constructor <;> simp [Round.hits?, Round.searched?, Round.missed?]
        simp only [fallback, Bool.not_true, Bool.false_eq_true, if_false]
        exact (ih _ _).cons responds grows
      | _ => exact .inr ⟨⟨_, rfl⟩, _, (.head _), fun responds => responds _ rfl⟩

theorem rounds_sources (order : List Source) (w : World) :
    (p.rounds query o policy order w).map (·.source) <+: order := by
  induction order generalizing w with
  | nil => exact prefix_refl _
  | cons s rest ih =>
    refine cons_prefix_cons.2 ⟨rfl, ?_⟩
    cases onward? o policy s ((p.hitsIn s query o.kind).ends w).2 ((p.hitsIn s query o.kind).ends w).1 with
    | none => exact nil_prefix
    | some w' => exact ih w'

theorem searched_or_missed {xs : List Round} (nodup : (xs.map (·.source)).Nodup) {x : Round} (hx : x ∈ xs)
    (responds : Responds x.answer) :
    (x.source ∈ xs.filterMap Round.searched? ∧ x.source ∉ (xs.filterMap Round.missed?).map (·.1)) ∨
      (x.source ∉ xs.filterMap Round.searched? ∧ x.source ∈ (xs.filterMap Round.missed?).map (·.1)) := by
  have only (y : Round) (hy : y ∈ xs) (same : y.source = x.source) : y = x :=
    inj_on_of_nodup_map nodup hy hx same
  have missed (y : Round) (pair : Source × String) (was : y.missed? = some pair) :
      pair.1 = y.source ∧ y.searched? = none := by
    unfold Round.missed? at was
    unfold Round.searched?
    split at was
    · next failed => cases was; simp [failed]
    · cases was
  have searched (y : Round) (s : Source) (was : y.searched? = some s) : s = y.source := by
    unfold Round.searched? at was
    split at was <;> cases was
    rfl
  cases answer : x.answer with
  | ok found =>
    have here : x.searched? = some x.source := by rw [Round.searched?, answer]
    refine .inl ⟨mem_filterMap.2 ⟨x, hx, here⟩, fun there => ?_⟩
    obtain ⟨pair, listed, same⟩ := mem_map.1 there
    obtain ⟨y, hy, was⟩ := mem_filterMap.1 listed
    obtain ⟨of, none⟩ := missed y pair was
    rw [only y hy (of ▸ same), here] at none
    cases none
  | error e =>
    have far := responds e answer
    cases e with
    | unavailable t reason =>
      have here : x.missed? = some (x.source, reason) := by rw [Round.missed?, answer]
      refine .inr ⟨fun there => ?_, mem_map.2 ⟨_, mem_filterMap.2 ⟨x, hx, here⟩, rfl⟩⟩
      obtain ⟨y, hy, was⟩ := mem_filterMap.1 there
      rw [only y hy (searched y _ was).symm, (missed x _ here).2] at was
      cases was
    | _ => exact far.elim

theorem nodup_apply {base : Policy} (there : List Source) (h : base.priority.Nodup) :
    (o.apply there base).2.priority.Nodup := by
  have ordered : (if o.priority.isEmpty then ([], base) else base.order o.priority).2.priority.Nodup := by
    split
    · exact h
    · exact Policy.nodup_order h o.priority
  unfold SearchOptions.apply
  cases o.preferred with
  | none => exact ordered.filter _
  | some s => exact Policy.nodup_prefer (ordered.filter _) s

theorem nodup_policyFor {files : FileTree} (found : p.policyFor files o = .ok policy) : policy.priority.Nodup := by
  obtain ⟨base, read, found⟩ := bind_eq_ok.1 found
  obtain ⟨-, -, found⟩ := bind_eq_ok.1 found
  cases found
  have usable : base.Usable := by
    refine Policy.usable_of_base (fun l hl q said => ?_) read
    rw [Policy.layersOf_eq] at hl
    simp only [mem_cons, not_mem_nil, or_false] at hl
    rcases hl with rfl | rfl
    · rw [Policy.policy_load] at said
      obtain ⟨v, -, said⟩ := bind_eq_ok.1 said
      exact Policy.usable_of_ofRaw (Policy.policy_raw_eq_iff.1 said)
    · unfold Policy.environmentLayer at said
      cases text : Policy.environmentText? p.environment with
      | none => rw [text] at said; cases said
      | some s => rw [text] at said; exact Policy.usable_of_ofRaw (Policy.policy_raw_eq_iff.1 said)
  exact nodup_apply p.searched usable.2

theorem ends_searchPolicy_log (p : Portfolio) (o : SearchOptions) (w : World) :
    ∃ log, (p.searchPolicy o).ends w = (p.policyFor w.disk.files o, { w with log }) := by
  obtain ⟨log₁, warned₁⟩ := exists_log_warnAll (p.home.policy w.disk.files p.environment).1 w
  unfold searchPolicy policyFor
  rw [ends_bind, Portfolio.policy, ends_bind, ends_get]
  dsimp only
  rw [ends_bind, warned₁]
  dsimp only
  rw [ends_liftExcept]
  cases (p.home.policy w.disk.files p.environment).2 with
  | error e => exact ⟨log₁, rfl⟩
  | ok base =>
    obtain ⟨log₂, warned₂⟩ := exists_log_warnAll o.settle.1 { w with log := log₁ }
    dsimp only
    rw [ends_bind, warned₂]
    dsimp only
    rw [ends_bind, ends_liftExcept]
    cases o.settle.2 with
    | error e => exact ⟨log₂, rfl⟩
    | ok _ =>
      obtain ⟨log₃, warned₃⟩ := exists_log_warnAll (o.apply p.searched base).1 { w with log := log₂ }
      dsimp only
      rw [ends_bind, warned₃]
      exact ⟨log₃, rfl⟩

def roundsOf (p : Portfolio) (query : String) (o : SearchOptions) (policy : Policy) (w : World) : List Round :=
  p.rounds query o policy policy.priority ((p.searchPolicy o).ends w).2

/-- A page of what the rounds of a search bring, when every store responds and the versions found can be
compared, and else a failure. -/
def SearchEnds (r : Except Failure Page) (order : List Source) (xs : List Round) : Prop :=
  (∃ page, r = .ok page ∧ (∀ x ∈ xs, Responds x.answer) ∧ Merge.check order (xs.filterMap Round.hits?) = .ok () ∧
      page.searched = xs.filterMap Round.searched? ∧ page.failures = xs.filterMap Round.missed?) ∨
    (∃ e, r = .error e) ∧ ¬((∀ x ∈ xs, Responds x.answer) ∧ Merge.check order (xs.filterMap Round.hits?) = .ok ())

namespace SearchEnds

variable {r : Except Failure Page} {order : List Source} {xs : List Round}

theorem exists_page_iff (h : SearchEnds r order xs) : (∃ page, r = .ok page) ↔
    (∀ x ∈ xs, Responds x.answer) ∧ Merge.check order (xs.filterMap Round.hits?) = .ok () := by
  rcases h with ⟨page, is, respond, checked, -⟩ | ⟨⟨e, fails⟩, not⟩
  · exact ⟨fun _ => ⟨respond, checked⟩, fun _ => ⟨page, is⟩⟩
  · refine ⟨fun ⟨page, is⟩ => ?_, fun h => absurd h not⟩
    rw [fails] at is
    cases is

theorem page_eq {page : Page} (h : SearchEnds r order xs) (is : r = .ok page) :
    page.searched = xs.filterMap Round.searched? ∧ page.failures = xs.filterMap Round.missed? := by
  rcases h with ⟨page', is', -, -, lists⟩ | ⟨⟨e, fails⟩, -⟩
  · cases is.symm.trans is'
    exact lists
  · rw [fails] at is
    cases is

end SearchEnds

theorem checkOptions_of_fits (fits : o.Fits) (policy : Policy) : checkOptions o policy = .ok () := by
  have ordered {a : Amount} (h : a.count?.isSome = true) : a.isOrdered = true := by
    cases a with
    | other => cases h
    | _ => rfl
  simp [checkOptions, ordered fits.page, ordered fits.size, fits.kind, pure, Except.pure]

theorem search_ends (fits : o.Fits) (found : p.policyFor w.disk.files o = .ok policy)
    (fallback : policy.fallbackOnError = true) :
    SearchEnds ((p.search query o).ends w).1 policy.priority (p.roundsOf query o policy w) := by
  obtain ⟨log, decided⟩ := p.ends_searchPolicy_log o w
  rw [found] at decided
  unfold search roundsOf
  rw [ends_bind, decided]
  dsimp only
  rw [ends_bind, ends_liftExcept, checkOptions_of_fits fits]
  dsimp only
  rw [ends_bind]
  have visited : VisitEnds ((p.visit query o policy policy.priority {}).ends { w with log }).1 {}
      (p.rounds query o policy policy.priority { w with log }) := visit_ends fallback _ _ _
  generalize p.rounds query o policy policy.priority { w with log } = xs at visited ⊢
  revert visited
  cases (p.visit query o policy policy.priority {}).ends { w with log } with | mk r w' => ?_
  intro visited
  rcases visited with ⟨tour, rfl, all, grows⟩ | ⟨⟨e, rfl⟩, x, hx, not⟩
  · suffices page : SearchEnds (pageFrom o policy tour) policy.priority xs by
      exact (congrArg (fun r => SearchEnds r.1 policy.priority xs) (ends_pageFrom o policy tour w')).mpr page
    rw [pageFrom, grows.hits, nil_append]
    cases checked : Merge.check policy.priority (xs.filterMap Round.hits?) with
    | error e =>
      refine .inr ⟨⟨e, rfl⟩, fun h => ?_⟩
      rw [checked] at h
      cases h.2
    | ok _ =>
      obtain ⟨number, number_eq⟩ := Option.isSome_iff_exists.1 fits.page
      obtain ⟨size, size_eq⟩ := Option.isSome_iff_exists.1 fits.size
      rw [number_eq, size_eq]
      exact .inl ⟨_, rfl, all, checked, grows.searched, grows.failures⟩
  · exact .inr ⟨⟨e, rfl⟩, fun h => not (h.1 x hx)⟩

end Portfolio

end TriStore
