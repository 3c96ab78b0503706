import TriStore.Proofs.Agreement

/-!
The page of a search when nothing is kept from earlier ones: it is made from the contents of the
stores, the saved policy and the options alone.
-/
namespace TriStore

def Page.plain (page : Page) : Page := { page with cacheHits := 0 }

namespace Portfolio

open TriStore.Action
open World (Settles)

def Tour.plain (tour : Tour) : Tour := { tour with cacheHits := 0 }

/-- What the visits of the stores bring when each store gives the answer it has now. -/
def tourOf (answers : Source → Except Failure (List Hit)) (o : SearchOptions) (policy : Policy) :
    List Source → Tour → Except Failure Tour
  | [], tour => .ok tour
  | s :: rest, tour =>
    match answers s with
    | .error (.unavailable _ reason) =>
      if !policy.fallbackOnError then .error (.unavailable s reason)
      else tourOf answers o policy rest { tour with failures := tour.failures ++ [(s, reason)] }
    | .error e => .error e
    | .ok hits =>
      let tour := { tour with
        hits := tour.hits ++ [(s, hits)]
        searched := tour.searched ++ [s] }
      if !hits.isEmpty && !isExhaustive o policy then .ok tour
      else tourOf answers o policy rest tour

def policyFor (p : Portfolio) (files : FileTree) (o : SearchOptions) : Except Failure Policy := do
  let base ← (p.home.policy files p.environment).2
  o.settle.2
  return (o.apply p.searched base).2

def pageFrom (o : SearchOptions) (policy : Policy) (tour : Tour) : Except Failure Page := do
  Merge.check policy.priority tour.hits
  match o.page.count?, o.pageSize.count? with
  | some number, some size => return pageOf o policy.priority tour number size
  | _, _ => throw (Amount.refusal o.page o.pageSize)

def freshPage (p : Portfolio) (files : FileTree) (x : Source → Shelf) (query : String)
    (o : SearchOptions) : Except Failure Page := do
  let policy ← p.policyFor files o
  checkOptions o policy
  pageFrom o policy (← tourOf (answer x query o.kind) o policy policy.priority {})

theorem ends_warnAll (lines : List String) (w : World) :
    ∃ w', (warnAll lines).ends w = (.ok ⟨⟩, w') ∧ Settles w w' := by
  obtain ⟨log, warned⟩ := exists_log_warnAll lines w
  exact ⟨_, warned, .of_eq rfl rfl rfl rfl rfl, fun _ hi => hi, fun _ hi => hi, rfl, rfl⟩

theorem ends_policy (p : Portfolio) (w : World) :
    ∃ w', p.policy.ends w = ((p.home.policy w.disk.files p.environment).2, w') ∧ Settles w w' := by
  obtain ⟨w', warned, settles⟩ := ends_warnAll (p.home.policy w.disk.files p.environment).1 w
  refine ⟨w', ?_, settles⟩
  simp only [policy, ends_bind, ends_get, warned, ends_liftExcept]

theorem ends_searchPolicy (p : Portfolio) (o : SearchOptions) (w : World) :
    ∃ w', (p.searchPolicy o).ends w = (p.policyFor w.disk.files o, w') ∧ Settles w w' := by
  obtain ⟨w₁, found, settles₁⟩ := p.ends_policy w
  unfold searchPolicy policyFor
  rw [ends_bind, found]
  cases (p.home.policy w.disk.files p.environment).2 with
  | error e => exact ⟨w₁, rfl, settles₁⟩
  | ok base =>
    obtain ⟨w₂, warned₂, settles₂⟩ := ends_warnAll o.settle.1 w₁
    cases settled : o.settle.2 with
    | error e =>
      refine ⟨w₂, ?_, settles₁.trans settles₂⟩
      simp only [ends_bind, warned₂, settled, ends_liftExcept]
      rfl
    | ok _ =>
      obtain ⟨w₃, warned₃, settles₃⟩ := ends_warnAll (o.apply p.searched base).1 w₂
      refine ⟨w₃, ?_, (settles₁.trans settles₂).trans settles₃⟩
      simp only [ends_bind, warned₂, settled, ends_liftExcept, warned₃, ends_pure]
      rfl

variable {K : Source → String → Option Kind → Prop} {x : Source → Shelf} {w : World} {p : Portfolio}
  {query : String} {o : SearchOptions}

theorem ends_ask (one : OneMeaning K) (inTime : ∀ s, p.AnswersInTime (x s)) (hk : ∀ s, K s query o.kind)
    (s : Source) (h : Agrees (fun _ => True) K x w) : ∃ known w', (p.ask s query o.kind).ends w =
        (match answer x query o.kind s with
          | .ok hits => .ok (.ok (hits, known))
          | .error (.unavailable _ reason) => .ok (.error reason)
          | .error e => .error e, w') ∧
      Agrees (fun _ => True) K x w' := by
  obtain ⟨known, w', ends, h'⟩ := ends_hitsIn one h trivial (inTime s) (hk s)
  refine ⟨known, w', ?_, h'⟩
  rw [ask, ends_tryCatch, ends_bind, ends]
  cases answer x query o.kind s with
  | ok hits => rfl
  | error e => cases e <;> rfl

theorem ends_visit (one : OneMeaning K) (inTime : ∀ s, p.AnswersInTime (x s)) (hk : ∀ s, K s query o.kind)
    (policy : Policy) (order : List Source) (tour : Tour) (h : Agrees (fun _ => True) K x w) :
    ∃ r w', (p.visit query o policy order tour).ends w = (r, w') ∧
      r.map Tour.plain = tourOf (answer x query o.kind) o policy order tour.plain ∧
      Agrees (fun _ => True) K x w' := by
  induction order generalizing tour w with
  | nil => exact ⟨.ok tour, w, rfl, rfl, h⟩
  | cons s rest ih =>
    obtain ⟨known, w₁, asked, h₁⟩ := ends_ask one inTime hk s h
    rw [visit, ends_bind, asked, tourOf]
    cases found : answer x query o.kind s with
    | ok hits =>
      by_cases enough : (!hits.isEmpty && !isExhaustive o policy) = true
      · simp only [enough, if_true]
        exact ⟨_, w₁, rfl, rfl, h₁⟩
      · simp only [enough]
        exact ih _ h₁
    | error e =>
      cases e with
      | unavailable t reason =>
        by_cases fallback : policy.fallbackOnError = true
        · have h₂ := h₁.settles (warn_settles ("Skipping " ++ s.title ++ ": " ++ reason) w₁)
          simp only [fallback, Bool.not_true, Bool.false_eq_true, if_false]
          exact ih _ h₂
        · simp only [fallback, Bool.not_false, if_true]
          exact ⟨_, w₁, rfl, rfl, h₁⟩
      | _ => exact ⟨_, w₁, rfl, rfl, h₁⟩

theorem ends_pageFrom (o : SearchOptions) (policy : Policy) (tour : Tour) (w : World) : Action.ends (do
      liftExcept (Merge.check policy.priority tour.hits)
      match o.page.count?, o.pageSize.count? with
      | some number, some size => return pageOf o policy.priority tour number size
      | _, _ => throw (Amount.refusal o.page o.pageSize)) w = (pageFrom o policy tour, w) := by
  rw [ends_bind, ends_liftExcept, pageFrom]
  cases Merge.check policy.priority tour.hits with
  | error e => rfl
  | ok _ =>
    dsimp only
    split <;> rfl

theorem map_plain_pageFrom (o : SearchOptions) (policy : Policy) (tour : Tour) :
    (pageFrom o policy tour).map Page.plain = pageFrom o policy tour.plain := by
  rw [pageFrom, pageFrom]
  have hits : tour.plain.hits = tour.hits := rfl
  rw [hits]
  cases Merge.check policy.priority tour.hits with
  | error e => rfl
  | ok _ =>
    split <;> rfl

theorem ends_search (one : OneMeaning K) (inTime : ∀ s, p.AnswersInTime (x s)) (hk : ∀ s, K s query o.kind)
    (h : Agrees (fun _ => True) K x w) : ∃ r w', (p.search query o).ends w = (r, w') ∧
      r.map Page.plain = p.freshPage w.disk.files x query o ∧ Agrees (fun _ => True) K x w' := by
  obtain ⟨w₁, decided, settles⟩ := p.ends_searchPolicy o w
  have h₁ := h.settles settles
  rw [search, ends_bind, decided, freshPage]
  cases p.policyFor w.disk.files o with
  | error e => exact ⟨_, w₁, rfl, rfl, h₁⟩
  | ok policy =>
    rw [ok_bind]
    dsimp only
    rw [ends_bind, ends_liftExcept]
    cases checkOptions o policy with
    | error e => exact ⟨_, w₁, rfl, rfl, h₁⟩
    | ok _ =>
      obtain ⟨r, w₂, visited, same, h₂⟩ := ends_visit one inTime hk policy policy.priority {} h₁
      have fresh : tourOf (answer x query o.kind) o policy policy.priority {} = r.map Tour.plain :=
        same.symm
      rw [ok_bind, fresh]
      dsimp only
      rw [ends_bind, visited]
      cases r with
      | error e => exact ⟨_, w₂, rfl, rfl, h₂⟩
      | ok tour => exact ⟨_, w₂, ends_pageFrom o policy tour w₂, map_plain_pageFrom o policy tour, h₂⟩

end Portfolio

end TriStore
