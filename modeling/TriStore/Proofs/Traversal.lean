import TriStore.Proofs.GracefulSearch
import TriStore.Proofs.Locality

/-!
A search visits stores in the order of its policy, up to the first with hits or one that cannot be passed
over.
-/
namespace TriStore
open List

/-- A list up to the first member of some kind, and with it. -/
def upTo {α : Type} (q : α → Bool) : List α → List α
  | [] => []
  | a :: l => a :: if q a then [] else upTo q l

section UpTo

variable {α : Type} {q : α → Bool} {l : List α}

theorem isPrefix_upTo (q : α → Bool) (l : List α) : upTo q l <+: l := by
  induction l with
  | nil => exact prefix_rfl
  | cons a l ih =>
    refine cons_prefix_cons.2 ⟨rfl, ?_⟩
    split
    · exact nil_prefix
    · exact ih

theorem eq_nil_of_upTo {front back : List α} {a : α} (h : upTo q l = front ++ a :: back)
    (ha : q a = true) : back = [] := by
  induction l generalizing front with
  | nil => simp [upTo] at h
  | cons b l ih =>
    cases front with
    | nil =>
      obtain ⟨rfl, rest⟩ := List.cons.inj h
      rw [if_pos ha] at rest
      exact rest.symm
    | cons c front =>
      have h := (List.cons.inj h).2
      split at h
      · simp at h
      · exact ih h

end UpTo

/-- The order of a search: that of the policy, or a proper one that the call gives; of this the stores that
take part and are there, the preferred one first. -/
def SearchOptions.effectiveOrder (o : SearchOptions) (priority there : List Source) : List Source :=
  let order := if o.priority ≠ [] ∧ o.priority.Nodup then o.priority else priority
  let active := order.filter fun s => o.includes s && there.contains s
  match o.preferred with
  | none => active
  | some s => if active.contains s then s :: active.filter (· != s) else active

namespace Portfolio

variable {tour : Tour} {x : Round} {xs : List Round} {s : Source} {reason : String}

open TriStore.Action

variable {p : Portfolio} {query : String} {o : SearchOptions} {policy : Policy} {w : World}

theorem snd_apply (o : SearchOptions) (there : List Source) (base : Policy) : ∃ origin,
    (o.apply there base).2 = { base with priority := o.effectiveOrder base.priority there, origin } := by
  have ordered : ∃ origin, (if o.priority.isEmpty then ([], base) else base.order o.priority).2 = { base with
        priority := if o.priority ≠ [] ∧ o.priority.Nodup then o.priority else base.priority
        origin } := by
    by_cases none : o.priority = []
    · exact ⟨base.origin, by simp [none]⟩
    · rw [if_neg (by simpa using none), Policy.snd_order]
      by_cases once : o.priority.Nodup
      · exact ⟨"call", by simp [none, once, Policy.withOrder]⟩
      · exact ⟨base.origin, by simp [once]⟩
  obtain ⟨origin, ordered⟩ := ordered
  unfold SearchOptions.apply SearchOptions.effectiveOrder
  dsimp only
  rw [ordered]
  cases o.preferred with
  | none => exact ⟨origin, rfl⟩
  | some s =>
    dsimp only [Policy.prefer]
    generalize List.filter _ _ = active
    by_cases active.contains s = true
    · exact ⟨"call", by simp_all [Policy.withOrder]⟩
    · exact ⟨origin, by simp_all⟩

theorem exists_base_of_policyFor {files : FileTree} (found : p.policyFor files o = .ok policy) :
    ∃ base, (p.home.policy files p.environment).2 = .ok base ∧ policy = { base with
      priority := o.effectiveOrder base.priority p.searched, origin := policy.origin } := by
  obtain ⟨base, read, found⟩ := bind_eq_ok.1 found
  obtain ⟨_, -, found⟩ := bind_eq_ok.1 found
  obtain ⟨origin, applied⟩ := snd_apply o p.searched base
  have same := (Except.ok.inj found).symm.trans applied
  exact ⟨base, read, by rw [same]⟩

/-- The visit is over with the round: there are hits and not all stores are wanted, or the store cannot be
reached and not be passed over, or it fails otherwise. -/
def Round.isLast (o : SearchOptions) (policy : Policy) (x : Round) : Bool :=
  match x.answer with
  | .ok (hits, _) => !hits.isEmpty && !isExhaustive o policy
  | .error (.unavailable _ _) => !policy.fallbackOnError
  | .error _ => true

def Round.isKnown (x : Round) : Bool :=
  match x.answer with
  | .ok (_, known) => known
  | .error _ => false

def visits (p : Portfolio) (query : String) (o : SearchOptions) (policy : Policy) (order : List Source)
    (w : World) : List Round :=
  upTo (Round.isLast o policy) (p.rounds query o policy order w)

def visitsOf (p : Portfolio) (query : String) (o : SearchOptions) (policy : Policy) (w : World) : List Round :=
  p.visits query o policy policy.priority ((p.searchPolicy o).ends w).2

def afterRound (s : Source) (r : Except Failure (List Hit × Bool) × World) : World :=
  match r.1 with
  | .error (.unavailable _ reason) => r.2.note .warning ("Skipping " ++ s.title ++ ": " ++ reason)
  | _ => r.2

@[simp] theorem visits_nil (w : World) : p.visits query o policy [] w = [] := rfl

theorem visits_cons (s : Source) (rest : List Source) (w : World) : p.visits query o policy (s :: rest) w =
      ⟨s, ((p.hitsIn s query o.kind).ends w).1⟩ ::
        if Round.isLast o policy ⟨s, ((p.hitsIn s query o.kind).ends w).1⟩ then []
        else p.visits query o policy rest (afterRound s ((p.hitsIn s query o.kind).ends w)) := by
  unfold visits
  rw [rounds_cons]
  generalize (p.hitsIn s query o.kind).ends w = ended
  obtain ⟨answer, w'⟩ := ended
  cases answer with
  | ok found =>
    rw [upTo]
    by_cases last : (!found.1.isEmpty && !isExhaustive o policy) = true
    · simp [Round.isLast, last]
    · simp [Round.isLast, onward?, afterRound, last]
  | error e => cases e <;> rfl

theorem visits_sources (order : List Source) (w : World) :
    (p.visits query o policy order w).map (·.source) <+: order :=
  ((isPrefix_upTo _ _).map _).trans (rounds_sources order w)

theorem visits_whole (order : List Source) (w : World)
    (onward : ∀ x ∈ p.visits query o policy order w, x.isLast o policy = false) :
    (p.visits query o policy order w).map (·.source) = order := by
  induction order generalizing w with
  | nil => rfl
  | cons s rest ih =>
    rw [visits_cons] at onward ⊢
    obtain ⟨here, later⟩ := forall_mem_cons.1 onward
    rw [here, if_neg Bool.false_ne_true] at later ⊢
    rw [map_cons, ih _ later]

def Tour.grow (tour : Tour) (xs : List Round) : Tour where
  hits := tour.hits ++ xs.filterMap Round.hits?
  searched := tour.searched ++ xs.filterMap Round.searched?
  failures := tour.failures ++ xs.filterMap Round.missed?
  cacheHits := tour.cacheHits + xs.countP Round.isKnown

@[simp] theorem Tour.grow_nil (tour : Tour) : tour.grow [] = tour := by
  simp [Tour.grow]

theorem Tour.grow_append (tour : Tour) (xs ys : List Round) : tour.grow (xs ++ ys) = (tour.grow xs).grow ys := by
  simp [Tour.grow, Nat.add_assoc]

/-- What a visit comes to where every store responds: all that its rounds bring, or the first store that
cannot be reached nor passed over. -/
def settled (policy : Policy) (tour : Tour) (xs : List Round) : Except Failure Tour :=
  match if policy.fallbackOnError then none else xs.findSome? Round.missed? with
  | some (s, reason) => .error (.unavailable s reason)
  | none => .ok (tour.grow xs)

theorem settled_cons (onward : x.isLast o policy = false) :
    settled policy tour (x :: xs) = settled policy (tour.grow [x]) xs := by
  have grown : tour.grow (x :: xs) = (tour.grow [x]).grow xs := tour.grow_append [x] xs
  unfold settled
  by_cases fallback : policy.fallbackOnError = true
  · simp only [fallback, if_true, grown]
  · have answered : x.missed? = none := by
      unfold Round.isLast at onward
      unfold Round.missed?
      split <;> simp_all
    simp only [fallback, List.findSome?_cons, answered, grown]

theorem ends_visit_cons {rest : List Source} {w w' : World} {answer : Except Failure (List Hit × Bool)}
    (ended : (p.hitsIn s query o.kind).ends w = (answer, w')) (responds : Responds answer) :
    (p.visit query o policy (s :: rest) tour).ends w =
      if Round.isLast o policy ⟨s, answer⟩ then (settled policy tour [⟨s, answer⟩], w')
      else (p.visit query o policy rest (tour.grow [⟨s, answer⟩])).ends (afterRound s (answer, w')) := by
  rw [visit, ends_bind, ends_ask_hitsIn, ended]
  cases answer with
  | ok found =>
    obtain ⟨hits, known⟩ := found
    have grown : tour.grow [⟨s, .ok (hits, known)⟩] = { tour with
        hits := tour.hits ++ [(s, hits)]
        searched := tour.searched ++ [s]
        cacheHits := tour.cacheHits + (if known then 1 else 0) } := by
      cases known <;>
        simp [Tour.grow, Round.hits?, Round.searched?, Round.missed?, Round.isKnown, filterMap_cons]
    have done : settled policy tour [⟨s, .ok (hits, known)⟩] = .ok (tour.grow [⟨s, .ok (hits, known)⟩]) := by
      simp [settled, Round.missed?]
    rw [done, grown]
    by_cases last : (!hits.isEmpty && !isExhaustive o policy) = true
    · simp only [Round.isLast, last, if_true]
      rfl
    · simp only [Round.isLast, last]
      rfl
  | error e =>
    cases e with
    | unavailable t reason =>
      have grown : tour.grow [⟨s, .error (.unavailable t reason)⟩] =
          { tour with failures := tour.failures ++ [(s, reason)] } := by
        simp [Tour.grow, Round.hits?, Round.searched?, Round.missed?, Round.isKnown, filterMap_cons]
      by_cases fallback : policy.fallbackOnError = true
      · rw [grown]
        simp only [Round.isLast, fallback]
        rfl
      · have done : settled policy tour [⟨s, .error (.unavailable t reason)⟩] = .error (.unavailable s reason) := by
          simp [settled, fallback, Round.missed?]
        rw [done]
        simp only [Round.isLast, fallback]
        rfl
    | _ => exact (responds _ rfl).elim

theorem fst_ends_visit (order : List Source) (tour : Tour) (w : World)
    (responds : ∀ x ∈ p.visits query o policy order w, Responds x.answer) :
    ((p.visit query o policy order tour).ends w).1 = settled policy tour (p.visits query o policy order w) := by
  induction order generalizing tour w with
  | nil => simp [visit, settled]
  | cons s rest ih =>
    rw [visits_cons] at responds ⊢
    cases ended : (p.hitsIn s query o.kind).ends w with | mk answer w' => ?_
    rw [ended] at responds
    obtain ⟨here, later⟩ := forall_mem_cons.1 responds
    rw [ends_visit_cons ended here]
    cases last : Round.isLast o policy ⟨s, answer⟩ with
    | true => rfl
    | false =>
      rw [last, if_neg Bool.false_ne_true] at later
      exact (ih _ _ later).trans (settled_cons last).symm

theorem visit_local {V : Source → Prop} (order : List Source) (tour : Tour) (w : World)
    (covers : ∀ x ∈ p.visits query o policy order w, V x.source) :
    LocalAt (World.scope V) (p.visit query o policy order tour) w := by
  induction order generalizing tour w with
  | nil => exact .pure _
  | cons s rest ih =>
    rw [visits_cons] at covers
    obtain ⟨here, later⟩ := forall_mem_cons.1 covers
    refine (ask_local here query o.kind w).bind_of_ok fun found result => ?_
    have asked : (ExceptT.run (p.ask s query o.kind) w) = (p.ask s query o.kind).ends w := rfl
    rw [asked, ends_ask_hitsIn] at result ⊢
    generalize (p.hitsIn s query o.kind).ends w = ended at later result ⊢
    obtain ⟨answer, w'⟩ := ended
    cases answer with
    | ok answer =>
      obtain ⟨hits, known⟩ := answer
      cases result
      dsimp only
      split
      · exact .pure _
      · next onward =>
        simp only [Round.isLast, onward] at later
        exact ih _ _ later
    | error e =>
      cases e with
      | unavailable t reason =>
        cases result
        by_cases fallback : policy.fallbackOnError = true
        · simp only [Round.isLast, fallback] at later
          simp only [fallback, Bool.not_true, Bool.false_eq_true, if_false]
          exact (warn_local _ w').bind fun _ => ih _ _ later
        · simp only [fallback, Bool.not_false, if_true]
          exact .throw_bind _ _
      | _ => cases result

theorem lists_of_pageFrom {page : Page} (h : pageFrom o policy tour = .ok page) :
    page.searched = tour.searched ∧ page.failures = tour.failures := by
  obtain ⟨_, -, h⟩ := bind_eq_ok.1 h
  split at h
  · cases h
    exact ⟨rfl, rfl⟩
  · cases h

theorem source_of_missed? (h : x.missed? = some (s, reason)) :
    s = x.source ∧ ∃ t, x.answer = .error (.unavailable t reason) := by
  unfold Round.missed? at h
  split at h
  · next t reason' failed =>
    cases h
    exact ⟨rfl, t, failed⟩
  · cases h

theorem isLast_of_missed? (h : x.missed? = some (s, reason)) : x.isLast o policy = !policy.fallbackOnError := by
  obtain ⟨-, t, failed⟩ := source_of_missed? h
  rw [Round.isLast, failed]

theorem isLast_of_responds (responds : Responds x.answer) (every : isExhaustive o policy = true)
    (fallback : policy.fallbackOnError = true) : x.isLast o policy = false := by
  unfold Round.isLast
  split
  · simp [every]
  · simp [fallback]
  · next e other failed =>
    have far := responds e failed
    cases e with
    | unavailable t reason => exact absurd rfl (other t reason)
    | _ => exact far.elim

theorem settled_eq_ok (h : policy.fallbackOnError = true ∨ ∀ x ∈ xs, x.missed? = none) :
    settled policy tour xs = .ok (tour.grow xs) := by
  unfold settled
  rcases h with fallback | none
  · rw [if_pos fallback]
  · rw [List.findSome?_eq_none_iff.2 none, ite_self]

theorem eq_grow_of_settled {tour tour' : Tour} (h : settled policy tour xs = .ok tour') : tour' = tour.grow xs := by
  unfold settled at h
  split at h
  · cases h
  · exact (Except.ok.inj h).symm

theorem settled_eq_error {front : List Round}
    (fallback : policy.fallbackOnError = false) (missed : x.missed? = some (s, reason))
    (last : ∀ front' y back, front ++ [x] = front' ++ y :: back → y.isLast o policy = true → back = []) :
    settled policy tour (front ++ [x]) = .error (.unavailable s reason) := by
  have before : front.findSome? Round.missed? = none := by
    rw [List.findSome?_eq_none_iff]
    intro y hy
    by_contra there
    obtain ⟨⟨t, why⟩, missed'⟩ := Option.ne_none_iff_exists'.1 there
    obtain ⟨front', back, rfl⟩ := append_of_mem hy
    have none := last front' y (back ++ [x]) (by rw [append_assoc, cons_append])
      (by rw [isLast_of_missed? missed', fallback]; rfl)
    simp at none
  unfold settled
  rw [fallback, List.findSome?_append, before]
  simp [missed]

theorem search_visit_local (p : Portfolio) (query : String) (o : SearchOptions) (policy : Policy) (w : World) :
    LocalAt (World.scope (· ∈ (p.visitsOf query o policy w).map (·.source)))
      (p.visit query o policy policy.priority {}) ((p.searchPolicy o).ends w).2 :=
  visit_local _ _ _ fun _ hx => mem_map_of_mem hx

section Search

variable (query : String) (found : p.policyFor w.disk.files o = .ok policy)
  (checked : checkOptions o policy = .ok ())

include found checked

theorem ends_search_of_visit : (p.search query o).ends w =
      (((p.visit query o policy policy.priority {}).ends ((p.searchPolicy o).ends w).2).1 >>= pageFrom o policy,
        ((p.visit query o policy policy.priority {}).ends ((p.searchPolicy o).ends w).2).2) := by
  obtain ⟨log, decided⟩ := p.ends_searchPolicy_log o w
  rw [found] at decided
  unfold search
  rw [ends_bind, decided]
  dsimp only
  rw [ends_bind, ends_liftExcept, checked]
  dsimp only
  rw [ends_bind]
  cases (p.visit query o policy policy.priority {}).ends { w with log } with | mk r w' => ?_
  cases r with
  | error e => rfl
  | ok tour => exact ends_pageFrom o policy tour w'

theorem fst_ends_search (responds : ∀ x ∈ p.visitsOf query o policy w, Responds x.answer) :
    ((p.search query o).ends w).1 = settled policy {} (p.visitsOf query o policy w) >>= pageFrom o policy := by
  rw [ends_search_of_visit query found checked]
  exact congrArg (· >>= pageFrom o policy) (fst_ends_visit _ _ _ responds)

theorem store_search {s : Source} (hs : s ∉ (p.visitsOf query o policy w).map (·.source)) :
    ((p.search query o).ends w).2.store s = w.store s := by
  obtain ⟨log, decided⟩ := p.ends_searchPolicy_log o w
  rw [ends_search_of_visit query found checked]
  refine ((p.search_visit_local query o policy w).spares s hs).trans ?_
  rw [decided]
  cases s <;> rfl

theorem exists_sent_search : ∃ more, ((p.search query o).ends w).2.web.sent = w.web.sent ++ more ∧
    ∀ w', p.policyFor w'.disk.files o = .ok policy →
      World.Alike (· ∈ (p.visitsOf query o policy w).map (·.source)) (· ∈ more) w w' →
        ((p.search query o).ends w').1 = ((p.search query o).ends w).1 := by
  obtain ⟨log, decided⟩ := p.ends_searchPolicy_log o w
  obtain ⟨more, grows, same⟩ := (p.search_visit_local query o policy w).same
  refine ⟨more, ?_, fun w' found' alike => ?_⟩
  · rw [ends_search_of_visit query found checked]
    refine grows.trans ?_
    rw [decided]
    rfl
  · obtain ⟨log', decided'⟩ := p.ends_searchPolicy_log o w'
    rw [ends_search_of_visit query found checked, ends_search_of_visit query found' checked]
    refine congrArg (· >>= pageFrom o policy) (same _ _ ?_ fun r hr => hr).1
    rw [decided, decided']
    exact alike.setLog log log'

end Search

/-- The rounds that a search takes, what they come to, and that the other stores have no part in it. -/
structure Traverses (p : Portfolio) (query : String) (o : SearchOptions) (policy : Policy) (w : World)
    (xs : List Round) : Prop where
  /-- The order is the effective one; all else is as the policy in force has it. -/
  order : ∃ base, (p.home.policy w.disk.files p.environment).2 = .ok base ∧ policy = { base with
    priority := o.effectiveOrder base.priority p.searched, origin := policy.origin }
  /-- The stores that are visited stand first in it, each of them once. -/
  begins : xs.map (·.source) <+: policy.priority
  once : (xs.map (·.source)).Nodup
  /-- Nothing follows the round with which it is over; without one all stores are visited. -/
  last : ∀ front x back, xs = front ++ x :: back → x.isLast o policy = true → back = []
  whole : (∀ x ∈ xs, x.isLast o policy = false) → xs.map (·.source) = policy.priority
  every : isExhaustive o policy = true → policy.fallbackOnError = true → xs.map (·.source) = policy.priority
  /-- The page is made of what the rounds bring, and each store is on just one of its lists. -/
  page : policy.fallbackOnError = true ∨ (∀ x ∈ xs, x.missed? = none) →
    ((p.search query o).ends w).1 = pageFrom o policy (Tour.grow {} xs)
  listed : ∀ page, ((p.search query o).ends w).1 = .ok page →
    page.searched = xs.filterMap Round.searched? ∧ page.failures = xs.filterMap Round.missed? ∧
      ∀ x ∈ xs, OnOne x.source page.searched page.failures
  /-- Where no store may be passed over, the first out of reach is the failure, and the last one visited. -/
  raised : policy.fallbackOnError = false → ∀ x ∈ xs, ∀ s reason, x.missed? = some (s, reason) →
    (xs.map (·.source)).getLast? = some s ∧ ((p.search query o).ends w).1 = .error (.unavailable s reason)
  /-- The other stores stay as they are, and what they hold, or would reply, makes no difference. -/
  untouched : ∀ s ∉ xs.map (·.source), ((p.search query o).ends w).2.store s = w.store s
  independent : ∃ more, ((p.search query o).ends w).2.web.sent = w.web.sent ++ more ∧
    ∀ w', p.policyFor w'.disk.files o = .ok policy → World.Alike (· ∈ xs.map (·.source)) (· ∈ more) w w' →
      ((p.search query o).ends w').1 = ((p.search query o).ends w).1

/-- In whatever order and under whatever policy, a search visits the stores up to the first at which it is
over, each once, and makes its page of what they bring. The stores beyond stay as they are, and what they hold
makes no difference. -/
theorem search_traverses (query : String) (found : p.policyFor w.disk.files o = .ok policy)
    (checked : checkOptions o policy = .ok ())
    (responds : ∀ x ∈ p.visitsOf query o policy w, Responds x.answer) :
    Traverses p query o policy w (p.visitsOf query o policy w) := by
  have result := fst_ends_search query found checked responds
  have begins : (p.visitsOf query o policy w).map (·.source) <+: policy.priority := visits_sources _ _
  have once : ((p.visitsOf query o policy w).map (·.source)).Nodup :=
    begins.sublist.nodup (nodup_policyFor found)
  have last : ∀ front x back, p.visitsOf query o policy w = front ++ x :: back →
      x.isLast o policy = true → back = [] := fun _ _ _ is => eq_nil_of_upTo is
  have whole : (∀ x ∈ p.visitsOf query o policy w, x.isLast o policy = false) →
      (p.visitsOf query o policy w).map (·.source) = policy.priority := visits_whole _ _
  refine ⟨exists_base_of_policyFor found, begins, once, last, whole, fun every fallback => ?_, fun h => ?_,
    fun page is => ?_, fun fallback x hx s reason missed => ?_, fun s => store_search query found checked,
    exists_sent_search query found checked⟩
  · exact whole fun x hx => isLast_of_responds (responds x hx) every fallback
  · rw [result, settled_eq_ok h]
    rfl
  · obtain ⟨tour, made, is⟩ := bind_eq_ok.1 (result.symm.trans is)
    obtain ⟨searched, failures⟩ := lists_of_pageFrom is
    rw [searched, failures, eq_grow_of_settled made]
    exact ⟨nil_append _, nil_append _, fun x hx => searched_or_missed once hx (responds x hx)⟩
  · obtain ⟨front, back, is⟩ := append_of_mem hx
    obtain rfl := last front x back is (by rw [isLast_of_missed? missed, fallback]; rfl)
    rw [is] at result last ⊢
    rw [result, settled_eq_error fallback missed last, (source_of_missed? missed).1]
    exact ⟨by simp, rfl⟩

section Example

def deafShelf : Shelf :=
  { source := .home, writable := true, failure := some (.unavailable .home "connection refused") }

/-- The store here is out of reach, and the remote one has an element that the registry may have too. -/
def dimWorld (registry : Shelf) : World where
  home := { backing := .shelf deafShelf }
  remote := { backing := .shelf { source := .remote, writable := true, contents := [(⟨.persona, "a"⟩, "x")] } }
  registry := { backing := .shelf registry }
  results := Cache.ofPreset .search

def bareRegistry : Shelf := { source := .registry, writable := false }

def fullRegistry : Shelf := { bareRegistry with contents := [(⟨.persona, "a"⟩, "y")] }

/-- Past a store out of reach to one with a hit: what the registry holds is never looked at. -/
theorem search_traverses_dim :
    (untimed.visitsOf "a" {} {} (dimWorld bareRegistry)).map (·.source) = [.home, .remote] ∧
      ((untimed.search "a" {}).ends (dimWorld bareRegistry)).2.store .registry =
        (dimWorld bareRegistry).store .registry ∧ ((untimed.search "a" {}).ends (dimWorld fullRegistry)).1 =
        ((untimed.search "a" {}).ends (dimWorld bareRegistry)).1 := by
  have decided : untimed.policyFor (dimWorld bareRegistry).disk.files {} = .ok {} :=
    eq_ok_of_toOption (by decide +kernel)
  have decided' : untimed.policyFor (dimWorld fullRegistry).disk.files {} = .ok {} :=
    eq_ok_of_toOption (by decide +kernel)
  obtain ⟨visited, answered⟩ : (untimed.visitsOf "a" {} {} (dimWorld bareRegistry)).map (·.source) = [.home, .remote] ∧
      (untimed.visitsOf "a" {} {} (dimWorld bareRegistry)).all (decide <| Responds ·.answer) = true := by decide +kernel
  have traverses : Traverses untimed "a" {} {} (dimWorld bareRegistry) _ :=
    search_traverses "a" decided (checkOptions_of_fits ⟨rfl, rfl, rfl⟩ {}) fun x hx =>
      of_decide_eq_true (all_eq_true.1 answered x hx)
  obtain ⟨more, -, same⟩ := traverses.independent
  refine ⟨visited, traverses.untouched .registry (by rw [visited]; decide), same _ decided' ?_⟩
  rw [visited]
  refine ⟨fun s hs => ?_, fun s f hs _ => rfl, fun r _ => rfl, rfl, rfl, rfl, rfl, rfl, rfl⟩
  cases s with
  | registry => simp at hs
  | _ => rfl

end Example

end Portfolio

end TriStore
