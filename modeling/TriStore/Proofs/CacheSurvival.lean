import Mathlib.Data.List.Nodup
import Mathlib.Data.List.Perm.Subperm
import TriStore.Proofs.CacheAccounts
import TriStore.Proofs.Rounding

/-!
What stays in a cache. The items stand in the order of their last use, so behind an item there are
only items whose keys were named since.
-/
namespace TriStore.Cache
open List

variable {keys keys' named' : List String} {α : Type}

def Use.now : Use α → Binary64
  | .get now _ | .set now _ _ _ => now

def Use.key : Use α → String
  | .get _ key | .set _ key _ _ => key

/-- A use and whether it succeeded: the look found a value, the set was taken. -/
structure Event (α : Type) where
  use : Use α
  success : Bool
  deriving DecidableEq

def apply (c : Cache String α) : Use α → Bool × Cache String α
  | .get now key => ((c.get now key).1.isSome, (c.get now key).2.2)
  | .set now key value size => ((c.set now key value size).1, (c.set now key value size).2.2)

def trace (c : Cache String α) : List (Use α) → List (Event α) × Cache String α
  | [] => ([], c)
  | u :: us =>
    let later := (c.apply u).2.trace us
    (⟨u, (c.apply u).1⟩ :: later.1, later.2)

/-- The other keys named since a key was last used with success, after one more event. -/
def Event.rivals (key : String) (named : List String) (e : Event α) : List String :=
  if e.use.key = key then (if e.success then [] else named) else named.insert e.use.key

def rivals (key : String) (events : List (Event α)) : List String :=
  events.foldl (Event.rivals key) []

/-- The size of the value that an event puts under a key; zero when it puts none there. -/
def Event.sizeFor (e : Event α) (key : String) : Nat :=
  match e.use with
  | .set _ k _ size => if k = key ∧ e.success then size else 0
  | .get _ _ => 0

def largest (events : List (Event α)) (key : String) : Nat :=
  (events.map (·.sizeFor key)).foldr max 0

/-- What the largest values of some keys take up together. -/
def demand (sizes : String → Nat) (keys : List String) : Nat := (keys.map sizes).foldr (· + ·) 0

variable {n m : Int} {c : Cache String α} {i : CacheItem String α} {key : String} {value : α} {size : Nat}
  {now : Binary64} {sizes : String → Nat} {named : List String}

theorem sizeFor_le_largest {events : List (Event α)} {e : Event α} (h : e ∈ events) (key : String) :
    e.sizeFor key ≤ largest events key := by
  induction events with
  | nil => simp at h
  | cons d events ih =>
    have unfolded : largest (d :: events) key = max (d.sizeFor key) (largest events key) := rfl
    rcases mem_cons.1 h with rfl | h
    · exact Nat.le_max_left _ _
    · exact (ih h).trans (Nat.le_max_right _ _)

theorem demand_cons (sizes : String → Nat) (k : String) (keys : List String) :
    demand sizes (k :: keys) = sizes k + demand sizes keys := rfl

theorem demand_sublist (h : keys.Sublist keys') : demand sizes keys ≤ demand sizes keys' := by
  induction h with
  | slnil => exact Nat.le_refl _
  | cons k _ ih => rw [demand_cons]; omega
  | cons_cons k _ ih => rw [demand_cons, demand_cons]; omega

theorem demand_perm (h : keys.Perm keys') : demand sizes keys = demand sizes keys' := by
  induction h with
  | nil => rfl
  | cons k _ ih => rw [demand_cons, demand_cons, ih]
  | swap k l keys => simp only [demand_cons]; omega
  | trans _ _ ih ih' => exact ih.trans ih'

theorem fewer_of_subset (sizes : String → Nat) (nodup : keys.Nodup)
    (h : keys ⊆ keys') : keys.length ≤ keys'.length ∧ demand sizes keys ≤ demand sizes keys' := by
  obtain ⟨some, perm, sublist⟩ := nodup.subperm h
  refine ⟨?_, ?_⟩
  · rw [← perm.length_eq]
    exact sublist.length_le
  · rw [← demand_perm perm]
    exact demand_sublist sublist

theorem total_le_demand {items : List (CacheItem String α)}
    (h : ∀ j ∈ items, j.size ≤ sizes j.key) : total items ≤ demand sizes (items.map (·.key)) := by
  induction items with
  | nil => exact Nat.le_refl _
  | cons j items ih =>
    have first := h j (.head _)
    have rest := ih fun k hk => h k (mem_cons_of_mem j hk)
    rw [total_cons, map_cons, demand_cons]
    omega

theorem exists_makeRoom_append (c : Cache String α) (size : Nat) (front rest : List (CacheItem String α))
    (memory : Int) (fits : c.isFull size rest.length (memory - total front) = false) :
    ∃ kept, (c.makeRoom size (front ++ rest) memory).1 = kept ++ rest := by
  induction front generalizing memory with
  | nil =>
    refine ⟨[], ?_⟩
    have free : c.isFull size rest.length memory = false := by simpa [total] using fits
    cases rest with
    | nil => rfl
    | cons j rest =>
      rw [nil_append, makeRoom, if_neg (by rw [← length_cons, free]; decide)]
  | cons j front ih =>
    rw [cons_append]
    unfold makeRoom
    split
    · have later : memory - (j.size : Int) - total front = memory - total (j :: front) := by
        rw [total_cons]
        omega
      exact ih (memory - j.size) (by rw [later]; exact fits)
    · exact ⟨j :: front, rfl⟩

theorem Sound.get_eq (h : Sound n m c) (now : Binary64) (key : String) :
    (c.find? key = none ∧ (c.get now key).1 = none ∧ (c.get now key).2.2.items = c.items) ∨
      ∃ j, c.find? key = some j ∧ ((c.isExpired now j = true ∧ (c.get now key).1 = none ∧
          (c.get now key).2.2.items = c.items.filter fun k => !(k.key == key)) ∨
        (c.isExpired now j = false ∧ (c.get now key).1 = some j.value ∧
          (c.get now key).2.2.items = (c.items.filter fun k => !(k.key == key)) ++ [j])) := by
  have clean := (h.get now key).1
  unfold Cache.get at clean ⊢
  cases found : c.find? key with
  | none => exact .inl ⟨rfl, rfl, rfl⟩
  | some j =>
    simp only [found] at clean
    dsimp only
    split at clean
    · next expired =>
      rw [if_pos expired]
      exact .inr ⟨j, rfl, .inl ⟨expired, rfl, rfl⟩⟩
    · next fresh =>
      rw [if_neg fresh]
      split at clean
      · exact .inr ⟨j, rfl, .inr ⟨by simpa using fresh, rfl, rfl⟩⟩
      · cases clean

theorem Sound.set_eq (h : Sound n m c) (hn : 1 ≤ n) (now : Binary64) (key : String) (value : α)
    (size : Nat) : c.set now key value size = (false, none, c) ∨ ((c.set now key value size).1 = true ∧
        let kept := (c.drop (·.key == key)).drop (c.isExpired now)
        (c.set now key value size).2.2.items =
          (kept.makeRoom size kept.items kept.memory).1 ++ [⟨key, value, now, size⟩]) := by
  have clean := (h.set hn now key value size).1
  unfold Cache.set at clean ⊢
  split
  · exact .inl rfl
  · next small =>
    rw [if_neg small] at clean
    dsimp only at clean ⊢
    split at clean
    · exact .inr ⟨rfl, rfl⟩
    · cases clean

/-- Only items with the given keys stand behind the item. -/
def Behind (named : List String) (i : CacheItem String α) (items : List (CacheItem String α)) : Prop :=
  ∃ front behind, items = front ++ i :: behind ∧ ∀ j ∈ behind, j.key ∈ named

theorem Behind.mono {items : List (CacheItem String α)}
    (h : Behind named i items) (sub : named ⊆ named') : Behind named' i items := by
  obtain ⟨front, behind, split, keys⟩ := h
  exact ⟨front, behind, split, fun j hj => sub (keys j hj)⟩

theorem Behind.mem {items : List (CacheItem String α)} (h : Behind named i items) : i ∈ items := by
  obtain ⟨front, behind, rfl, -⟩ := h
  simp

theorem Behind.filter {items : List (CacheItem String α)} (h : Behind named i items)
    {p : CacheItem String α → Bool} (stays : p i = true) : Behind named i (items.filter p) := by
  obtain ⟨front, behind, rfl, keys⟩ := h
  refine ⟨front.filter p, behind.filter p, ?_, fun j hj => keys j (mem_filter.1 hj).1⟩
  rw [filter_append, filter_cons_of_pos stays]

theorem Behind.concat {items : List (CacheItem String α)} (h : Behind named i items)
    {j : CacheItem String α} (known : j.key ∈ named) : Behind named i (items ++ [j]) := by
  obtain ⟨front, behind, rfl, keys⟩ := h
  refine ⟨front, behind ++ [j], by simp, fun k hk => ?_⟩
  rcases mem_append.1 hk with hk | hk
  · exact keys k hk
  · rw [mem_singleton.1 hk]
    exact known

theorem find?_of_mem (h : Sound n m c) (there : i ∈ c.items) : c.find? i.key = some i := by
  have nodup := h.nodup
  unfold keys at nodup
  unfold find?
  generalize c.items = items at there nodup
  induction items with
  | nil => simp at there
  | cons j items ih =>
    rw [map_cons, nodup_cons] at nodup
    rcases mem_cons.1 there with rfl | there
    · simp
    · have differs : j.key ≠ i.key := fun same => nodup.1 (same ▸ mem_map_of_mem there)
      rw [List.find?_cons_of_neg (by simpa using differs)]
      exact ih there nodup.2

theorem get_of_mem (h : Sound n m c) (there : i ∈ c.items) (fresh : c.isExpired now i = false) :
    (c.get now i.key).1 = some i.value := by
  rcases h.get_eq now i.key with ⟨absent, -⟩ | ⟨j, found, ended⟩
  · rw [find?_of_mem h there] at absent
    cases absent
  · rw [find?_of_mem h there] at found
    cases found
    rcases ended with ⟨expired, -⟩ | ⟨-, hit, -⟩
    · rw [fresh] at expired
      cases expired
    · exact hit

/-- The accounts are in order, and no item is larger than what is known for its key. -/
structure Bounded (n m : Int) (sizes : String → Nat) (c : Cache String α) : Prop extends Sound n m c where
  bounded : ∀ j ∈ c.items, j.size ≤ sizes j.key

theorem Sound.isFull_eq_false {front behind : List (CacheItem String α)} (h : Sound n m c)
    (split : c.items = front ++ i :: behind) (keys : ∀ j ∈ behind, j.key ∈ named ∧ j.key ≠ key)
    (bounded : ∀ j ∈ behind, j.size ≤ sizes j.key) (known : key ∈ named) (small : size ≤ sizes key)
    (few : (named.length : Int) < n) (room : ((i.size + demand sizes named : Nat) : Int) ≤ m) :
    c.isFull size (i :: behind).length (c.memory - total front) = false := by
  -- The keys behind the item and the new key are distinct keys out of those that were named.
  have distinct : (key :: behind.map (·.key)).Nodup := by
    have all := h.nodup
    rw [Cache.keys, split, map_append, map_cons] at all
    refine nodup_cons.2 ⟨fun there => ?_, (nodup_cons.1 (nodup_append.1 all).2.1).2⟩
    obtain ⟨j, hj, same⟩ := mem_map.1 there
    exact (keys j hj).2 same
  have subset : (key :: behind.map (·.key)) ⊆ named := by
    intro k hk
    rcases mem_cons.1 hk with rfl | hk
    · exact known
    · obtain ⟨j, hj, rfl⟩ := mem_map.1 hk
      exact (keys j hj).1
  obtain ⟨count, needed⟩ := fewer_of_subset sizes distinct subset
  rw [length_cons, length_map] at count
  rw [demand_cons] at needed
  have held : total behind ≤ demand sizes (behind.map (·.key)) := total_le_demand bounded
  have memory : c.memory - (total front : Int) = i.size + total behind := by
    rw [h.memory, split, total_append, total_cons]
    omega
  rw [isFull, Bool.or_eq_false_iff, h.maxEntries, h.maxMemory, memory, length_cons,
    ← Rat.intCast_natCast, Magnitude.le_value, Magnitude.lt_value, decide_eq_false_iff_not,
    decide_eq_false_iff_not]
  omega

theorem Behind.set (h : Behind named i c.items) (sound : Bounded n m sizes c) (hn : 1 ≤ n)
    (few : (named.length : Int) < n) (room : ((i.size + demand sizes named : Nat) : Int) ≤ m)
    (known : key ∈ named) (other : key ≠ i.key) (fresh : c.isExpired now i = false)
    (small : (c.set now key value size).1 = true → size ≤ sizes key) :
    Behind named i (c.set now key value size).2.2.items := by
  rcases sound.set_eq hn now key value size with refused | ⟨taken, items⟩
  · rw [refused]
    exact h
  · have kept := (sound.toSound.drop (·.key == key)).drop (c.isExpired now)
    obtain ⟨front, behind, split, keys⟩ : Behind named i
        ((c.drop (·.key == key)).drop (c.isExpired now)).items :=
      (h.filter (by simpa using other.symm)).filter (by simp [fresh])
    have old (j : CacheItem String α) (hj : j ∈ behind) : j ∈ c.items ∧ j.key ≠ key := by
      have there : j ∈ ((c.drop (·.key == key)).drop (c.isExpired now)).items := by
        rw [split]
        simp [hj]
      obtain ⟨there, differs⟩ := mem_drop.1 (mem_drop.1 there).1
      exact ⟨there, by simpa using differs⟩
    have free := kept.isFull_eq_false split (fun j hj => ⟨keys j hj, (old j hj).2⟩)
      (fun j hj => sound.bounded j (old j hj).1) known (small taken) few room
    obtain ⟨front', left⟩ := exists_makeRoom_append _ size front (i :: behind) _ free
    rw [items, split, left]
    exact Behind.concat ⟨front', behind, rfl, keys⟩ known

theorem mem_of_mem_apply (h : Sound n m c) (hn : 1 ≤ n) (u : Use α) {j : CacheItem String α}
    (there : j ∈ (c.apply u).2.items) :
    j ∈ c.items ∨ ∃ t v s, u = .set t j.key v s ∧ j.size = s ∧ (c.apply u).1 = true := by
  cases u with
  | get now key => exact .inl (mem_of_mem_get there)
  | set now key value size =>
    rcases h.set_eq hn now key value size with refused | ⟨taken, items⟩
    · have same : (c.apply (.set now key value size)).2 = c := by rw [apply, refused]
      rw [same] at there
      exact .inl there
    · rcases mem_of_mem_set there with old | rfl
      · exact .inl old
      · exact .inr ⟨now, value, size, rfl, rfl, taken⟩

theorem Bounded.apply (h : Bounded n m sizes c) (hn : 1 ≤ n) (u : Use α)
    (small : ∀ key, Event.sizeFor ⟨u, (c.apply u).1⟩ key ≤ sizes key) : Bounded n m sizes (c.apply u).2 := by
  refine ⟨?_, fun j hj => ?_⟩
  · cases u with
    | get now key => exact (h.toSound.get now key).2
    | set now key value size => exact (h.toSound.set hn now key value size).2
  · rcases mem_of_mem_apply h.toSound hn u hj with old | ⟨t, v, s, rfl, rfl, taken⟩
    · exact h.bounded j old
    · have put := small j.key
      rw [taken] at put
      simpa [Event.sizeFor] using put

theorem Bounded.trace (h : Bounded n m sizes c) (hn : 1 ≤ n) (us : List (Use α))
    (small : ∀ e ∈ (c.trace us).1, ∀ key, e.sizeFor key ≤ sizes key) : Bounded n m sizes (c.trace us).2 := by
  induction us generalizing c with
  | nil => exact h
  | cons u us ih =>
    have first := h.apply hn u (small _ (.head _))
    exact ih first fun e he => small e (.tail _ he)

theorem ttl_apply (c : Cache String α) (u : Use α) : (c.apply u).2.ttl = c.ttl := by
  cases u with
  | get now key =>
    obtain ⟨c', kept, -, ended⟩ := get_cases c now key
    rcases ended with ended | ⟨i, -, -, -, ended⟩ | ⟨e, ended, -⟩ <;> rw [apply, ended, kept]
  | set now key value size =>
    rcases set_cases c now key value size with ended | ⟨c', kept, ⟨e, ended, -⟩ | ⟨ended, -⟩⟩
    · rw [apply, ended]
    · rw [apply, ended, kept]
    · rw [apply, ended, kept]

theorem ttl_trace (c : Cache String α) (us : List (Use α)) : (c.trace us).2.ttl = c.ttl := by
  induction us generalizing c with
  | nil => rfl
  | cons u us ih => exact (ih (c.apply u).2).trans (ttl_apply c u)

/-- The item is the only one under its key, in its place as far as the keys named since leave it room. -/
structure Tracked (n m : Int) (sizes : String → Nat) (i : CacheItem String α) (named : List String)
    (c : Cache String α) : Prop extends Bounded n m sizes c where
  only : ∀ j ∈ c.items, j.key = i.key → j = i
  distinct : named.Nodup
  other : i.key ∉ named
  placed : (named.length : Int) < n → ((i.size + demand sizes named : Nat) : Int) ≤ m → Behind named i c.items

theorem Tracked.behind (h : Tracked n m sizes i named c) (sub : named ⊆ named')
    (few : (named'.length : Int) < n) (room : ((i.size + demand sizes named' : Nat) : Int) ≤ m) :
    Behind named' i c.items := by
  obtain ⟨count, needed⟩ := fewer_of_subset sizes h.distinct sub
  exact (h.placed (by omega) (by omega)).mono sub

theorem Tracked.placed_get_self (h : Tracked n m sizes i named c) (fresh : c.isExpired now i = false)
    (few : ((Event.rivals i.key named (⟨.get now i.key, (c.get now i.key).1.isSome⟩ : Event α)).length : Int) < n)
    (room : ((i.size + demand sizes (Event.rivals i.key named
      (⟨.get now i.key, (c.get now i.key).1.isSome⟩ : Event α)) : Nat) : Int) ≤ m) :
    Behind (Event.rivals i.key named (⟨.get now i.key, (c.get now i.key).1.isSome⟩ : Event α)) i
      (c.get now i.key).2.2.items := by
  have self (b : Bool) : Event.rivals i.key named (⟨.get now i.key, b⟩ : Event α) = if b then [] else named :=
    if_pos rfl
  rw [self] at few room ⊢
  rcases h.toSound.get_eq now i.key with ⟨absent, miss, -⟩ | ⟨j, found, ended⟩
  · rw [miss] at few room
    have there := (h.placed few room).mem
    rw [find?_of_mem h.toSound there] at absent
    cases absent
  · obtain ⟨there, same⟩ := mem_of_find?_eq_some found
    obtain rfl : j = i := h.only j there (by simpa using same)
    rcases ended with ⟨expired, -⟩ | ⟨-, hit, items⟩
    · rw [fresh] at expired
      cases expired
    · rw [hit, items]
      exact ⟨_, [], rfl, by simp⟩

theorem Behind.get (h : Behind named i c.items) (sound : Sound n m c) (known : key ∈ named)
    (other : key ≠ i.key) : Behind named i (c.get now key).2.2.items := by
  have stays : (!(i.key == key)) = true := by simpa using other.symm
  rcases sound.get_eq now key with ⟨-, -, items⟩ | ⟨j, found, ⟨-, -, items⟩ | ⟨-, -, items⟩⟩
  · rw [items]
    exact h
  · rw [items]
    exact h.filter stays
  · rw [items]
    refine (h.filter stays).concat ?_
    have same : j.key = key := by simpa using (mem_of_find?_eq_some found).2
    rw [same]
    exact known

theorem Tracked.apply (h : Tracked n m sizes i named c) (hn : 1 ≤ n) (u : Use α)
    (once : ∀ t v s, (⟨u, (c.apply u).1⟩ : Event α) ≠ ⟨.set t i.key v s, true⟩)
    (fresh : c.isExpired u.now i = false)
    (small : ∀ key, Event.sizeFor ⟨u, (c.apply u).1⟩ key ≤ sizes key) :
    Tracked n m sizes i (Event.rivals i.key named ⟨u, (c.apply u).1⟩) (c.apply u).2 := by
  refine ⟨h.toBounded.apply hn u small, fun j hj same => ?_, ?_, ?_, fun few room => ?_⟩
  · rcases mem_of_mem_apply h.toSound hn u hj with old | ⟨t, v, s, rfl, -, taken⟩
    · exact h.only j old same
    · refine absurd ?_ (once t v s)
      rw [same] at taken ⊢
      rw [taken]
  · unfold Event.rivals
    split
    · split
      · exact nodup_nil
      · exact h.distinct
    · exact List.Nodup.insert h.distinct
  · unfold Event.rivals
    split
    · split
      · exact not_mem_nil
      · exact h.other
    · next differs =>
      rw [List.mem_insert_iff, not_or]
      exact ⟨fun same => differs same.symm, h.other⟩
  · by_cases self : u.key = i.key
    · cases u with
      | get now key =>
        obtain rfl : key = i.key := self
        exact h.placed_get_self fresh few room
      | set now key value size =>
        obtain rfl : key = i.key := self
        rcases h.toSound.set_eq hn now i.key value size with refused | ⟨taken, -⟩
        · have same : Event.rivals i.key named ⟨.set now i.key value size, false⟩ = named := if_pos rfl
          rw [Cache.apply, refused] at few room ⊢
          rw [same] at few room ⊢
          exact h.placed few room
        · refine absurd ?_ (once now value size)
          rw [Cache.apply, taken]
    · have grown : Event.rivals i.key named ⟨u, (c.apply u).1⟩ = named.insert u.key := if_neg self
      rw [grown] at few room ⊢
      have behind := h.behind (fun k hk => List.mem_insert_of_mem hk) few room
      have known : u.key ∈ named.insert u.key := List.mem_insert_self
      cases u with
      | get now key => exact behind.get h.toSound known self
      | set now key value size =>
        refine behind.set h.toBounded hn few room known self fresh fun taken => ?_
        have put := small key
        simpa [Event.sizeFor, Cache.apply, taken] using put

theorem Tracked.trace (h : Tracked n m sizes i named c) (hn : 1 ≤ n) (us : List (Use α))
    (once : ∀ t v s, ⟨.set t i.key v s, true⟩ ∉ (c.trace us).1)
    (fresh : ∀ u ∈ us, c.isExpired u.now i = false)
    (small : ∀ e ∈ (c.trace us).1, ∀ key, e.sizeFor key ≤ sizes key) :
    Tracked n m sizes i ((c.trace us).1.foldl (Event.rivals i.key) named) (c.trace us).2 := by
  induction us generalizing c named with
  | nil => exact h
  | cons u us ih =>
    have first := h.apply hn u (fun t v s same => once t v s (same ▸ (.head _)))
      (fresh u (.head _)) (small _ (.head _))
    refine ih first (fun t v s later => once t v s (.tail _ later)) (fun v hv => ?_)
      fun e he => small e (.tail _ he)
    rw [isExpired, ttl_apply, ← isExpired]
    exact fresh v (.tail _ hv)

theorem trace_split {calls : List (Use α)} {before after : List (Event α)} {e : Event α}
    (split : (c.trace calls).1 = before ++ e :: after) :
    ∃ first rest, calls = first ++ e.use :: rest ∧ (c.trace first).1 = before ∧
      ((c.trace first).2.apply e.use).1 = e.success ∧
      ((c.trace first).2.apply e.use).2.trace rest = (after, (c.trace calls).2) := by
  induction before generalizing c calls with
  | nil =>
    cases calls with
    | nil => cases split
    | cons u us =>
      obtain ⟨rfl, rfl⟩ := List.cons.inj split
      exact ⟨[], us, rfl, rfl, rfl, rfl⟩
  | cons d before ih =>
    cases calls with
    | nil => cases split
    | cons u us =>
      obtain ⟨rfl, later⟩ := List.cons.inj split
      obtain ⟨first, rest, rfl, rfl, taken, ran⟩ := ih later
      exact ⟨u :: first, rest, rfl, rfl, taken, ran⟩

theorem tracked_set (h : Bounded n m sizes c) (hn : 1 ≤ n) (taken : (c.set now key value size).1 = true)
    (small : ∀ k, Event.sizeFor ⟨.set now key value size, true⟩ k ≤ sizes k) :
    Tracked n m sizes ⟨key, value, now, size⟩ [] (c.set now key value size).2.2 := by
  have after : Bounded n m sizes (c.set now key value size).2.2 :=
    h.apply hn (.set now key value size) (by rw [apply, taken]; exact small)
  rcases h.toSound.set_eq hn now key value size with refused | ⟨-, items⟩
  · rw [refused] at taken
    cases taken
  · have last : Behind [] ⟨key, value, now, size⟩ (c.set now key value size).2.2.items := by
      rw [items]
      exact ⟨_, [], rfl, by simp⟩
    refine ⟨after, fun j there same => ?_, nodup_nil, not_mem_nil, fun _ _ => last⟩
    have found := find?_of_mem after.toSound there
    rw [same, find?_of_mem after.toSound last.mem] at found
    exact (Option.some.inj found).symm

theorem isExpired_eq_false_iff : c.isExpired now i = false ↔
    ∀ limit, c.ttl = some limit → limit.le (.ofBinary64 (now.sub i.inserted)) = false := by
  unfold isExpired
  cases c.ttl <;> simp

theorem isExpired_of_earlier {time : Binary64} (young : c.isExpired now i = false)
    (since : (Magnitude.ofBinary64 i.inserted).le (.ofBinary64 time) = true)
    (earlier : (Magnitude.ofBinary64 time).le (.ofBinary64 now) = true) : c.isExpired time i = false := by
  rw [isExpired_eq_false_iff] at young ⊢
  intro limit lifetime
  by_contra reached
  have later := Binary64.le_sub_of_le since earlier (by simpa using reached)
  rw [young limit lifetime] at later
  cases later

theorem Tracked.found (h : Tracked n m sizes i [] c) (hn : 1 ≤ n) (us : List (Use α))
    (steady : (i.inserted :: (us.map Use.now ++ [now])).Pairwise fun s t =>
      (Magnitude.ofBinary64 s).le (.ofBinary64 t) = true)
    (once : ∀ t v s, ⟨.set t i.key v s, true⟩ ∉ (c.trace us).1)
    (small : ∀ e ∈ (c.trace us).1, ∀ key, e.sizeFor key ≤ sizes key)
    (few : ((rivals i.key (c.trace us).1).length : Int) < n)
    (room : ((i.size + demand sizes (rivals i.key (c.trace us).1) : Nat) : Int) ≤ m)
    (young : ∀ limit, c.ttl = some limit → limit.le (.ofBinary64 (now.sub i.inserted)) = false) :
    ((c.trace us).2.get now i.key).1 = some i.value := by
  rw [← isExpired_eq_false_iff] at young
  obtain ⟨since, past⟩ := pairwise_cons.1 steady
  have tracked := h.trace hn us once (fun u hu => ?_) small
  · refine get_of_mem tracked.toSound (tracked.placed few room).mem ?_
    rwa [isExpired, ttl_trace, ← isExpired]
  · have there : u.now ∈ us.map Use.now := mem_map_of_mem hu
    exact isExpired_of_earlier young (since _ (mem_append_left _ there))
      ((List.pairwise_append.1 past).2.2 _ there now (by simp))

variable {before after : List (Event α)} {calls : List (Use α)} {since : Binary64}

/-- A value that was taken is found by a look at its key, as long as the key was not set again, the clock did
not run backwards, the other keys named since are fewer than the limit, their largest values and this one fit,
and its time is not over. -/
theorem found_while_room {name : Value} {maxEntries maxMemory : Quantity} {ttl : Option Magnitude}
    (entries : maxEntries.magnitude = .value n) (memory : maxMemory.magnitude = .value m)
    (made : make name maxEntries maxMemory ttl = .ok c)
    (steady : (calls.map Use.now ++ [now]).Pairwise fun s t =>
      (Magnitude.ofBinary64 s).le (.ofBinary64 t) = true)
    (split : (c.trace calls).1 = before ++ ⟨.set since key value size, true⟩ :: after)
    (once : ∀ t v s, ⟨.set t key v s, true⟩ ∉ after) (few : ((rivals key after).length : Int) < n)
    (room : ((size + demand (largest (c.trace calls).1) (rivals key after) : Nat) : Int) ≤ m)
    (young : ∀ limit, ttl = some limit → limit.le (.ofBinary64 (now.sub since)) = false) :
    ((c.trace calls).2.get now key).1 = some value := by
  obtain ⟨hn, -, sound⟩ := sound_of_make entries memory made
  obtain ⟨-, -, new⟩ := make_eq_ok_iff.1 made
  have lifetime : c.ttl = ttl := by rw [new]
  have start : Bounded n m (largest (c.trace calls).1) c := { sound with bounded := by simp [new] }
  have small (e : Event α) (he : e ∈ before ++ ⟨.set since key value size, true⟩ :: after) (k : String) :
      e.sizeFor k ≤ largest (c.trace calls).1 k := sizeFor_le_largest (split ▸ he) k
  obtain ⟨first, rest, rfl, pre, taken, ran⟩ := trace_split split
  have known := start.trace hn first fun e he => small e (mem_append_left _ (pre ▸ he))
  have put := tracked_set known hn taken (small _ (List.mem_append_right _ (.head _)))
  rw [List.map_append, List.append_assoc, List.pairwise_append] at steady
  have kept : ((c.trace first).2.set since key value size).2.2.ttl = ttl :=
    (ttl_apply _ (.set since key value size)).trans ((ttl_trace c first).trans lifetime)
  have later : ((c.trace first).2.set since key value size).2.2.trace rest = (after, _) := ran
  have found := put.found hn rest steady.2.1
  rw [later, kept] at found
  exact found once (fun e he => small e (List.mem_append_right _ (.tail _ he))) few room young

def narrow : Cache String Nat :=
  { name := .text "narrow", maxEntries := .whole 3, maxMemory := .whole 10, ttl := some (.value 5) }

/-- Two other keys are named after the look at `a`, and their values fill the memory beside its own. -/
def crowded : List (Use Nat) :=
  [.set (.finite false 1 0) "a" 7 4, .set (.finite false 1 0) "b" 8 3, .get (.finite false 2 0) "a",
    .set (.finite false 3 0) "c" 9 6, .get (.finite false 4 0) "d"]

def crowding : List (Event Nat) :=
  [⟨.set (.finite false 1 0) "b" 8 3, true⟩, ⟨.get (.finite false 2 0) "a", true⟩,
    ⟨.set (.finite false 3 0) "c" 9 6, true⟩, ⟨.get (.finite false 4 0) "d", false⟩]

theorem found_while_room_crowded : (narrow.trace crowded).1 = ⟨.set (.finite false 1 0) "a" 7 4, true⟩ :: crowding ∧
      rivals "a" crowding = ["d", "c"] ∧
      4 + demand (largest (narrow.trace crowded).1) (rivals "a" crowding) = 10 ∧
      (narrow.trace crowded).2.keys = ["a", "c"] ∧
      ((narrow.trace crowded).2.get (.finite false 5 0) "a").1 = some 7 := by
  have made : make (.text "narrow") (.whole 3) (.whole 10) (some (.value 5)) = .ok narrow := rfl
  have events : (narrow.trace crowded).1 = [] ++ ⟨.set (.finite false 1 0) "a" 7 4, true⟩ :: crowding := by
    decide +kernel
  have others : rivals "a" crowding = ["d", "c"] := by decide
  have full : 4 + demand (largest (narrow.trace crowded).1) (rivals "a" crowding) = 10 := by
    rw [events]
    decide
  refine ⟨events, others, full, by decide +kernel, ?_⟩
  refine found_while_room rfl rfl made (by decide +kernel) events (fun t v s again => ?_) ?_ ?_ ?_
  · simp [crowding] at again
  · rw [others]
    decide
  · rw [full]
    decide
  · rintro limit ⟨⟩
    decide +kernel

end TriStore.Cache
