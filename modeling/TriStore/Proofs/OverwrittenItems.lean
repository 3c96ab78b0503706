import TriStore.Cache.Overwritten
import TriStore.Proofs.CacheContents
import TriStore.Proofs.Guarded

/-!
What the calls of a cache do to its items when its counter and its limit may have been overwritten.
-/
namespace TriStore
open List Option

theorem Value.text_beq (a b : String) : (Value.text a == Value.text b) = (a == b) := by
  show Value.isOne _ _ = _
  rw [isOne, same_text]
  rfl

theorem Quantity.ofValue?_toValue (q : Quantity) : ofValue? q.toValue = some q := by
  cases q <;> rfl

theorem filterM_eq_ok {ε α : Type} {p : α → Except ε Bool} {q : α → Bool} {xs : List α}
    (h : ∀ x ∈ xs, p x = .ok (q x)) : xs.filterM p = .ok (xs.filter q) := by
  have collected (acc : List α) : List.filterAuxM p xs acc = .ok ((xs.filter q).reverse ++ acc) := by
    induction xs generalizing acc with
    | nil => rfl
    | cons x xs ih =>
      rw [List.filterAuxM, h x (.head _), ok_bind]
      have rest := ih (fun y hy => h y (mem_cons_of_mem x hy))
      cases kept : q x with
      | true => simpa [kept] using rest (x :: acc)
      | false => simpa [kept] using rest acc
  rw [List.filterM, collected, append_nil]
  exact congrArg Except.ok (reverse_reverse _)

namespace Overwritten

abbrev Item : Type := CacheItem Value Value

variable {α β : Type} {o o' : Overwritten} {now : Binary64} {size : Nat}

/-- Numbers stand in the places of the counter and of the limit. -/
structure Numeric (o : Overwritten) : Prop where
  limit : o.limit = none
  counter : ∃ q, Quantity.ofValue? o.memory = some q

theorem Numeric.of_counter {v : Value} (limit : o.limit = none) (h : (Quantity.ofValue? v).isSome) :
    Numeric (o.setMemory v) := by
  obtain ⟨q, h⟩ := isSome_iff_exists.1 h
  cases v with
  | int n => exact ⟨limit, .whole n, rfl⟩
  | bool b => exact ⟨limit, .truth b, rfl⟩
  | float x => exact ⟨limit, .real x, rfl⟩
  | _ => cases h

theorem setMemory_cache (o : Overwritten) (v : Value) :
    (o.setMemory v).cache.items = o.cache.items ∧ (o.setMemory v).cache.ttl = o.cache.ttl := by
  cases v <;> exact ⟨rfl, rfl⟩

theorem Numeric.of_limit {v : Value} (counter : ∃ q, Quantity.ofValue? o.memory = some q)
    (h : (Quantity.ofValue? v).isSome) : Numeric (o.setMaxEntries v) := by
  obtain ⟨q, h⟩ := isSome_iff_exists.1 h
  rw [setMaxEntries, h]
  exact ⟨rfl, counter⟩

theorem setMaxEntries_cache (o : Overwritten) (v : Value) :
    (o.setMaxEntries v).cache.items = o.cache.items ∧ (o.setMaxEntries v).cache.ttl = o.cache.ttl := by
  rw [setMaxEntries]
  split <;> exact ⟨rfl, rfl⟩

theorem Numeric.maxEntries (h : Numeric o) : ∃ q, Quantity.ofValue? o.maxEntries = some q := by
  refine ⟨o.cache.maxEntries, ?_⟩
  rw [Overwritten.maxEntries, h.limit]
  exact Quantity.ofValue?_toValue _

/-- The counter and the limit are numbers, and they do not contradict the items. -/
structure InOrder (o : Overwritten) : Prop where
  counter : ∃ q, Quantity.ofValue? o.memory = some q ∧ q.magnitude.lt (0 : Nat) = false ∧
    (o.cache.items.isEmpty && !q.magnitude.same (0 : Nat)) = false
  limit : ∃ q, Quantity.ofValue? o.maxEntries = some q ∧ q.magnitude.lt o.cache.items.length = false

/-- The last item is the only one under its key. -/
def Topped (o : Overwritten) (i : Item) : Prop :=
  ∃ left, o.cache.items = left ++ [i] ∧ ∀ j ∈ left, (j.key == i.key) = false

/-- The item that was put in, and the others that are not under its key. -/
def Beside (o : Overwritten) (item i : Item) : Prop :=
  (i ∈ o.cache.items ∧ (i.key == item.key) = false) ∨ i = item

def ends (part : Part α) (o : Overwritten) : Except Stop α × Overwritten := (ExceptT.run part).run o

theorem ends_bind (part : Part α) (f : α → Part β) (o : Overwritten) : ends (part >>= f) o = match ends part o with
      | (.ok a, o') => ends (f a) o'
      | (.error e, o') => (.error e, o') := by
  have unfolded : ends (part >>= f) o = ExceptT.bindCont f (ends part o).1 (ends part o).2 := rfl
  rw [unfolded]
  rcases ends part o with ⟨_ | _, _⟩ <;> rfl

theorem ends_bind_of_ok {part : Part α} {a : α} (h : ends part o = (.ok a, o')) (f : α → Part β) :
    ends (part >>= f) o = ends (f a) o' := by
  rw [ends_bind, h]

theorem ends_bind_of_error {part : Part α} {e : Stop} (h : ends part o = (.error e, o'))
    (f : α → Part β) : ends (part >>= f) o = (.error e, o') := by
  rw [ends_bind, h]

theorem ends_get (o : Overwritten) : ends MonadState.get o = (.ok o, o) := rfl

theorem ends_modify (f : Overwritten → Overwritten) (o : Overwritten) : ends (modify f) o = (.ok ⟨⟩, f o) := rfl

theorem checkKey_text (k : String) : checkKey (.text k) = pure () := rfl

/-- A part of an operation, however it ends, leaves items that `p` holds for and the time to live. It leads
from numbers to numbers, and fails there only at one too long to be shown. If it succeeds, `Q` holds. -/
structure Leaves (p : Item → Prop) (Q : α → Overwritten → Prop) (part : Part α) (o : Overwritten) : Prop where
  ttl : (ends part o).2.cache.ttl = o.cache.ttl
  items : ∀ i ∈ (ends part o).2.cache.items, p i
  numeric : Numeric o → Numeric (ends part o).2
  lasts : Numeric o → ∀ e, (ends part o).1 = .error (.failure e) → e = .tooManyDigits none
  answers : ∀ a, (ends part o).1 = .ok a → Q a (ends part o).2

namespace Leaves

variable {p q : Item → Prop} {Q Q' : α → Overwritten → Prop} {R : β → Overwritten → Prop}

theorem mono {part : Part α} (h : Leaves p Q part o) (weaker : ∀ i, p i → q i)
    (also : ∀ a o', Q a o' → (∀ i ∈ o'.cache.items, p i) → Q' a o') : Leaves q Q' part o :=
  { h with
    items := fun i hi => weaker i (h.items i hi)
    answers := fun a done => also a _ (h.answers a done) h.items }

theorem pure (a : α) (h : ∀ i ∈ o.cache.items, p i) (answer : Q a o) : Leaves p Q (pure a) o :=
  ⟨rfl, h, id, fun _ _ => nofun, fun _ same => Except.ok.inj same ▸ answer⟩

theorem complain (cause : Cache.Corruption) (h : ∀ i ∈ o.cache.items, p i) :
    Leaves p (fun _ _ => False) (complain cause) o := by
  refine ⟨rfl, h, id, fun _ e stopped => ?_, fun _ => nofun⟩
  have stops : (ends (Overwritten.complain cause) o).1 =
    .error (if cause.number.toValue.isWritable then .corrupt cause else .failure (.tooManyDigits none)) := rfl
  rw [stops] at stopped
  split at stopped
  · cases stopped
  · cases stopped
    rfl

theorem bind {part : Part α} {f : α → Part β} (h : Leaves p Q part o)
    (next : ∀ a o', Q a o' → (∀ i ∈ o'.cache.items, p i) → Leaves p R (f a) o') :
    Leaves p R (part >>= f) o := by
  obtain ⟨ttl, items, numeric, lasts, answers⟩ := h
  rcases ended : ends part o with ⟨e | a, o'⟩
  · rw [ended] at ttl items numeric lasts
    have stopped := ends_bind_of_error ended f
    refine ⟨?_, ?_, ?_, ?_, ?_⟩ <;> rw [stopped]
    · exact ttl
    · exact items
    · exact numeric
    · exact fun given cause broke => lasts given cause (congrArg Except.error (Except.error.inj broke))
    · exact fun _ => nofun
  · rw [ended] at ttl items numeric answers
    obtain ⟨ttl', items', numeric', lasts', answers'⟩ := next a o' (answers a rfl) items
    rw [← ends_bind_of_ok ended f] at ttl' items' numeric' lasts' answers'
    exact ⟨ttl'.trans ttl, items', numeric' ∘ numeric, lasts' ∘ numeric, answers'⟩

theorem get_bind {f : Overwritten → Part β} (h : Leaves p R (f o) o) : Leaves p R (MonadState.get >>= f) o := by
  have looked := ends_bind_of_ok (ends_get o) f
  obtain ⟨ttl, items, numeric, lasts, answers⟩ := h
  exact ⟨ttl, items, numeric, lasts, answers⟩

theorem modify_bind {f : Overwritten → Overwritten} {next : Part β} (ttl : (f o).cache.ttl = o.cache.ttl)
    (numeric : Numeric o → Numeric (f o)) (h : Leaves p R next (f o)) :
    Leaves p R (modify f >>= fun _ => next) o := by
  have changed := ends_bind_of_ok (ends_modify f o) fun _ => next
  obtain ⟨ttl', items', numeric', lasts', answers'⟩ := h
  exact ⟨ttl'.trans ttl, items', numeric' ∘ numeric, lasts' ∘ numeric, answers'⟩

theorem number_bind {v : Value} {f : Quantity → Part β}
    (given : Numeric o → ∃ q, Quantity.ofValue? v = some q) (kept : ∀ i ∈ o.cache.items, p i)
    (h : ∀ q, Quantity.ofValue? v = some q → Leaves p R (f q) o) : Leaves p R (number v >>= f) o := by
  rw [number]
  cases found : Quantity.ofValue? v with
  | none =>
    have broken (numeric : Numeric o) : False := by
      obtain ⟨q, there⟩ := given numeric
      rw [found] at there
      cases there
    exact ⟨rfl, kept, id, fun numeric => (broken numeric).elim, fun _ => nofun⟩
  | some q =>
    dsimp only
    rw [pure_bind]
    exact h q found

theorem countBy (n : Int) (kept : ∀ i ∈ o.cache.items, p i) :
    Leaves p (fun _ o' => o'.cache.items = o.cache.items) (countBy n) o := by
  refine get_bind (number_bind (·.counter) kept fun q _ => ?_)
  obtain ⟨items, ttl⟩ := setMemory_cache o (q.plus n).toValue
  refine ⟨ttl, fun i hi => kept i (items ▸ hi), fun h => ?_, fun _ _ => nofun, fun _ _ => items⟩
  exact .of_counter h.limit (by simp [Quantity.ofValue?_toValue])

theorem takeOut (key : Value) (kept : ∀ i ∈ o.cache.items, p i) :
    Leaves (fun i => p i ∧ (i.key == key) = false) (fun _ _ => True) (takeOut key) o := by
  refine get_bind ?_
  split
  · next absent =>
    refine pure _ (fun i hi => ⟨kept i hi, ?_⟩) trivial
    simpa using List.find?_eq_none.1 absent i hi
  · refine modify_bind rfl (fun h => ⟨h.limit, h.counter⟩)
      ((countBy _ fun i hi => ?_).mono (fun _ h => h) fun _ _ _ _ => trivial)
    obtain ⟨there, other⟩ := mem_filter.1 hi
    exact ⟨kept i there, by simpa [bne] using other⟩

theorem forM_takeOut (doomed : List Item) (kept : ∀ i ∈ o.cache.items, p i) :
    Leaves p (fun _ o' => ∀ i ∈ doomed, ∀ j ∈ o'.cache.items, (j.key == i.key) = false)
      (doomed.forM fun i => Overwritten.takeOut i.key) o := by
  induction doomed generalizing o p with
  | nil => exact pure _ kept nofun
  | cons i doomed ih =>
    refine (bind (takeOut i.key kept) fun _ _ _ kept' => ih kept').mono (fun _ h => h.1)
      fun _ _ gone left d hd j hj => ?_
    rcases mem_cons.1 hd with rfl | hd
    · exact (left j hj).2
    · exact gone d hd j hj

theorem check (kept : ∀ i ∈ o.cache.items, p i) : Leaves p (fun _ o' => o' = o ∧ InOrder o) check o := by
  refine get_bind (number_bind (·.counter) kept fun q counted => ?_)
  have stop {Q : Unit → Overwritten → Prop} (cause : Cache.Corruption) (next : Unit → Part Unit) :
      Leaves p Q (Overwritten.complain cause >>= next) o := bind (complain cause kept) fun _ _ no => no.elim
  dsimp only
  split
  · exact stop _ _
  · next notBelow =>
    split
    · exact stop _ _
    · next notPhantom =>
      refine number_bind (·.maxEntries) kept fun limit limited => ?_
      split
      · exact (complain _ kept).mono (fun _ h => h) fun _ _ no => no.elim
      · next within =>
        exact pure _ kept ⟨rfl, ⟨q, counted, by simpa using notBelow, by simpa using notPhantom⟩,
          ⟨limit, limited, by simpa using within⟩⟩

theorem makeRoom (size fuel : Nat) (kept : ∀ i ∈ o.cache.items, p i) :
    Leaves p (fun gone _ => ∀ k ∈ gone, ∃ i, p i ∧ i.key = k) (makeRoom size fuel) o := by
  induction fuel generalizing o with
  | zero => exact pure _ kept nofun
  | succ fuel ih =>
    refine get_bind ?_
    split
    · exact pure _ kept nofun
    · next i rest items =>
      have first : p i := kept i (items ▸ .head _)
      have fewer (j : Item) (hj : j ∈ rest) : p j := kept j (items ▸ mem_cons_of_mem i hj)
      -- the first item goes and the loop starts again, for want of a place or for want of memory
      have again {o' : Overwritten} (kept' : ∀ j ∈ o'.cache.items, p j) :
          Leaves p (fun gone _ => ∀ k ∈ gone, ∃ i, p i ∧ i.key = k) (do
            modify fun o => { o with cache.evictions := o.cache.evictions + 1 }
            return i.key :: (← Overwritten.makeRoom size fuel)) o' :=
        modify_bind rfl (fun h => ⟨h.limit, h.counter⟩) (bind (ih kept') fun _ _ known kept'' =>
          pure _ kept'' (forall_mem_cons.2 ⟨⟨i, first, rfl⟩, known⟩))
      have onwards := modify_bind (o := o) (f := fun o => { o with cache.items := rest }) rfl
        (fun h => ⟨h.limit, h.counter⟩) (bind (countBy (-(i.size : Int)) fewer) fun _ _ _ => again)
      refine number_bind (·.maxEntries) kept fun limit _ => ?_
      split
      · refine number_bind (·.counter) kept fun q _ => ?_
        split
        · exact pure _ kept nofun
        · exact onwards
      · exact onwards

theorem getPart (k : String) (kept : ∀ i ∈ o.cache.items, p i) :
    Leaves p (fun found _ => ∀ v, found = some v → ∃ i ∈ o.cache.items,
      (i.key == .text k) = true ∧ i.value = v ∧ o.cache.isExpired now i = false) (getPart now (.text k)) o := by
  rw [Overwritten.getPart, checkKey_text, pure_bind]
  refine get_bind ?_
  split
  · exact modify_bind rfl (fun h => ⟨h.limit, h.counter⟩) (pure _ kept nofun)
  · next i found =>
    obtain ⟨there, same⟩ := Cache.mem_of_find?_eq_some found
    refine get_bind ?_
    split
    · refine bind ((takeOut _ kept).mono (fun _ h => h.1) fun _ _ h _ => h) fun _ o' _ kept' => ?_
      exact modify_bind rfl (fun h => ⟨h.limit, h.counter⟩) (pure _ kept' nofun)
    · next fresh =>
      refine modify_bind rfl (fun h => ⟨h.limit, h.counter⟩) (bind (check fun j hj => ?_) fun _ _ _ kept' =>
        pure _ kept' fun v is => ⟨i, there, same, Option.some.inj is, by simpa using fresh⟩)
      rcases mem_append.1 hj with hj | hj
      · exact kept j (mem_filter.1 hj).1
      · rw [mem_singleton.1 hj]
        exact kept i there

theorem setPart (now : Binary64) (k : String) (v : Value) (size : Nat) (o : Overwritten) :
    Leaves (o.Beside ⟨.text k, v, now, size⟩) (fun gone o' => InOrder o' ∧ Topped o' ⟨.text k, v, now, size⟩ ∧
      ∀ key ∈ gone, ∃ i ∈ o.cache.items, i.key = key) (setPart now (.text k) v size) o := by
  rw [Overwritten.setPart, checkKey_text, pure_bind]
  refine bind ((takeOut (.text k) fun i hi => hi).mono (fun i h => .inl h) fun _ _ _ kept => kept)
    fun _ o₁ kept₁ _ => get_bind (get_bind ?_)
  refine bind ((forM_takeOut _ kept₁).mono (fun i h => .inl h) fun _ _ _ kept => kept)
    fun _ o₂ kept₂ _ => get_bind ?_
  refine bind ((makeRoom _ _ kept₂).mono (fun i h => .inl h) fun _ _ known kept => And.intro known kept)
    fun gone o₃ both _ => ?_
  obtain ⟨known, kept₃⟩ := both
  refine modify_bind rfl (fun h => ⟨h.limit, h.counter⟩) (bind (countBy _ fun i hi => ?_) fun _ o₄ same kept₄ => ?_)
  · rcases mem_append.1 hi with hi | hi
    · exact .inl (kept₃ i hi)
    · exact .inr (mem_singleton.1 hi)
  · refine bind (check kept₄) fun _ o₅ whole kept₅ => pure _ kept₅ ?_
    obtain ⟨rfl, order⟩ := whole
    refine ⟨order, ⟨o₃.cache.items, same, fun j hj => (kept₃ j hj).2⟩, fun key hkey => ?_⟩
    obtain ⟨i, there, named⟩ := known key hkey
    exact ⟨i, there.1, named⟩

end Leaves

/-- How a call ends: the items, the time to live and the numbers as for its parts. A cache found corrupt is
left empty. -/
structure Ended (p : Item → Prop) (o : Overwritten)
    (r : Except Failure α × Option Cache.Corruption × Overwritten) : Prop where
  ttl : r.2.2.cache.ttl = o.cache.ttl
  items : ∀ i ∈ r.2.2.cache.items, p i
  numeric : Numeric o → Numeric r.2.2
  lasts : Numeric o → ∀ e, r.1 = .error e → e = .tooManyDigits none
  emptied : r.2.1 ≠ none → r.2.2.cache.items = [] ∧ r.2.2.memory = .int 0

section Calls

variable {c : Cache Value Value} {front : String} {key : Value} {p : Item → Prop} {k : String} {v : Value}

theorem run_of_ok {part : Part α} {a : α} (h : ends part o = (.ok a, o')) (otherwise : α) :
    run otherwise part o = (.ok a, none, o') := by
  rw [ends] at h
  rw [run, h]

theorem run_of_failure {part : Part α} {e : Failure} (h : ends part o = (.error (.failure e), o'))
    (otherwise : α) : run otherwise part o = (.error e, none, o') := by
  rw [ends] at h
  rw [run, h]

theorem run_of_corrupt {part : Part α} {cause : Cache.Corruption}
    (h : ends part o = (.error (.corrupt cause), o')) (otherwise : α) :
    run otherwise part o = (.ok otherwise, some cause, o'.clear) := by
  rw [ends] at h
  rw [run, h]

theorem Leaves.ended {Q : α → Overwritten → Prop} {part : Part α} (h : Leaves p Q part o) (otherwise : α) : Ended p o (run otherwise part o) := by
  obtain ⟨ttl, items, numeric, lasts, -⟩ := h
  rcases ended : ends part o with ⟨stop | a, o'⟩
  · rw [ended] at ttl items numeric lasts
    cases stop with
    | corrupt cause =>
      rw [run_of_corrupt ended]
      exact ⟨ttl, nofun, fun h => ⟨(numeric h).limit, .whole 0, rfl⟩, fun _ _ => nofun, fun _ => ⟨rfl, rfl⟩⟩
    | failure e =>
      rw [run_of_failure ended]
      refine ⟨ttl, items, numeric, fun h cause broke => ?_, fun h => absurd rfl h⟩
      cases broke
      exact lasts h e rfl
  · rw [ended] at ttl items numeric
    rw [run_of_ok ended]
    exact ⟨ttl, items, numeric, fun _ _ => nofun, fun h => absurd rfl h⟩

theorem get_ended (now : Binary64) (k : String) (kept : ∀ i ∈ o.cache.items, p i) :
    Ended p o (o.get now (.text k)) := (Leaves.getPart k kept).ended none

theorem exists_of_get (h : (o.get now (.text k)).1 = .ok (some v)) :
    ∃ i ∈ o.cache.items, (i.key == .text k) = true ∧ i.value = v ∧ o.cache.isExpired now i = false := by
  rw [get] at h
  rcases ended : ends (getPart now (.text k)) o with ⟨stop | found, o'⟩
  · cases stop with
    | corrupt cause =>
      rw [run_of_corrupt ended] at h
      cases h
    | failure e =>
      rw [run_of_failure ended] at h
      cases h
  · have found : ∀ a, (ends (getPart now (.text k)) o).1 = .ok a → _ :=
      (Leaves.getPart k fun i (hi : i ∈ o.cache.items) => hi).answers
    rw [run_of_ok ended] at h
    rw [ended] at found
    exact found _ rfl v (Except.ok.inj h)

def hasFront (front : String) : Value → Bool
  | .text s => front.toList.isPrefixOf s.toList
  | _ => false

theorem startsWith_text (h : key.isText = true) :
    Cache.startsWith (.text front) key = .ok (hasFront front key) := by
  cases key with
  | text s =>
    show (if front.toList.isPrefixOf s.toList then Except.ok true else .ok false) = _
    cases found : front.toList.isPrefixOf s.toList <;> simp [hasFront, found]
  | _ => cases h

theorem beq_self_of_isText (h : key.isText = true) : (key == key) = true := by
  cases key with
  | text s => rw [Value.text_beq, beq_self_eq_true]
  | _ => cases h

theorem ends_map (f : α → β) (part : Part α) (o : Overwritten) :
    ends (f <$> part) o = ((ends part o).1.map f, (ends part o).2) := by
  rw [← bind_pure_comp, ends_bind]
  rcases ends part o with ⟨_ | _, _⟩ <;> rfl

theorem set_ended (now : Binary64) (k : String) (v : Value) (size : Nat)
    (texts : ∀ i ∈ o.cache.items, i.key.isText = true) : ((o.set now (.text k) v size).1 = .ok false ∧
        Ended (· ∈ o.cache.items) o (o.set now (.text k) v size)) ∨
      ((o.set now (.text k) v size).1 ≠ .ok false ∧
        Ended (o.Beside ⟨.text k, v, now, size⟩) o (o.set now (.text k) v size)) := by
  rw [set]
  split
  · exact .inl ⟨rfl, rfl, fun _ h => h, id, fun _ _ => nofun, fun h => absurd rfl h⟩
  · obtain ⟨ttl, items, numeric, lasts, answers⟩ := Leaves.setPart now k v size o
    have mapped := ends_map some (setPart now (.text k) v size) o
    rcases ended : ends (setPart now (.text k) v size) o with ⟨stop | gone, o'⟩
    · rw [ended] at mapped ttl items numeric lasts
      cases stop with
      | corrupt cause =>
        rw [run_of_corrupt mapped]
        exact .inl ⟨rfl, ttl, nofun, fun h => ⟨(numeric h).limit, .whole 0, rfl⟩, fun _ _ => nofun,
          fun _ => ⟨rfl, rfl⟩⟩
      | failure e =>
        rw [run_of_failure mapped]
        refine .inr ⟨nofun, ttl, items, numeric, fun h cause broke => ?_, fun h => absurd rfl h⟩
        cases broke
        exact lasts h e rfl
    · rw [ended] at mapped ttl items numeric answers
      have named : gone.all Value.isText = true := by
        refine all_eq_true.2 fun key hkey => ?_
        obtain ⟨i, hi, rfl⟩ := (answers gone rfl).2.2 key hkey
        exact texts i hi
      rw [run_of_ok mapped]
      dsimp only
      rw [if_pos named]
      exact .inr ⟨nofun, ttl, items, numeric, fun _ _ => nofun, fun h => absurd rfl h⟩

theorem Ended.map {r : Except Failure α × Option Cache.Corruption × Overwritten} (h : Ended p o r) (f : α → β) :
    Ended p o (r.1.map f, none, r.2.2) :=
  ⟨h.ttl, h.items, h.numeric, fun numbers e broke => h.lasts numbers e (map_eq_error.1 broke), fun h => absurd rfl h⟩

theorem invalidate_ended (k : String) (kept : ∀ i ∈ o.cache.items, p i) :
    Ended (fun i => p i ∧ (i.key == .text k) = false) o
      ((o.invalidate (.text k)).1, none, (o.invalidate (.text k)).2) :=
  ((Leaves.takeOut (.text k) kept).ended ()).map _

theorem filterM_startsWith (texts : ∀ i ∈ c.items, i.key.isText = true) (front : String) :
    (c.items.filterM fun i => Cache.startsWith (.text front) i.key) =
      .ok (c.items.filter fun i => hasFront front i.key) :=
  filterM_eq_ok fun i hi => startsWith_text (texts i hi)

theorem hasFront_of_left {i : Item} (texts : ∀ i ∈ o.cache.items, i.key.isText = true) (there : i ∈ o.cache.items)
    (gone : i ∈ o.cache.items.filter (fun i => hasFront front i.key) → (i.key == i.key) = false) :
    hasFront front i.key = false := by
  cases found : hasFront front i.key with
  | false => rfl
  | true =>
    have self := beq_self_of_isText (texts i there)
    rw [gone (mem_filter.2 ⟨there, found⟩)] at self
    cases self

theorem invalidateFront_ended (front : String) (kept : ∀ i ∈ o.cache.items, p i)
    (texts : ∀ i ∈ o.cache.items, i.key.isText = true) :
    Ended p o ((o.invalidateFront (.text front)).1, none, (o.invalidateFront (.text front)).2) ∧
      ∀ n, (o.invalidateFront (.text front)).1 = .ok n →
        ∀ i ∈ (o.invalidateFront (.text front)).2.cache.items, hasFront front i.key = false := by
  rw [invalidateFront, filterM_startsWith texts]
  dsimp only
  generalize listed : o.cache.items.filter (fun i => hasFront front i.key) = doomed
  refine ⟨((Leaves.forM_takeOut doomed kept).ended ⟨⟩).map _, fun n counted i hi => ?_⟩
  rcases ended : ends (doomed.forM fun i => takeOut i.key) o with ⟨stop | u, o'⟩
  · cases stop with
    | corrupt cause =>
      rw [run_of_corrupt ended] at hi
      cases hi
    | failure e =>
      rw [run_of_failure ended] at counted
      cases counted
  · rw [run_of_ok ended] at hi
    obtain ⟨-, there, -, -, gone⟩ := Leaves.forM_takeOut doomed fun i (hi : i ∈ o.cache.items) => hi
    rw [ended] at there gone
    exact hasFront_of_left texts (there i hi) fun found => gone _ rfl i (listed ▸ found) i hi

end Calls

end Overwritten

end TriStore
