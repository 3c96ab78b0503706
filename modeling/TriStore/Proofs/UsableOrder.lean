import TriStore.Proofs.JsonValues
import TriStore.Proofs.Plan

/-!
Reading a layer of a policy ends with a policy, with a complaint that lets the next layer count, or in
failure.
-/
namespace TriStore
open List Option

/-- A complaint about a document, after which the next layer counts. -/
def Failure.IsConfiguration : Failure → Prop
  | .configuration _ _ => True
  | _ => False

theorem Defect.not_isConfiguration (d : Defect) : ¬d.failure.IsConfiguration := by
  cases d <;> exact id

namespace Policy

variable {sources : List Source} {v : Value} {α β : Type} {p q : Prop}

/-- The reading ends with a result or with a complaint about the document. -/
def Settles (r : Except Failure α) : Prop := ∀ e, r = .error e → e.IsConfiguration

@[simp] theorem settles_ok (a : α) : Settles (.ok a) := by
  intro e failed
  cases failed

@[simp] theorem settles_error_iff {e : Failure} : Settles (.error e : Except Failure α) ↔ e.IsConfiguration := by
  simp [Settles]

@[simp] theorem settles_map_iff {r : Except Failure α} {f : α → β} : Settles (r.map f) ↔ Settles r := by
  cases r <;> simp [Except.map]

/-- The reading gives a result under a condition, and else fails at a number too long. -/
def ReadsIf (p : Prop) (r : Except Failure α) : Prop :=
  (p ∧ ∃ a, r = .ok a) ∨ (¬p ∧ r = .error (.tooManyDigits none))

theorem ReadsIf.congr {r : Except Failure α} (h : ReadsIf p r) (same : p ↔ q) : ReadsIf q r := by
  rwa [← propext same]

theorem ReadsIf.map {r : Except Failure α} (h : ReadsIf p r) (f : α → β) : ReadsIf p (r.map f) := by
  rcases h with ⟨hp, a, rfl⟩ | ⟨hp, rfl⟩
  · exact .inl ⟨hp, f a, rfl⟩
  · exact .inr ⟨hp, rfl⟩

theorem ReadsIf.settles_bind {r : Except Failure α} {f : α → Except Failure β} (h : ReadsIf p r)
    (rest : ∀ a, Settles (f a) ↔ q) : Settles (r >>= f) ↔ p ∧ q := by
  rcases h with ⟨hp, a, rfl⟩ | ⟨hp, rfl⟩
  · rw [ok_bind, rest]
    exact (and_iff_right hp).symm
  · rw [error_bind, settles_error_iff]
    exact ⟨False.elim, fun h => hp h.1⟩

theorem readsIf_checkWritable (v : Value) : ReadsIf (v.isWritable = true) v.checkWritable := by
  unfold Value.checkWritable
  split
  · next yes => exact .inl ⟨yes, (), rfl⟩
  · next no => exact .inr ⟨no, rfl⟩

theorem ofValue_cases (v : Value) : (v.isWritable = true ∧
      ((∃ s, Source.ofValue v = .ok s) ∨ ∃ fault, Source.ofValue v = .error (.configuration fault []))) ∨
      (¬v.isWritable = true ∧ Source.ofValue v = .error (.tooManyDigits none)) := by
  unfold Source.ofValue
  split
  · next s => exact .inl ⟨rfl, .inl ⟨s, rfl⟩⟩
  · next s =>
    refine .inl ⟨rfl, ?_⟩
    cases Source.ofText? s with
    | some source => exact .inl ⟨source, rfl⟩
    | none => exact .inr ⟨_, rfl⟩
  · rcases readsIf_checkWritable v with ⟨short, a, read⟩ | ⟨long, failed⟩
    · rw [read]
      exact .inl ⟨short, .inr ⟨_, rfl⟩⟩
    · rw [failed]
      exact .inr ⟨long, rfl⟩

theorem readsIf_readSources (vs : List Value) : ReadsIf (∀ v ∈ vs, v.isWritable = true) (readSources vs) := by
  induction vs with
  | nil => exact .inl ⟨by simp, _, rfl⟩
  | cons v vs ih =>
    unfold readSources
    rcases ofValue_cases v with ⟨short, ⟨s, named⟩ | ⟨fault, named⟩⟩ | ⟨long, named⟩
    · rw [named]
      exact (ih.map _).congr (by simp [short])
    · rw [named]
      exact (ih.map _).congr (by simp [short])
    · rw [named]
      exact .inr ⟨by simp [long], rfl⟩

theorem readsIf_readOrder (v : Value) :
    ReadsIf (∀ w ∈ (elements? v).getD [], w.isWritable = true) (readOrder v) := by
  unfold readOrder
  split
  · next none => exact .inl ⟨by simp [none], _, rfl⟩
  · next empty => exact .inl ⟨by simp [empty], _, rfl⟩
  · next vs _ some =>
    rw [some, getD_some]
    exact (readsIf_readSources vs).map _

def switch? (doc : Value) (name other : String) : Option Value := (doc.field? name).or (doc.field? other)

theorem readsIf_readSwitch (doc : Value) (name other : String) :
    ReadsIf (∀ v, switch? doc name other = some v → v.isWritable = true) (readSwitch doc name other) := by
  have check (name : String) (v : Value) : ReadsIf (v.isWritable = true)
      (do v.checkWritable; return ({ faults := [name ++ " must be a boolean, got " ++ v.literal] } : Switch)) := by
    rcases readsIf_checkWritable v with ⟨short, a, read⟩ | ⟨long, failed⟩
    · rw [read]
      exact .inl ⟨short, _, rfl⟩
    · rw [failed]
      exact .inr ⟨long, rfl⟩
  unfold readSwitch switch?
  cases doc.field? name with
  | some v =>
    simp only [some_or, Option.some.injEq, forall_eq']
    split
    · exact .inl ⟨rfl, _, rfl⟩
    · exact check name v
  | none =>
    cases doc.field? other with
    | some v =>
      simp only [none_or, Option.some.injEq, forall_eq']
      split
      · exact .inl ⟨rfl, _, rfl⟩
      · exact check other v
    | none => exact .inl ⟨by simp, _, rfl⟩

/-- The values of a document that a complaint about it would show. -/
def Shown (doc v : Value) : Prop :=
  match doc with
  | .list vs | .tuple vs => v ∈ (elements? (.list vs)).getD []
  | .map _ => v ∈ ((doc.field? "priority").bind elements?).getD [] ∨
    switch? doc "stop_on_first" "stopOnFirst" = some v ∨
    switch? doc "check_all_for_updates" "checkAllForUpdates" = some v ∨
    switch? doc "fallback_on_error" "fallbackOnError" = some v
  | _ => False

/-- No number in what a complaint would show is too long. -/
def Quotable (doc : Value) : Prop := ∀ v, Shown doc v → v.isWritable = true

theorem settles_if_isEmpty {faults : List String} {message : String} {a : α} :
    Settles (if faults.isEmpty then .ok a else .error (.configuration message faults)) ↔ True := by
  split <;> simp [Failure.IsConfiguration]

theorem parseOrder_list (vs : List Value) : parseOrder (.list vs) = readOrder (.list vs) >>= fun r =>
    if r.2.isEmpty then .ok r.1 else .error (.configuration "Invalid source priority order" r.2) := rfl

def priorityOf (doc : Value) : Except Failure (List Source × List String) :=
  match doc.field? "priority" with
  | none => .ok ([], ["Missing 'priority' list"])
  | some v => readOrder v

theorem ofMapping_eq (doc : Value) (origin : String) : ofMapping doc origin =
    priorityOf doc >>= fun order => readSwitch doc "stop_on_first" "stopOnFirst" >>= fun stop =>
      readSwitch doc "check_all_for_updates" "checkAllForUpdates" >>= fun check =>
        readSwitch doc "fallback_on_error" "fallbackOnError" >>= fun fallback =>
          if (order.2 ++ stop.faults ++ check.faults ++ fallback.faults).isEmpty then
            .ok {
              priority := order.1, stopOnFirst := stop.value.getD true,
              checkAllForUpdates := check.value.getD false, fallbackOnError := fallback.value.getD true, origin }
          else .error (.configuration "Invalid source priority configuration"
            (order.2 ++ stop.faults ++ check.faults ++ fallback.faults)) := by
  unfold ofMapping priorityOf
  cases doc.field? "priority" <;> rfl

theorem readsIf_priorityOf (doc : Value) :
    ReadsIf (∀ v ∈ ((doc.field? "priority").bind elements?).getD [], v.isWritable = true) (priorityOf doc) := by
  unfold priorityOf
  cases doc.field? "priority" with
  | none => exact .inl ⟨by simp, _, rfl⟩
  | some v => exact readsIf_readOrder v

theorem settles_ofValue_iff (doc : Value) (origin : String) : Settles (ofValue doc origin) ↔ Quotable doc := by
  have list (vs : List Value) : Settles (parseOrder (.list vs)) ↔ Quotable (.list vs) := by
    rw [parseOrder_list, (readsIf_readOrder _).settles_bind fun _ => settles_if_isEmpty, and_true]
    rfl
  unfold ofValue
  split
  · rw [settles_map_iff, list]
  · rw [settles_map_iff, list]
    rfl
  · rw [ofMapping_eq, (readsIf_priorityOf _).settles_bind fun _ => (readsIf_readSwitch _ _ _).settles_bind
      fun _ => (readsIf_readSwitch _ _ _).settles_bind fun _ => (readsIf_readSwitch _ _ _).settles_bind
      fun _ => settles_if_isEmpty]
    simp only [Quotable, Shown, or_imp, forall_and, and_true]
  · next neither _ _ _ =>
    refine ⟨fun _ v shown => ?_, fun _ => by simp [Failure.IsConfiguration]⟩
    unfold Shown at shown
    split at shown <;> simp_all

theorem quotable_of_isPlain {doc : Value} (h : doc.IsPlain) : Quotable doc := by
  intro v shown
  refine And.left (b := v.isCyclic = false) ?_
  cases doc with
  | list vs | tuple vs => exact isPlain_of_mem_elements? (v := .list vs) h shown
  | map kvs =>
    have switch {name other : String} {v : Value} (found : switch? (.map kvs) name other = some v) : v.IsPlain :=
      (Option.or_eq_some_iff.1 found).elim h.of_field? fun found => h.of_field? found.2
    rcases shown with listed | shown | shown | shown
    · cases found : (Value.map kvs).field? "priority" with
      | none => simp [found] at listed
      | some order => exact isPlain_of_mem_elements? (h.of_field? found) (by simpa [found] using listed)
    all_goals exact switch shown
  | _ => exact shown.elim

/-- A JSON text within the limits of its reader, or no JSON. -/
def LegibleText (s : String) : Prop := ∀ d, Json.parse s ≠ .error (.failure d)

/-- A raw document whose reading ends with a policy or a complaint. -/
def Legible : Value → Prop
  | .text s => LegibleText s
  | doc => Quotable doc

theorem settles_ofRaw_iff (v : Value) (layer : String) : Settles (ofRaw v layer) ↔ Legible v := by
  cases v with
  | text s =>
    show Settles (readJson _ s >>= fun doc => ofValue doc layer) ↔ LegibleText s
    unfold readJson LegibleText
    cases read : Json.parse s with
    | ok doc => simpa [ok_bind] using (settles_ofValue_iff doc layer).2 (quotable_of_isPlain (Json.isPlain_of_parse read))
    | error fault =>
      cases fault with
      | refused r => simp [error_bind, Failure.IsConfiguration]
      | failure d => simp [error_bind, d.not_isConfiguration]
  | _ =>
    unfold ofRaw Legible
    exact settles_ofValue_iff _ layer

theorem readSources_faultless_iff {vs : List Value} :
    readSources vs = .ok (sources, []) ↔ vs.map Source.ofValue = sources.map .ok := by
  induction vs generalizing sources with
  | nil => cases sources <;> simp [readSources]
  | cons v vs ih =>
    unfold readSources
    rcases ofValue_cases v with ⟨-, ⟨s, named⟩ | ⟨fault, named⟩⟩ | ⟨-, named⟩
    · rw [map_cons, named]
      cases sources with
      | nil => cases readSources vs <;> simp [Except.map]
      | cons s' sources =>
        rw [map_cons, List.cons.injEq, ← ih]
        cases readSources vs <;> simp [Except.map, Prod.ext_iff, and_assoc]
    · rw [map_cons, named]
      cases sources <;> cases readSources vs <;> simp [Except.map]
    · rw [map_cons, named]
      cases sources <;> simp

theorem readOrder_faultless_iff : readOrder v = .ok (sources, []) ↔
      (∃ vs, elements? v = some vs ∧ vs.map Source.ofValue = sources.map .ok) ∧ sources ≠ [] ∧ sources.Nodup := by
  unfold readOrder
  split
  · next none => simp [none]
  · next empty =>
    refine ⟨fun h => by simp at h, ?_⟩
    rintro ⟨⟨vs, some, named⟩, there, -⟩
    rw [empty] at some
    cases some
    exact absurd (by simpa using named.symm) there
  · next vs nonempty some =>
    simp only [some, Option.some.injEq, exists_eq_left', ← readSources_faultless_iff,
      ← Plan.length_eraseDups_eq_iff]
    cases read : readSources vs with
    | error e => simp [Except.map]
    | ok r =>
      obtain ⟨sources', faults⟩ := r
      have there : sources' = sources → faults = [] → sources ≠ [] := by
        rintro rfl rfl rfl
        exact nonempty (map_eq_nil_iff.1 (readSources_faultless_iff.1 read))
      by_cases same : sources'.eraseDups.length = sources'.length
      · simp [Except.map, same]
        grind
      · simp [Except.map, same]
        grind

/-- There is an order, and no source stands in it twice. -/
def Usable (p : Policy) : Prop := p.priority ≠ [] ∧ p.priority.Nodup

theorem usable_of_ofValue {doc : Value} {origin : String} {p : Policy} (h : ofValue doc origin = .ok p) :
    p.Usable := by
  have list {vs : List Value} (h : (parseOrder (.list vs)).map (fun priority => { priority, origin }) = .ok p) :
      p.Usable := by
    rw [parseOrder_list] at h
    cases read : readOrder (.list vs) with
    | error e => rw [read] at h; cases h
    | ok r =>
      obtain ⟨sources, faults⟩ := r
      rw [read, ok_bind] at h
      cases faults with
      | nil => cases h; exact (readOrder_faultless_iff.1 read).2
      | cons _ _ => cases h
  unfold ofValue at h
  split at h
  · exact list h
  · exact list h
  · rw [ofMapping_eq] at h
    obtain ⟨order, read, h⟩ := bind_eq_ok.1 h
    obtain ⟨stop, -, h⟩ := bind_eq_ok.1 h
    obtain ⟨check, -, h⟩ := bind_eq_ok.1 h
    obtain ⟨fallback, -, h⟩ := bind_eq_ok.1 h
    split at h
    · next faultless =>
      cases h
      obtain ⟨sources, faults⟩ := order
      simp only [List.isEmpty_iff, List.append_eq_nil_iff] at faultless
      obtain rfl : faults = [] := faultless.1.1.1
      unfold priorityOf at read
      split at read
      · cases read
      · exact (readOrder_faultless_iff.1 read).2
    · cases h
  · cases h

theorem usable_of_ofRaw {layer : String} {p : Policy} (h : ofRaw v layer = .ok p) : p.Usable := by
  unfold ofRaw at h
  split at h
  · obtain ⟨doc, -, h⟩ := bind_eq_ok.1 h
    exact usable_of_ofValue h
  · exact usable_of_ofValue h

theorem base_cons (l : Layer) (rest : List Layer) :
    (∃ p, l.policy = .ok (some p) ∧ base (l :: rest) = ([], .ok p)) ∨
      (l.policy = .ok none ∧ base (l :: rest) = base rest) ∨
      (∃ message details, l.policy = .error (.configuration message details) ∧
        base (l :: rest) = (skipLine l.name message details :: (base rest).1, (base rest).2)) ∨
      (¬Settles l.policy ∧ ∃ e, base (l :: rest) = ([], .error e)) := by
  rw [base]
  split
  · next p said => exact .inl ⟨p, said, rfl⟩
  · next silent => exact .inr (.inl ⟨silent, rfl⟩)
  · next message details refused => exact .inr (.inr (.inl ⟨message, details, refused, rfl⟩))
  · next e other failed =>
    refine .inr (.inr (.inr ⟨fun settles => ?_, e, rfl⟩))
    have complaint := settles e failed
    cases e with
    | configuration message details => exact other message details rfl
    | _ => exact complaint

theorem exists_base_cons_iff (l : Layer) (rest : List Layer) : (∃ p, (base (l :: rest)).2 = .ok p) ↔
      Settles l.policy ∧ ((∀ p, l.policy ≠ .ok (some p)) → ∃ p, (base rest).2 = .ok p) := by
  rcases base_cons l rest with ⟨p, said, is⟩ | ⟨silent, is⟩ | ⟨message, details, refused, is⟩ | ⟨fails, e, is⟩
  · simp [said, is]
  · simp [silent, is]
  · simp [refused, is, Failure.IsConfiguration]
  · simp [fails, is]

theorem usable_of_base {layers : List Layer} {p : Policy}
    (h : ∀ l ∈ layers, ∀ p, l.policy = .ok (some p) → p.Usable) (found : (base layers).2 = .ok p) : p.Usable := by
  induction layers with
  | nil =>
    cases found
    exact ⟨by simp, by decide⟩
  | cons l rest ih =>
    have later := ih fun l hl => h l (.tail _ hl)
    rcases base_cons l rest with ⟨q, said, is⟩ | ⟨-, is⟩ | ⟨_, _, -, is⟩ | ⟨-, e, is⟩
    · rw [is] at found
      cases found
      exact h l (.head _) p said
    · exact later (by rwa [is] at found)
    · exact later (by rwa [is] at found)
    · rw [is] at found
      cases found

section Override

/-- A member of the order that a call asks for: a source, or a raw token that may name one. -/
inductive Token where
  | source (s : Source)
  | raw (s : String)

def Token.value : Token → Value
  | .source s => .source s
  | .raw s => .text s

structure Wish where
  order : Option (List Token) := none
  prefer : Option Source := none

def Wish.override (r : Wish) : Override := ⟨r.order.map (·.map Token.value), r.prefer⟩

/-- The tokens name sources, at least one and none twice. -/
def NamesOrder (tokens : List Value) : Prop :=
  ∃ sources, tokens.map Source.ofValue = sources.map .ok ∧ sources ≠ [] ∧ sources.Nodup

/-- No order that a call asks for names one and has a raw token in it. -/
def Wish.Followable (r : Wish) : Prop :=
  ∀ tokens, r.order = some tokens → NamesOrder (tokens.map Token.value) → ∀ s, .raw s ∉ tokens

def Effective.Typed (q : Effective) : Prop := ∀ v ∈ q.priority, ∃ s, v = .source s

theorem elements?_tokens (tokens : List Token) :
    elements? (.list (tokens.map Token.value)) = some (tokens.map Token.value) := by
  have plain : Value.anyCyclic (tokens.map Token.value) = false := by
    induction tokens with
    | nil => rfl
    | cons t tokens ih =>
      rw [map_cons, Value.anyCyclic, ih, Bool.or_false]
      cases t <;> rfl
  have same : Value.opened (.list (tokens.map Token.value)) = .list (tokens.map Token.value) := by
    rw [Value.opened, Value.isCyclic, plain]
    rfl
  rw [elements?, same]

theorem writable_tokens (tokens : List Token) :
    ∀ w ∈ (elements? (.list (tokens.map Token.value))).getD [], w.isWritable = true := by
  rw [elements?_tokens, getD_some]
  intro w hw
  obtain ⟨t, -, rfl⟩ := mem_map.1 hw
  cases t <;> rfl

theorem readOrder_tokens (tokens : List Token) : ∃ sources faults,
    readOrder (.list (tokens.map Token.value)) = .ok (sources, faults) ∧
      (faults = [] ↔ NamesOrder (tokens.map Token.value)) := by
  have names (ss : List Source) : (tokens.map Token.value).map Source.ofValue = ss.map .ok ∧ ss ≠ [] ∧ ss.Nodup ↔
      readOrder (.list (tokens.map Token.value)) = .ok (ss, []) := by
    simp [readOrder_faultless_iff, elements?_tokens]
  rcases readsIf_readOrder (.list (tokens.map Token.value)) with ⟨-, ⟨sources, faults⟩, read⟩ | ⟨long, -⟩
  · refine ⟨sources, faults, read, ?_⟩
    simp only [NamesOrder, names, read, Except.ok.injEq, Prod.mk.injEq, exists_eq_left']
  · exact absurd (writable_tokens tokens) long

variable {p : Policy}

theorem typed_effective (p : Policy) : p.effective.Typed := by
  intro v hv
  obtain ⟨s, -, rfl⟩ := mem_map.1 hv
  exact ⟨s, rfl⟩

theorem namesOrder_effective (h : p.Usable) : NamesOrder p.effective.priority :=
  ⟨p.priority, by rw [effective, List.map_map]; rfl, h⟩

theorem snd_order (p : Policy) (sources : List Source) :
    (p.order sources).2 = if sources ≠ [] ∧ sources.Nodup then p.withOrder sources else p := by
  have tokens : sources.map Value.source = (sources.map Token.source).map Token.value := by
    rw [List.map_map]
    rfl
  have faultless (ss : List Source) :
      readOrder (.list ((sources.map Token.source).map Token.value)) = .ok (ss, []) ↔
        sources = ss ∧ ss ≠ [] ∧ ss.Nodup := by
    rw [readOrder_faultless_iff, elements?_tokens, ← tokens]
    simp only [Option.some.injEq, exists_eq_left', List.map_map]
    exact and_congr_left fun _ => List.map_inj_right fun _ _ h => Except.ok.inj h
  unfold order
  rw [tokens]
  rcases readsIf_readOrder (.list ((sources.map Token.source).map Token.value)) with
    ⟨-, ⟨ss, faults⟩, read⟩ | ⟨long, -⟩
  · rw [read]
    cases faults with
    | cons fault more =>
      have faulty : ¬(sources ≠ [] ∧ sources.Nodup) := fun fine => by
        cases read.symm.trans ((faultless sources).2 ⟨rfl, fine⟩)
      rw [if_neg faulty]
    | nil =>
      obtain ⟨rfl, fine⟩ := (faultless ss).1 read
      rw [if_pos fine]
  · exact absurd (writable_tokens _) long

theorem nodup_order (h : p.priority.Nodup) (sources : List Source) : (p.order sources).2.priority.Nodup := by
  rw [snd_order]
  split
  · next fine => exact fine.2
  · exact h

theorem nodup_prefer (h : p.priority.Nodup) (s : Source) : (p.prefer s).2.priority.Nodup := by
  unfold prefer
  split
  · simp only [withOrder, nodup_cons, mem_filter, bne_self_eq_false, Bool.false_eq_true, and_false,
      not_false_eq_true, true_and]
    exact h.filter _
  · exact h

theorem usable_prefer (h : p.Usable) (s : Source) : (p.prefer s).2.Usable := by
  refine ⟨?_, nodup_prefer h.2 s⟩
  unfold prefer
  split
  · simp [withOrder]
  · exact h.1

theorem typed_tokens_iff (tokens : List Token) :
    (∀ v ∈ tokens.map Token.value, ∃ s, v = .source s) ↔ ∀ s, .raw s ∉ tokens := by
  refine ⟨fun typed s raw => ?_, fun typed v hv => ?_⟩
  · obtain ⟨s', no⟩ := typed _ (mem_map_of_mem raw)
    cases no
  · obtain ⟨t, ht, rfl⟩ := mem_map.1 hv
    cases t with
    | source s => exact ⟨s, rfl⟩
    | raw s => exact absurd ht (typed s)

/-- Whatever a call asks for, it gets a policy. -/
theorem override_ends (p : Policy) (r : Wish) : ∃ q, (p.override r.override).2 = .ok q ∧
    (p.Usable → NamesOrder q.priority) ∧ (q.Typed ↔ r.Followable) := by
  obtain ⟨order, prefer⟩ := r
  cases order with
  | none =>
    have followed : Wish.Followable ⟨none, prefer⟩ := nofun
    cases prefer with
    | none => exact ⟨_, rfl, namesOrder_effective, iff_of_true (typed_effective p) followed⟩
    | some s =>
      exact ⟨_, rfl, fun usable => namesOrder_effective (usable_prefer usable s),
        iff_of_true (typed_effective _) followed⟩
  | some tokens =>
    obtain ⟨sources, faults, read, faultless⟩ := readOrder_tokens tokens
    have followed : Wish.Followable ⟨some tokens, prefer⟩ ↔
        (NamesOrder (tokens.map Token.value) → ∀ s, .raw s ∉ tokens) := by simp [Wish.Followable]
    rw [followed]
    cases faults with
    | cons fault more =>
      refine ⟨p.effective, by simp [override, Wish.override, read], namesOrder_effective,
        iff_of_true (typed_effective p) fun names => ?_⟩
      cases faultless.2 names
    | nil =>
      have names := faultless.1 rfl
      refine ⟨_, by simp only [override, Wish.override, map_some, read]; rfl, fun _ => names, ?_⟩
      exact (typed_tokens_iff tokens).trans ⟨fun typed _ => typed, fun typed => typed names⟩

end Override

def layersGiven (saved : Value) (environment : Option String) : List Layer :=
  [⟨"config", .ok (.raw saved)⟩, ⟨"environment", .ok (.raw (.ofOption .text environment))⟩]

theorem policy_raw (name : String) {v : Value} (h : v ≠ .null) :
    Layer.policy ⟨name, .ok (.raw v)⟩ = (ofRaw v name).map some := by
  cases v with
  | null => exact absurd rfl h
  | _ => rfl

theorem settles_policy_raw_iff (name : String) (v : Value) :
    Settles (Layer.policy ⟨name, .ok (.raw v)⟩) ↔ Legible v := by
  by_cases h : v = .null
  · subst h
    exact iff_of_true (settles_ok none) fun _ shown => False.elim shown
  · rw [policy_raw name h, settles_map_iff, settles_ofRaw_iff]

theorem policy_raw_eq_iff {name : String} {v : Value} {p : Policy} :
    Layer.policy ⟨name, .ok (.raw v)⟩ = .ok (some p) ↔ ofRaw v name = .ok p := by
  by_cases h : v = .null
  · subst h
    refine ⟨fun said => ?_, fun said => ?_⟩ <;> cases said
  · rw [policy_raw name h]
    cases ofRaw v name <;> simp [Except.map]

theorem resolve_snd (layers : List Layer) (o : Option Override) : (resolve layers o).2 =
    (base layers).2 >>= fun p => o.elim (.ok p.effective) fun o => (p.override o).2 := by
  unfold resolve
  rcases base layers with ⟨lines, e | p⟩ <;> cases o <;> rfl

theorem exists_resolve_iff (layers : List Layer) (r : Option Wish) :
    (∃ q, (resolve layers (r.map Wish.override)).2 = .ok q) ↔ ∃ p, (base layers).2 = .ok p := by
  rw [resolve_snd]
  cases (base layers).2 with
  | error e => simp [error_bind]
  | ok p =>
    cases r with
    | none => simp [ok_bind]
    | some r =>
      obtain ⟨q, is, -⟩ := p.override_ends r
      exact iff_of_true ⟨q, is⟩ ⟨p, rfl⟩

theorem exists_base_last_iff (name : String) (v : Value) :
    (∃ p, (base [⟨name, .ok (.raw v)⟩]).2 = .ok p) ↔ Legible v := by
  rw [exists_base_cons_iff, settles_policy_raw_iff]
  exact and_iff_left fun _ => ⟨{}, rfl⟩

/-- A call gets a policy exactly when the saved value can be read and the environment can be read where it
counts. The members of its order name sources, at least one and none twice. They are sources themselves unless
the call asks for an order of raw tokens that names sources all the same. -/
theorem resolve_usable_iff (saved : Value) (environment : Option String) (r : Option Wish) :
    let answer := (resolve (layersGiven saved environment) (r.map Wish.override)).2
    ((∃ q, answer = .ok q) ↔ Legible saved ∧
        ((∀ p, ofRaw saved "config" ≠ .ok p) → ∀ s, environment = some s → LegibleText s)) ∧
      ∀ q, answer = .ok q → q.priority ≠ [] ∧ NamesOrder q.priority ∧
        (q.Typed ↔ ∀ asked, r = some asked → asked.Followable) := by
  have environs : Legible (.ofOption .text environment) ↔ ∀ s, environment = some s → LegibleText s := by
    cases environment with
    | none => exact iff_of_true (fun _ shown => False.elim shown) (by simp)
    | some s => simp [Value.ofOption, Legible]
  refine ⟨?_, fun q found => ?_⟩
  · rw [exists_resolve_iff, layersGiven, exists_base_cons_iff, settles_policy_raw_iff, exists_base_last_iff,
      environs]
    simp only [ne_eq, policy_raw_eq_iff]
  · obtain ⟨p, below, above⟩ := bind_eq_ok.1 ((resolve_snd _ _).symm.trans found)
    have usable : p.Usable := by
      refine usable_of_base (fun l hl p said => ?_) below
      simp only [layersGiven, mem_cons, not_mem_nil, or_false] at hl
      rcases hl with rfl | rfl
      · exact usable_of_ofRaw (policy_raw_eq_iff.1 said)
      · exact usable_of_ofRaw (policy_raw_eq_iff.1 said)
    have names : NamesOrder q.priority ∧ (q.Typed ↔ ∀ asked, r = some asked → asked.Followable) := by
      cases r with
      | none =>
        cases above
        exact ⟨namesOrder_effective usable, iff_of_true (typed_effective p) (by simp)⟩
      | some r =>
        obtain ⟨q', is, names, typed⟩ := p.override_ends r
        cases is.symm.trans above
        exact ⟨names usable, by simpa using typed⟩
    refine ⟨fun none => ?_, names⟩
    obtain ⟨sources, named, some, -⟩ := names.1
    rw [none] at named
    exact some (map_eq_nil_iff.1 named.symm)

/-- The saved list names a source twice and the environment holds a number: both are passed over, and the
preferred source stands first. -/
theorem resolve_usable_preferred : ∃ q, (resolve (layersGiven (.list [.text "local", .text " LOCAL "])
        (some "[\"github\", 1]")) (some (Wish.override ⟨none, some .registry⟩))).2 = .ok q ∧
      q.priority = [.source .registry, .source .home, .source .remote] ∧ NamesOrder q.priority ∧ q.Typed := by
  have default : (base (layersGiven (.list [.text "local", .text " LOCAL "]) (some "[\"github\", 1]"))).2 = .ok {} :=
    eq_ok_of_toOption (by decide +kernel)
  have is : (resolve (layersGiven (.list [.text "local", .text " LOCAL "]) (some "[\"github\", 1]"))
      (some (Wish.override ⟨none, some .registry⟩))).2 =
        .ok (effective { priority := [.registry, .home, .remote], origin := "call" }) := by
    rw [resolve_snd, default]
    rfl
  obtain ⟨-, names, typed⟩ := (resolve_usable_iff _ _ (some ⟨none, some .registry⟩)).2 _ is
  exact ⟨_, is, rfl, names, typed.2 (by simp [Wish.Followable])⟩

/-- An older name of a source passes for the source and stays in the order as it was given. -/
theorem raw_token_kept : ∃ q, (resolve (layersGiven .null none) (some (Wish.override ⟨some [.raw "github"], none⟩))).2 =
    .ok q ∧ q.priority = [.text "github"] ∧ ¬q.Typed := by
  have older : Source.ofText? "github" = some .remote := by decide +kernel
  have read : readOrder (.list [.text "github"]) = .ok ([.remote], []) :=
    readOrder_faultless_iff.2 ⟨⟨_, elements?_tokens [.raw "github"], by simp [Token.value, Source.ofValue, older]⟩,
      by simp, by simp⟩
  refine ⟨{ effective {} with priority := [.text "github"], origin := "call" }, ?_, rfl, fun typed => ?_⟩
  · rw [resolve_snd]
    show (override {} (Wish.override ⟨some [.raw "github"], none⟩)).2 = _
    simp only [override, Wish.override, map_some, map_cons, map_nil, Token.value, read]
  · obtain ⟨s, no⟩ := typed _ (.head _)
    cases no

end Policy

end TriStore
