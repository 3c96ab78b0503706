import TriStore.Proofs.UsableOrder

/-!
A policy is that of the first layer whose document makes one, or the built-in policy.
-/
namespace TriStore
open List

theorem Json.parse_digits {n : Nat} (long : maxDigits < n) :
    parse (String.ofList (List.replicate n '1')) = .error (.failure (.tooManyDigits (some n))) := by
  obtain ⟨k, rfl⟩ : ∃ k, n = k + 1 := ⟨n - 1, by omega⟩
  have number : scanNumber ⟨'1' :: List.replicate k '1', 0⟩ =
      .error (.failure (.tooManyDigits (some (k + 1)))) := by
    have digits : ('1' :: List.replicate k '1').takeWhile isDigit = '1' :: List.replicate k '1' := by
      simp [takeWhile_replicate_eq_filter, show isDigit '1' = true by decide]
    simp [scanNumber, digits, scanFraction, scanExponent, long]
  rw [parse, String.toList_ofList]
  show (scanNumber ⟨'1' :: List.replicate k '1', 0⟩ >>= fun r =>
    if r.2.gaps.rest.isEmpty then .ok r.1 else refuse .extra r.2.gaps) = _
  rw [number]
  rfl

namespace Policy

namespace Layer

variable {l : Layer}

/-- The policy that the document of a layer makes, a text being read as JSON; its origin is the layer. -/
def accepted? (l : Layer) : Option Policy :=
  match l.load with
  | .ok (.ready p) => some { p with origin := l.name }
  | .ok (.raw (.text s)) => (Json.parse s).toOption.bind fun doc => (ofValue doc l.name).toOption
  | .ok (.raw v) => (ofValue v l.name).toOption
  | _ => none

def isSilent (l : Layer) : Bool :=
  match l.load with
  | .ok .absent | .ok (.raw .null) => true
  | _ => false

/-- The document of the layer is within the limits of its reading. -/
def Legible (l : Layer) : Prop := ∀ v, l.load = .ok (.raw v) → Policy.Legible v

def warning? (l : Layer) : Option String :=
  match l.policy with
  | .error (.configuration message details) => some (skipLine l.name message details)
  | _ => none

theorem accepted?_eq (l : Layer) : l.accepted? = l.policy.toOption.join := by
  obtain ⟨name, load⟩ := l
  cases load with
  | error e => rfl
  | ok document =>
    cases document with
    | absent => rfl
    | ready p => rfl
    | raw v =>
      by_cases h : v = .null
      · subst h
        rfl
      · rw [policy_raw name h]
        cases v with
        | text s =>
          show (Json.parse s).toOption.bind (fun doc => (ofValue doc name).toOption) =
            ((readJson _ s >>= fun doc => ofValue doc name).map some).toOption.join
          unfold readJson
          cases Json.parse s with
          | error fault => cases fault <;> rfl
          | ok doc =>
            rw [ok_bind]
            show (ofValue doc name).toOption = _
            cases ofValue doc name <;> rfl
        | _ =>
          unfold accepted? ofRaw
          dsimp only
          generalize ofValue _ name = answer
          cases answer <;> rfl

theorem accepted?_eq_some_iff {p : Policy} : l.accepted? = some p ↔ l.policy = .ok (some p) := by
  rw [accepted?_eq]
  rcases l.policy with e | said
  · exact iff_of_false nofun nofun
  · cases said <;> simp [Except.toOption]

theorem accepted?_eq_none_iff : l.accepted? = none ↔ ∀ p, l.policy ≠ .ok (some p) := by
  simp [Option.eq_none_iff_forall_ne_some, accepted?_eq_some_iff]

theorem isSilent_iff : l.isSilent = true ↔ l.policy = .ok none := by
  obtain ⟨name, load⟩ := l
  cases load with
  | error e => exact iff_of_false nofun nofun
  | ok document =>
    cases document with
    | absent => exact iff_of_true rfl rfl
    | ready p => exact iff_of_false nofun nofun
    | raw v =>
      by_cases h : v = .null
      · subst h
        exact iff_of_true rfl rfl
      · have spoken : Layer.isSilent ⟨name, .ok (.raw v)⟩ = false := by
          cases v with
          | null => exact absurd rfl h
          | _ => rfl
        rw [policy_raw name h, spoken]
        cases ofRaw v name <;> exact iff_of_false nofun nofun

theorem settles_policy_iff : Settles l.policy ↔ Settles l.load ∧ l.Legible := by
  obtain ⟨name, load⟩ := l
  cases load with
  | error e =>
    have legible : Layer.Legible ⟨name, .error e⟩ := fun _ held => by cases held
    show Settles (.error e : Except Failure (Option Policy)) ↔ Settles (.error e : Except Failure Document) ∧ _
    rw [settles_error_iff, settles_error_iff, and_iff_left legible]
  | ok document =>
    cases document with
    | absent => exact iff_of_true (settles_ok _) ⟨settles_ok _, nofun⟩
    | ready p => exact iff_of_true (settles_ok _) ⟨settles_ok _, nofun⟩
    | raw v => simp [settles_policy_raw_iff, Legible]

theorem isSome_warning? (settles : Settles l.policy) (refused : l.accepted? = none) :
    l.warning?.isSome = !l.isSilent := by
  unfold warning?
  split
  · next message details failed =>
    have spoken : l.isSilent = false := by simp [Bool.eq_false_iff, isSilent_iff, failed]
    rw [spoken]
    rfl
  · next other =>
    cases said : l.policy with
    | error e =>
      have complaint := settles e said
      cases e with
      | configuration message details => exact absurd said (other message details)
      | _ => exact complaint.elim
    | ok said' =>
      cases said' with
      | none => rw [isSilent_iff.2 said]; rfl
      | some p => exact absurd said (accepted?_eq_none_iff.1 refused p)

end Layer

variable {l : Layer} {layers : List Layer}

def passed (layers : List Layer) : List Layer := layers.takeWhile (·.accepted?.isNone)

theorem passed_cons_some {p : Policy} (h : l.accepted? = some p) (rest : List Layer) : passed (l :: rest) = [] := by
  simp [passed, h]

theorem passed_cons_none (h : l.accepted? = none) (rest : List Layer) : passed (l :: rest) = l :: passed rest := by
  simp [passed, h]

theorem settles_of_cons {rest : List Layer} (h : ∀ k ∈ passed (l :: rest), Settles k.policy) :
    Settles l.policy := by
  cases found : l.accepted? with
  | some p => rw [Layer.accepted?_eq_some_iff.1 found]; exact settles_ok _
  | none => exact h l (by rw [passed_cons_none found]; exact (.head _))

theorem exists_base_iff : (∃ p, (base layers).2 = .ok p) ↔ ∀ l ∈ passed layers, Settles l.policy := by
  induction layers with
  | nil => exact iff_of_true ⟨{}, rfl⟩ nofun
  | cons l rest ih =>
    rw [exists_base_cons_iff, ih]
    cases said : l.accepted? with
    | some p =>
      have is := Layer.accepted?_eq_some_iff.1 said
      simp [passed_cons_some said, is]
    | none =>
      have other := Layer.accepted?_eq_none_iff.1 said
      simp [passed_cons_none said, other]

theorem base_cons_some {p : Policy} (h : l.accepted? = some p) (rest : List Layer) :
    base (l :: rest) = ([], .ok p) := by
  rw [base, Layer.accepted?_eq_some_iff.1 h]

theorem base_cons_none (settles : Settles l.policy) (h : l.accepted? = none) (rest : List Layer) :
    base (l :: rest) = (l.warning?.toList ++ (base rest).1, (base rest).2) := by
  rcases base_cons l rest with ⟨p, said, -⟩ | ⟨silent, is⟩ | ⟨message, details, refused, is⟩ | ⟨fails, -⟩
  · exact absurd said (Layer.accepted?_eq_none_iff.1 h p)
  · rw [is, Layer.warning?, silent]
    rfl
  · rw [is, Layer.warning?, refused]
    rfl
  · exact absurd settles fails

theorem base_eq (settle : ∀ l ∈ passed layers, Settles l.policy) :
    base layers = ((passed layers).filterMap Layer.warning?, .ok ((layers.findSome? Layer.accepted?).getD {})) := by
  induction layers with
  | nil => rfl
  | cons l rest ih =>
    cases found : l.accepted? with
    | some p =>
      rw [base_cons_some found, passed_cons_some found, List.findSome?_cons, found]
      rfl
    | none =>
      rw [base_cons_none (settles_of_cons settle) found]
      rw [passed_cons_none found] at settle ⊢
      rw [ih fun l hl => settle l (.tail _ hl), List.findSome?_cons, found, filterMap_cons]
      cases l.warning? <;> rfl

theorem base_append_cons {p : Policy} (h : l.accepted? = some p) (front back other : List Layer) :
    base (front ++ l :: back) = base (front ++ l :: other) := by
  induction front with
  | nil => rw [nil_append, nil_append, base_cons_some h, base_cons_some h]
  | cons first front ih => rw [cons_append, cons_append, base, base, ih]

theorem base_insert (settles : Settles l.policy) (h : l.accepted? = none) (front back : List Layer) :
    (base (front ++ l :: back)).2 = (base (front ++ back)).2 := by
  induction front with
  | nil => rw [nil_append, base_cons_none settles h, nil_append]
  | cons first front ih =>
    rw [cons_append, cons_append, base, base]
    split
    · rfl
    · exact ih
    · exact ih
    · rfl

/-- A named layer that has yet to be read, in a monad where reading may do more than answer. -/
structure Loader (m : Type → Type) where
  name : String
  load : m (Except Failure Document)

/-- The search for a policy in layers that are read one by one. -/
def search {m : Type → Type} [Monad m] : List (Loader m) → m (List String × Except Failure Policy)
  | [] => pure ([], .ok {})
  | l :: rest => do
    let layer : Layer := ⟨l.name, ← l.load⟩
    match layer.policy with
    | .ok (some p) => pure ([], .ok p)
    | .ok none => search rest
    | .error (.configuration message details) => do
      let (lines, p) ← search rest
      pure (skipLine l.name message details :: lines, p)
    | .error e => pure ([], .error e)

def Layer.logged (l : Layer) : Loader (StateM (List String)) :=
  ⟨l.name, do modify (· ++ [l.name]); return l.load⟩

theorem search_logged (settle : ∀ l ∈ passed layers, Settles l.policy) (read : List String) :
    (search (layers.map Layer.logged)).run read = (base layers,
      read ++ (passed layers ++ (layers.find? (·.accepted?.isSome)).toList).map (·.name)) := by
  induction layers generalizing read with
  | nil =>
    simp [passed]
    rfl
  | cons l rest ih =>
    rw [map_cons, search]
    rcases base_cons l rest with ⟨p, said, is⟩ | ⟨silent, is⟩ | ⟨message, details, refused, is⟩ | ⟨fails, -⟩
    · have found := Layer.accepted?_eq_some_iff.2 said
      simp [Layer.logged, said, is, passed_cons_some found, found]
      rfl
    · have absent : l.accepted? = none := by rw [Layer.accepted?_eq, silent]; rfl
      rw [passed_cons_none absent] at settle ⊢
      have later := ih (fun l hl => settle l (.tail _ hl)) (read ++ [l.name])
      simp [Layer.logged, silent, later, is, absent]
    · have absent : l.accepted? = none := by rw [Layer.accepted?_eq, refused]; rfl
      rw [passed_cons_none absent] at settle ⊢
      have later := ih (fun l hl => settle l (.tail _ hl)) (read ++ [l.name])
      simp [Layer.logged, refused, later, is, absent]
      rfl
    · exact absurd (settles_of_cons settle) fails

/-- **The first layer that makes a policy counts.** A policy comes of the layers exactly when those before the
first that makes one are legible. It is that one, or the built-in one; each layer before it is complained of
once, in order, if it says anything; and no later layer is read, so what stands there is without effect. A
legible layer that makes none may stand anywhere. -/
theorem first_accepted_counts (sane : ∀ l ∈ layers, Settles l.load) :
    ((∃ p, (base layers).2 = .ok p) ↔ ∀ l ∈ passed layers, l.Legible) ∧ ((∀ l ∈ passed layers, l.Legible) →
      base layers = ((passed layers).filterMap Layer.warning?, .ok ((layers.findSome? Layer.accepted?).getD {})) ∧
      (∀ l ∈ passed layers, l.warning?.isSome = !l.isSilent) ∧
      (search (layers.map Layer.logged)).run [] = (base layers,
        (passed layers ++ (layers.find? (·.accepted?.isSome)).toList).map (·.name))) ∧
    (∀ front l back other, layers = front ++ l :: back → l.accepted?.isSome →
      base (front ++ l :: other) = base layers) ∧
    ∀ front l back, layers = front ++ back → Settles l.load → l.Legible → l.accepted? = none →
      (base (front ++ l :: back)).2 = (base layers).2 := by
  have legible : (∀ l ∈ passed layers, l.Legible) ↔ ∀ l ∈ passed layers, Settles l.policy := by
    refine forall₂_congr fun l hl => ?_
    rw [Layer.settles_policy_iff, and_iff_right (sane l ((List.takeWhile_prefix _).subset hl))]
  refine ⟨exists_base_iff.trans legible.symm, fun h => ?_, ?_, ?_⟩
  · have settle := legible.1 h
    refine ⟨base_eq settle, fun l hl => ?_, by simpa using search_logged settle []⟩
    exact Layer.isSome_warning? (settle l hl) (by simpa using all_eq_true.1 all_takeWhile l hl)
  · rintro front l back other rfl makes
    obtain ⟨p, makes⟩ := Option.isSome_iff_exists.1 makes
    exact base_append_cons makes front other back
  · rintro front l back rfl loads reads makes
    exact base_insert (Layer.settles_policy_iff.2 ⟨loads, reads⟩) makes front back

def endlessLayer : Layer :=
  ⟨"endless", .ok (.raw (.text (String.ofList (List.replicate (maxDigits + 1) '1'))))⟩

/-- One layer is silent and one illegible before the one that counts; an endless one is behind it. -/
theorem first_accepted_counts_third :
    let layers := [⟨"a", .ok .absent⟩, ⟨"b", .error (.configuration "no folder" [])⟩,
      ⟨"c", .ok (.raw (.list [.text " Remote"]))⟩, endlessLayer]
    base layers = (["Ignoring invalid source priority from b: no folder"],
        .ok { priority := [.remote], origin := "c" }) ∧
      ((search (layers.map Layer.logged)).run []).2 = ["a", "b", "c"] := by
  intro layers
  have makes : Layer.accepted? ⟨"c", .ok (.raw (.list [.text " Remote"]))⟩ =
      some { priority := [.remote], origin := "c" } := by decide +kernel
  have before : passed layers = [⟨"a", .ok .absent⟩, ⟨"b", .error (.configuration "no folder" [])⟩] := by
    rw [passed_cons_none rfl, passed_cons_none rfl, passed_cons_some makes]
  have sane : ∀ l ∈ layers, Settles l.load := by
    simp [layers, endlessLayer, Failure.IsConfiguration]
  have legible : ∀ l ∈ passed layers, l.Legible := by
    rw [before]
    simp [Layer.Legible]
  obtain ⟨is, -, read⟩ := (first_accepted_counts sane).2.1 legible
  refine ⟨?_, ?_⟩
  · rw [is, before]
    simp [layers, List.findSome?_cons, makes]
    exact ⟨by decide +kernel, rfl⟩
  · rw [read, before]
    simp [layers, List.find?_cons, makes]
    exact ⟨_, rfl, rfl⟩

/-- Such a layer is not passed over, although the next one makes a policy. -/
theorem endless_layer_ends_all :
    ¬∃ p, (base [endlessLayer, ⟨"b", .ok (.raw (.list [.text "remote"]))⟩]).2 = .ok p := by
  have illegible : ¬Settles endlessLayer.policy := fun settles =>
    (settles_policy_raw_iff _ _).1 settles _ (Json.parse_digits (Nat.lt_succ_self maxDigits))
  rw [exists_base_cons_iff]
  exact fun h => illegible h.1

end Policy

end TriStore
