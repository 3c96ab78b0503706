import TriStore.Proofs.UsableOrder

/-!
A saved policy that may have been edited by hand. Its file holds any bytes, is a folder or is
absent.
-/
namespace TriStore

theorem Yaml.load_of_undecodable {bytes : ByteArray} {cause : Text.Undecodable}
    (broken : Text.Utf8.decode bytes = .error cause) (first : cause.pos = 0) :
    load bytes = .error (.failure (.undecodable cause)) := by
  have nothing : (String.fromUTF8? (bytes.extract 0 0)).getD "" = "" := by
    rw [ByteArray.extract_same]
    decide +kernel
  have text : known 0 "".toList = [] := rfl
  obtain ⟨encoding, fault, pos, size, byte⟩ := cause
  obtain rfl : pos = 0 := first
  rw [load, start, broken]
  dsimp only
  rw [nothing, text, List.take_nil, Nat.zero_sub]
  rfl

namespace Policy

theorem settles_bind_iff {α β : Type} {r : Except Failure α} {f : α → Except Failure β} :
    Settles (r >>= f) ↔ Settles r ∧ ∀ a, r = .ok a → Settles (f a) := by
  cases r <;> simp [ok_bind, error_bind]

theorem policy_load (name : String) (load : Except Failure Value) :
    Layer.policy ⟨name, load.map .raw⟩ = load >>= fun v => Layer.policy ⟨name, .ok (.raw v)⟩ := by
  cases load <;> rfl

theorem resolve_of_refused {l : Layer} {rest : List Layer} {message : String} {details : List String}
    (h : l.policy = .error (.configuration message details)) (o : Option Override) : resolve (l :: rest) o =
      (skipLine l.name message details :: (resolve rest o).1, (resolve rest o).2) := by
  have first : base (l :: rest) = (skipLine l.name message details :: (base rest).1, (base rest).2) := by
    rw [base, h]
  unfold resolve
  rw [first]
  rcases base rest with ⟨lines, e | p⟩ <;> cases o <;> rfl

theorem resolve_null (name : String) (rest : List Layer) (o : Option Override) :
    resolve (⟨name, .ok (.raw .null)⟩ :: rest) o = resolve rest o := rfl

theorem policy_refused {name : String} {load : Except Failure Value}
    (settles : Settles (Layer.policy ⟨name, load.map .raw⟩)) (given : load ≠ .ok .null)
    (none : ∀ p, Layer.policy ⟨name, load.map .raw⟩ ≠ .ok (some p)) :
    ∃ message details, Layer.policy ⟨name, load.map .raw⟩ = .error (.configuration message details) := by
  cases said : Layer.policy ⟨name, load.map .raw⟩ with
  | error e =>
    have complaint := settles e said
    cases e with
    | configuration message details => exact ⟨message, details, rfl⟩
    | _ => exact False.elim complaint
  | ok answer =>
    cases answer with
    | some p => exact absurd said (none p)
    | none =>
      rw [policy_load] at said
      obtain ⟨v, loaded, silent⟩ := bind_eq_ok.1 said
      have given' : v ≠ .null := fun null => given (null ▸ loaded)
      rw [policy_raw name given'] at silent
      cases read : ofRaw v name <;> simp [read, Except.map] at silent

def environmentText? (environment : List (String × String)) : Option String :=
  ((environment.find? (·.1 == environmentName)).map (·.2)).filter (!·.isEmpty)

def environmentLayer (environment : List (String × String)) : Layer :=
  ⟨"environment", .ok ((environmentText? environment).elim .absent fun s => .raw (.text s))⟩

theorem layersOf_eq (saved : Except Failure Value) (environment : List (String × String)) :
    layersOf saved environment = [⟨"config", saved.map .raw⟩, environmentLayer environment] := by
  unfold layersOf environmentLayer environmentText?
  cases environment.find? (·.1 == environmentName) with
  | none => rfl
  | some entry =>
    by_cases empty : entry.2.isEmpty = true
    · simp [empty, Option.filter_some]
    · simp [empty, Option.filter_some]

theorem exists_base_environment_iff (environment : List (String × String)) :
    (∃ p, (base [environmentLayer environment]).2 = .ok p) ↔
      ∀ s, environmentText? environment = some s → LegibleText s := by
  unfold environmentLayer
  cases environmentText? environment with
  | none => exact iff_of_true ⟨{}, rfl⟩ (by simp)
  | some s => simpa [Policy.Legible] using exists_base_last_iff "environment" (.text s)

end Policy

namespace Home

open Policy

/-- A policy may be sought in the file: it is none, or turns out to be no YAML before it turns out to be no
text, or is YAML whose values all exist and can be shown. -/
def Sane : Option FileItem → Prop
  | some (.file bytes) =>
    (∀ d, Yaml.load bytes ≠ .error (.failure d)) ∧ ∀ v, Yaml.load bytes = .ok v → Policy.Legible v
  | _ => True

def Holds (h : Home) (t : FileTree) (p : Policy) : Prop :=
  ∃ v, h.loadPolicy t = .ok v ∧ ofRaw v "config" = .ok p

variable {h : Home} {t : FileTree} {p : Path} {content : Option FileItem}

theorem place_of_look {item : FileItem} (found : t.look p = .ok (some item)) :
    ∃ spot, t.place p = .ok spot ∧ t.get? spot = some item := by
  unfold FileTree.look at found
  split at found
  · next spot place => exact ⟨spot, place, Except.ok.inj found⟩
  · cases found
  · cases found

def ofBytes (p : Path) (bytes : ByteArray) : Except Failure Value :=
  match Yaml.load bytes with
  | .ok v => .ok v
  | .error .malformed => .error (unreadable p "malformed document")
  | .error (.failure d) => .error d.failure

theorem loadDocument_of_look (found : t.look p = .ok content) : (content = none ∧ loadDocument t p = .ok .null) ∨
      (content = some .folder ∧ ∃ why, loadDocument t p = .error (unreadable p why)) ∨
      ∃ bytes, content = some (.file bytes) ∧ loadDocument t p = ofBytes p bytes := by
  have there : t.exists? p = .ok content.isSome := by rw [FileTree.exists?, found, ok_bind]; rfl
  unfold loadDocument
  rw [there, ok_bind]
  cases content with
  | none => exact .inl ⟨rfl, rfl⟩
  | some item =>
    obtain ⟨spot, place, is⟩ := place_of_look found
    cases item with
    | folder =>
      have read : t.read p = .error (.file .isFolder p.toText none) := by
        rw [FileTree.read, place, ok_bind, is]
        rfl
      rw [read]
      exact .inr (.inl ⟨rfl, _, rfl⟩)
    | file bytes =>
      have read : t.read p = .ok bytes := by
        rw [FileTree.read, place, ok_bind, is]
        rfl
      rw [read]
      exact .inr (.inr ⟨bytes, rfl, rfl⟩)

theorem settles_loadDocument_iff (found : t.look p = .ok content) :
    (Settles (loadDocument t p) ∧ ∀ v, loadDocument t p = .ok v → Policy.Legible v) ↔ Sane content := by
  rcases loadDocument_of_look found with ⟨rfl, is⟩ | ⟨rfl, why, is⟩ | ⟨bytes, rfl, is⟩
  · rw [is]
    refine iff_of_true ⟨settles_ok _, fun v null => ?_⟩ trivial
    cases null
    exact fun _ shown => False.elim shown
  · rw [is]
    exact iff_of_true ⟨settles_error_iff.2 trivial, fun v no => by cases no⟩ trivial
  · rw [is, ofBytes, Sane]
    cases Yaml.load bytes with
    | ok v => simp
    | error fault =>
      cases fault with
      | malformed => simp [unreadable, Failure.IsConfiguration]
      | failure d => simp [d.not_isConfiguration]

/-- A call gets a policy exactly when the file is sane and the environment can be read where it counts. A sane
file with content that is no policy is passed over with one warning, and the rest is as if nothing were saved.
-/
theorem saved_policy_iff (found : t.look h.policyPath = .ok content) (environment : List (String × String))
    (r : Option Wish) :
    let whole := resolve (layersOf (h.loadPolicy t) environment) (r.map Wish.override)
    let lower := resolve (layersOf (.ok .null) environment) (r.map Wish.override)
    ((∃ p, whole.2 = .ok p) ↔ Sane content ∧
      ((∀ p, ¬h.Holds t p) → ∀ s, environmentText? environment = some s → LegibleText s)) ∧
      (h.loadPolicy t = .ok .null → whole = lower) ∧
      (Sane content → h.loadPolicy t ≠ .ok .null → (∀ p, ¬h.Holds t p) →
        ∃ message details, whole = (skipLine "config" message details :: lower.1, lower.2)) := by
  intro whole lower
  have settles : Settles (Layer.policy ⟨"config", (h.loadPolicy t).map .raw⟩) ↔ Sane content := by
    rw [policy_load, settles_bind_iff, ← settles_loadDocument_iff found]
    simp only [settles_policy_raw_iff]
    rfl
  have holds (p : Policy) : Layer.policy ⟨"config", (h.loadPolicy t).map .raw⟩ = .ok (some p) ↔ h.Holds t p := by
    simp only [policy_load, bind_eq_ok, policy_raw_eq_iff, Holds]
  refine ⟨?_, fun null => ?_, fun sane given none => ?_⟩
  · rw [exists_resolve_iff, layersOf_eq, exists_base_cons_iff, settles, exists_base_environment_iff]
    simp only [ne_eq, holds]
  · show resolve (layersOf (h.loadPolicy t) environment) _ = _
    rw [null]
  · obtain ⟨message, details, refused⟩ := policy_refused (settles.2 sane) given fun p said => none p ((holds p).1 said)
    refine ⟨message, details, ?_⟩
    show resolve (layersOf (h.loadPolicy t) environment) _ = _
    rw [layersOf_eq, resolve_of_refused refused, ← resolve_null "config"]
    exact congrArg (fun layers => (skipLine "config" message details :: (resolve layers _).1, (resolve layers _).2))
      (layersOf_eq (.ok .null) environment).symm

def edited (bytes : ByteArray) : FileTree :=
  { items := [(["home"], .folder), (["home", "source_priority.yml"], .file bytes)] }

theorem look_edited (bytes : ByteArray) :
    (edited bytes).look (policyPath ⟨⟨["home"]⟩⟩) = .ok (some (.file bytes)) := by
  have path : policyPath ⟨⟨["home"]⟩⟩ = ⟨["home", "source_priority.yml"]⟩ := by decide +kernel
  have free : (Path.mk ["home", "source_priority.yml"]).fault? = none :=
    Option.isNone_iff_eq_none.1 (by decide +kernel)
  have short : ¬FileTree.storedSize (Path.mk ["home", "source_priority.yml"]).toText > FileTree.longestPath := by
    decide +kernel
  have steps : ¬FileTree.storedSize "home" > FileTree.longestName ∧
      ¬FileTree.storedSize "source_priority.yml" > FileTree.longestName := by decide +kernel
  simp [FileTree.look, FileTree.place, path, free, short, FileTree.walk, FileTree.get?, edited, steps, List.lookup_cons]

/-- A list that is not closed: the file is passed over and the environment has the word. -/
theorem saved_policy_unclosed :
    let environment := [(environmentName, "[\"registry\"]")]
    let saved := loadPolicy ⟨⟨["home"]⟩⟩ (edited "priority: [local\n".toUTF8)
    (resolve (layersOf saved environment) none).2 = .ok (effective { priority := [.registry], origin := "environment" }) ∧
      ∃ message details, resolve (layersOf saved environment) none =
        (skipLine "config" message details :: (resolve (layersOf (.ok .null) environment) none).1,
          (resolve (layersOf (.ok .null) environment) none).2) := by
  intro environment saved
  have said : (Policy.base (layersOf saved environment)).2 = .ok { priority := [.registry], origin := "environment" } :=
    eq_ok_of_toOption (by decide +kernel)
  have answer : (resolve (layersOf saved environment) none).2 =
      .ok (effective { priority := [.registry], origin := "environment" }) := by
    rw [resolve_snd, said]
    rfl
  have refused : saved.toOption.isNone = true := by decide +kernel
  obtain ⟨gets, -, skips⟩ := saved_policy_iff (look_edited "priority: [local\n".toUTF8) environment none
  refine ⟨answer, skips (gets.1 ⟨_, answer⟩).1 (fun null => ?_) fun p holds => ?_⟩
  · rw [show saved = .ok .null from null] at refused
    cases refused
  · obtain ⟨v, loaded, -⟩ := holds
    rw [show saved = .ok v from loaded] at refused
    cases refused

/-- One byte that is no text is the end of all. -/
theorem undecodable_file_breaks : (resolve (layersOf (loadPolicy ⟨⟨["home"]⟩⟩ (edited ⟨#[0xff]⟩)) []) none).2 =
      .error (.undecodable ⟨"utf-8", .start, 0, 1, 0xff⟩) := by
  have decoded : Text.Utf8.decode ⟨#[0xff]⟩ = .error ⟨"utf-8", .start, 0, 1, 0xff⟩ := by decide +kernel
  have loaded := Yaml.load_of_undecodable decoded rfl
  rcases loadDocument_of_look (look_edited ⟨#[0xff]⟩) with ⟨no, -⟩ | ⟨no, -⟩ | ⟨bytes, same, is⟩
  · cases no
  · cases no
  · cases same
    rw [loadPolicy, is, ofBytes, loaded]
    rfl

end Home

end TriStore
