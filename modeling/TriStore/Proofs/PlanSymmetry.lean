import Mathlib.Data.List.Forall2
import TriStore.Proofs.PlanSafety

/-!
Pushing from one index to another and pulling the other way are planned alike.
-/
namespace TriStore
open String

def Direction.opposite : Direction → Direction
  | .push => .pull
  | .pull => .push
  | .both => .both

theorem Direction.opposite_opposite (d : Direction) : d.opposite.opposite = d := by
  cases d <;> rfl

theorem isNewer_asymm {s t : String} (h : isNewer s t = true) : isNewer t s = false := by
  by_contra back
  obtain ⟨a, b, ha, hb, before⟩ := isNewer_iff.1 h
  obtain ⟨b', a', hb', ha', before'⟩ := isNewer_iff.1 (by simpa using back)
  obtain rfl : a = a' := Option.some.inj (ha.symm.trans ha')
  obtain rfl : b = b' := Option.some.inj (hb.symm.trans hb')
  unfold Version.Before at before before'
  omega

namespace Plan

variable {here there : List Entry} {d : Direction} {m : Mode} {k : Key} {i : PlanItem} {p : Pair}

/-- A part of a reason: the name of a side, or other words. -/
inductive Phrase where
  | side (here : Bool)
  | said (words : String)

namespace Phrase

def text : Phrase → String
  | .side here => if here then "local" else "remote"
  | .said words => words

/-- The same said of the other side. -/
def turned : Phrase → Phrase
  | .side here => .side !here
  | .said words => .said words

def wording (phrases : List Phrase) : String := phrases.foldr (fun p rest => p.text ++ rest) ""

theorem turned_turned (p : Phrase) : p.turned.turned = p := by
  cases p <;> simp [turned]

end Phrase

/-- The reasons are the same but for the names of the sides, which are exchanged. -/
def Reworded (reason reason' : String) : Prop :=
  ∃ phrases, reason = Phrase.wording phrases ∧ reason' = Phrase.wording (phrases.map (·.turned))

theorem Reworded.refl (reason : String) : Reworded reason reason :=
  ⟨[.said reason], by simp [Phrase.wording, Phrase.text], by simp [Phrase.wording, Phrase.text, Phrase.turned]⟩

theorem Reworded.symm {reason reason' : String} (h : Reworded reason reason') : Reworded reason' reason := by
  obtain ⟨phrases, first, second⟩ := h
  refine ⟨phrases.map (·.turned), second, ?_⟩
  simpa [Function.comp_def, Phrase.turned_turned] using first

theorem Reworded.of_side (here : Bool) (front back : String) :
    Reworded (front ++ (if here then "local" else "remote") ++ back)
      (front ++ (if here then "remote" else "local") ++ back) := by
  refine ⟨[.said front, .side here, .said back], ?_, ?_⟩
  · simp [Phrase.wording, Phrase.text, append_assoc]
  · cases here <;> simp [Phrase.wording, Phrase.text, Phrase.turned, append_assoc]

theorem Reworded.of_newer (here : Bool) (version version' : String) :
    Reworded ((if here then "local " else "remote ") ++ version ++
        (if here then " is newer than remote " else " is newer than local ") ++ version')
      ((if here then "remote " else "local ") ++ version ++
        (if here then " is newer than local " else " is newer than remote ") ++ version') := by
  refine ⟨[.side here, .said (" " ++ version ++ " is newer than "), .side !here, .said (" " ++ version')],
    ?_, ?_⟩
  all_goals
    cases here <;>
      simp [Phrase.wording, Phrase.text, Phrase.turned, ← toList_inj]

theorem divergence_comm (a b : Entry) : divergence a b = divergence b a := by
  unfold divergence
  by_cases same : a.version = b.version
  · simp [same]
  · simp [same, Ne.symm same]

/-- The second verdict is the first one for exchanged sides. -/
structure Verdict.Mirrors (v w : Verdict) : Prop where
  step : w.step = v.step
  flow : w.flow = v.flow.opposite
  executable : w.executable = v.executable
  reason : Reworded v.reason w.reason

theorem Verdict.Mirrors.symm {v w : Verdict} (h : v.Mirrors w) : w.Mirrors v :=
  ⟨h.step.symm, by rw [h.flow, Direction.opposite_opposite], h.executable.symm, h.reason.symm⟩

theorem twoWay_mirrors (a b : Option Entry) (present : a ≠ none ∨ b ≠ none) :
    (twoWay ⟨a, b⟩).Mirrors (twoWay ⟨b, a⟩) := by
  cases a with
  | none =>
    cases b with
    | none => simp at present
    | some b => exact ⟨rfl, rfl, rfl, .of_side false "only in " " portfolio"⟩
  | some a =>
    cases b with
    | none => exact ⟨rfl, rfl, rfl, .of_side true "only in " " portfolio"⟩
    | some b =>
      by_cases same : a.sameContent b = true
      · have same' := Entry.sameContent_comm b a ▸ same
        simp only [twoWay, same, same', if_true]
        exact ⟨rfl, rfl, rfl, .refl _⟩
      · have same' : ¬b.sameContent a = true := Entry.sameContent_comm b a ▸ same
        -- The one here is asked first whether it is newer, but never are both.
        by_cases newer : isNewer a.version b.version = true
        · simp only [twoWay, same, same', newer, isNewer_asymm newer, if_true]
          exact ⟨rfl, rfl, rfl, .of_newer true a.version b.version⟩
        · by_cases older : isNewer b.version a.version = true
          · simp only [twoWay, same, same', newer, older, if_true]
            exact ⟨rfl, rfl, rfl, .of_newer false b.version a.version⟩
          · simp only [twoWay, same, same', newer, older, divergence_comm b a]
            exact ⟨rfl, rfl, rfl, .refl _⟩

theorem Verdict.Mirrors.ite {c : Prop} [Decidable c] {v v' w w' : Verdict} (yes : v.Mirrors w)
    (no : v'.Mirrors w') : (if c then v else v').Mirrors (if c then w else w') := by
  split
  · exact yes
  · exact no

theorem oneWay_mirrors (m : Mode) (a b : Option Entry) :
    (oneWay .push m ⟨a, b⟩).Mirrors (oneWay .pull m ⟨b, a⟩) := by
  cases b with
  | none => exact ⟨rfl, rfl, rfl, .of_side false "missing from " " portfolio"⟩
  | some b =>
    cases a with
    | none =>
      refine .ite ⟨rfl, rfl, rfl, .of_side true "not in " " portfolio"⟩ ⟨rfl, rfl, rfl, ?_⟩
      refine ⟨[.said "not in ", .side true, .said (" portfolio; kept (" ++ m.label ++ " mode never deletes)")],
        ?_, ?_⟩
      all_goals simp [Phrase.wording, Phrase.text, Phrase.turned, ← toList_inj]
    | some a =>
      refine .ite ⟨rfl, rfl, rfl, .refl _⟩ (.ite ⟨rfl, rfl, rfl, .refl _⟩ (.ite ⟨rfl, rfl, rfl, .refl _⟩
        (.ite ⟨rfl, rfl, rfl, ?_⟩ ⟨rfl, rfl, rfl, ?_⟩)))
      · refine ⟨[.side false, .said (" portfolio has newer version " ++ b.version ++ " (source has " ++
          a.version ++ ")")], ?_, ?_⟩
        all_goals simp [Phrase.wording, Phrase.text, Phrase.turned, ← toList_inj]
      · change Reworded (divergence a b) (divergence b a)
        rw [divergence_comm b a]
        exact .refl _

theorem verdict_mirrors (d : Direction) (m : Mode) (a b : Option Entry) (present : a ≠ none ∨ b ≠ none) :
    (verdict d m ⟨a, b⟩).Mirrors (verdict d.opposite m ⟨b, a⟩) := by
  cases d with
  | push => exact oneWay_mirrors m a b
  | pull => exact (oneWay_mirrors m b a).symm
  | both => exact twoWay_mirrors a b present

/-- The second item is the first one for exchanged sides. -/
structure Turned (i j : PlanItem) : Prop where
  key : j.key = i.key
  step : j.step = i.step
  flow : j.flow = i.flow.opposite
  executable : j.executable = i.executable
  reason : Reworded i.reason j.reason
  localVersion : j.localVersion = i.remoteVersion
  remoteVersion : j.remoteVersion = i.localVersion
  localRevision : j.localRevision = i.remoteRevision
  remoteRevision : j.remoteRevision = i.localRevision

theorem item_turned (d : Direction) (m : Mode) (k : Key) (a b : Option Entry)
    (present : a ≠ none ∨ b ≠ none) : Turned (item d m k ⟨a, b⟩) (item d.opposite m k ⟨b, a⟩) := by
  obtain ⟨step, flow, executable, reason⟩ := verdict_mirrors d m a b present
  exact ⟨rfl, step, flow, executable, reason, rfl, rfl, rfl, rfl⟩

/-- The second plan is the first one for exchanged sides. -/
structure Mirrors (p q : Plan) : Prop where
  direction : q.direction = p.direction.opposite
  mode : q.mode = p.mode
  warnings : q.warnings = p.warnings
  items : List.Forall₂ Turned p.items q.items

theorem keysOf_comm (kept : ∀ e ∈ here ++ there, e.HasKeptName) : keysOf there here = keysOf here there :=
  keysOf_congr kept fun k => by rw [mem_keysOf, mem_keysOf, or_comm]

theorem not_isPrivate (plain : ∀ e ∈ here, e.localOnly = false) (k : Key) : isPrivate here k = false :=
  isPrivate_eq_false_iff.2 fun e last => plain e (mem_of_lastWith (lastWith_eq_some_iff.2 last)).1

theorem build_of_plain (plain : ∀ e ∈ here, e.localOnly = false) (mode : m ≠ .backup) : build here there d m =
      ⟨d, m, (keysOf here there).map fun k => item d m k ⟨lastWith k here, lastWith k there⟩, []⟩ := by
  simp [build, effective_of_ne mode, directionWarning, not_isPrivate plain]

theorem check_eq_ok_iff_of_plain (plain : ∀ e ∈ here, e.localOnly = false) :
    check here there d m = .ok () ↔ ∀ k ∈ keysOf here there, ∀ a b, lastWith k here = some a →
      lastWith k there = some b → a.sameContent b = true ∨ m = .backup ∨
        Version.check a.version = .ok () ∧ Version.check b.version = .ok () := by
  rw [check, forM_eq_ok_iff]
  simp [checkPair_eq_ok_iff, not_isPrivate plain]

/-- For indexes without private entries, and unless a backup is made, exchanging the indexes and the direction
exchanges the sides of the plan and changes nothing else: what is pushed one way is pulled the other way, and
a plan both ways does not depend on which index is the one here. One is refused exactly where the other is. -/
theorem exchanged_plan (here there : List Entry) (d : Direction) (m : Mode)
    (kept : ∀ e ∈ here ++ there, e.HasKeptName) (plain : ∀ e ∈ here ++ there, e.localOnly = false)
    (mode : m ≠ .backup) : (build here there d m).Mirrors (build there here d.opposite m) ∧
      (check there here d.opposite m = .ok () ↔ check here there d m = .ok ()) := by
  have home : ∀ e ∈ here, e.localOnly = false := fun e he => plain e (by simp [he])
  have away : ∀ e ∈ there, e.localOnly = false := fun e he => plain e (by simp [he])
  constructor
  · rw [build_of_plain home mode, build_of_plain away mode, keysOf_comm kept]
    refine ⟨rfl, rfl, rfl, ?_⟩
    rw [List.forall₂_map_left_iff, List.forall₂_map_right_iff, List.forall₂_same]
    exact fun k hk => item_turned d m k _ _ (mem_keysOf_iff.1 hk)
  · rw [check_eq_ok_iff_of_plain home, check_eq_ok_iff_of_plain away, keysOf_comm kept]
    refine forall₂_congr fun k _ => ?_
    rw [forall_comm]
    refine forall₂_congr fun a b => ?_
    rw [Entry.sameContent_comm b a, and_comm (a := Version.check b.version = _)]
    exact imp.swap

/-- A later version there that is pulled from here is pushed from there. -/
theorem exchanged_plan_update : (∀ e ∈ [sample "1" "x"] ++ [sample "v1.2" "y"], e.HasKeptName) ∧
    (∃ i ∈ (build [sample "1" "x"] [sample "v1.2" "y"] .both .mirror).items,
      i.step = .update ∧ i.flow = .pull) ∧
    (build [sample "1" "x"] [sample "v1.2" "y"] .both .mirror).Mirrors
      (build [sample "v1.2" "y"] [sample "1" "x"] .both .mirror) := by
  have kept : ∀ e ∈ [sample "1" "x"] ++ [sample "v1.2" "y"], e.HasKeptName := by
    have text : Text.IsKept "a" := by
      simp only [Text.IsKept]
      decide
    simpa [sample, Entry.HasKeptName] using text
  have plain : ∀ e ∈ [sample "1" "x"] ++ [sample "v1.2" "y"], e.localOnly = false := by decide
  have key : (sample "v1.2" "y").key = (sample "1" "x").key := rfl
  have settled : (twoWay ⟨some (sample "1" "x"), some (sample "v1.2" "y")⟩).step = .update ∧
      (twoWay ⟨some (sample "1" "x"), some (sample "v1.2" "y")⟩).flow = .pull := by decide +kernel
  refine ⟨kept, ⟨_, item_mem_items (k := (sample "1" "x").key) (mem_keysOf.2 (.inl ⟨_, by simp, rfl⟩))
    (not_isPrivate (by decide) _), ?_⟩, (exchanged_plan _ _ .both .mirror kept plain (by decide)).1⟩
  simp [item, verdict, effective, lastWith, key, settled]

end Plan

end TriStore
