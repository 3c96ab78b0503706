import TriStore.Proofs.ShelfCopy

/-!
Caching cannot be seen, as long as queries that are kept under one key have one normal name.
-/
namespace TriStore

/-- The world without what is kept: no listings, and a cache for hits that takes none. -/
def World.uncached (w : World) : World := { w with
  home.cached := false
  remote.cached := false
  registry.cached := false
  results := { w.results with items := [], memory := 0, maxMemory := .whole 0 } }

namespace Portfolio

open TriStore.Action

def Asked (calls : List Call) (query : String) (kind : Option Kind) : Prop :=
  ∃ o, Call.search query o ∈ calls ∧ o.kind = kind

/-- Different texts that are to be keys have different digests. -/
def DigestsApart (K : String → Option Kind → Prop) : Prop :=
  ∀ q kind q' kind' bs bs', K q kind → K q' kind' → Digest.bytesOf (searchText q kind) = .ok bs →
    Digest.bytesOf (searchText q' kind') = .ok bs' → Digest.sha1 bs.toList = Digest.sha1 bs'.toList →
    searchText q kind = searchText q' kind'

/-- Stores in memory before the first call. Nothing is kept, no call is under way, the stores answer in time,
a write drops what is kept of its store, and validated content can still be encoded. -/
structure Opens (p : Portfolio) (w : World) : Prop where
  shelves : ∀ s, ∃ y, (w.store s).backing = .shelf y ∧ p.AnswersInTime y
  noListings : w.listings.items = []
  noResults : w.results.items = []
  idle : w.running = []
  drops : p.dropsResults = true
  validate : ∀ key c c', Digest.Encodes c → p.validate key c = .ok c' → Digest.Encodes c'

/-- Queries with one key have one normal name. -/
def NamesAgree (Q : String → Prop) : Prop :=
  ∀ q q' kind, Q q → Q q' → Digest.Encodes (searchText q kind) →
    Text.lower (Text.strip q) = Text.lower (Text.strip q') → Name.normalize q = Name.normalize q'

theorem oneMeaning {K : String → Option Kind → Prop} {Q : String → Prop} (apart : DigestsApart K)
    (names : NamesAgree Q) (sub : ∀ q kind, K q kind → Q q) : OneMeaning fun _ => K := by
  intro s t q q' kind kind' key hk hk' hkey hkey'
  obtain ⟨bs, hbs, rfl⟩ := resultsKey_eq_ok.1 hkey
  obtain ⟨bs', hbs', same⟩ := resultsKey_eq_ok.1 hkey'
  have store : s = t := Source.keyFront_prefix_iff.1 (same ▸ Source.keyFront_prefix_iff.2 rfl)
  subst store
  have lists := congrArg String.toList same
  simp only [String.toList_append, List.append_cancel_left_eq] at lists
  have text := apart q kind q' kind' bs bs' hk hk' hbs hbs' (String.toList_inj.1 lists)
  obtain ⟨fold, rfl⟩ := searchText_injective text
  have name := names q q' kind (sub q kind hk) (sub q' kind hk') ⟨bs, hbs⟩ fold
  exact ⟨rfl, rfl, Hit.among_eq fold name s⟩

theorem oneMeaning_single (query : String) (kind : Option Kind) : OneMeaning fun _ q k => q = query ∧ k = kind := by
  refine oneMeaning (K := fun q k => q = query ∧ k = kind) (Q := fun q => q = query) ?_ ?_
    fun q k hk => hk.1
  · rintro q k q' k' bs bs' ⟨rfl, rfl⟩ ⟨rfl, rfl⟩ - - -
    rfl
  · rintro q q' k rfl rfl - -
    rfl

section Delays

def SameDelays (x x' : Source → Shelf) : Prop := ∀ s, (x' s).delay = (x s).delay

instance : Std.Refl SameDelays := ⟨fun _ _ => rfl⟩

instance : Trans SameDelays SameDelays SameDelays := ⟨fun h h' s => (h' s).trans (h s)⟩

variable {x x' : Source → Shelf} {p : Portfolio}

theorem sameDelays_replace {s : Source} {y : Shelf} (h : y.delay = (x s).delay) : SameDelays x (replace x s y) := by
  intro t
  by_cases eq : t = s
  · rw [eq, replace_self, h]
  · rw [replace_ne x eq]

theorem sameDelays_copies {origin target : Source} (h : Copies x x' origin target) : SameDelays x x' := by
  rcases h with rfl | ⟨kc, -, content, expected, rfl⟩
  · exact Std.Refl.refl x'
  · apply sameDelays_replace
    obtain ⟨calls, ⟨e, fails⟩ | ⟨-, -, -, puts⟩⟩ :=
      (x target).write_cases (Key.of kc.1.kind kc.1.name) content expected
    · rw [fails]
    · rw [puts]
      rfl

theorem sameDelays_managed {operation : Operation} {r : ElementRequest}
    (h : Managed operation r x x') : SameDelays x x' := by
  cases operation with
  | download => exact sameDelays_copies h
  | upload => exact sameDelays_copies h
  | listRemote =>
    rw [show x' = x from h]
    exact Std.Refl.refl x
  | compare =>
    rw [show x' = x from h]
    exact Std.Refl.refl x

theorem sameDelays_sync (p : Portfolio) (x : Source → Shelf) (d : Direction) (m : Mode)
    (dryRun force confirm : Bool) : SameDelays x (p.syncOn x d m dryRun force confirm).2 := by
  have step : ∀ (i : PlanItem) (x : Source → Shelf),
      SameDelays x (replace x (endsOf i.flow).2 (p.carryOn x i).2) := by
    intro i x
    apply sameDelays_replace
    obtain ⟨calls, ⟨e, fails⟩ | ⟨-, erases⟩ | ⟨c, -, -, puts⟩⟩ := p.carryOn_cases x i
    · rw [fails]
    · rw [erases]
      rfl
    · rw [puts]
      rfl
  unfold syncOn
  split
  · exact Std.Refl.refl x
  · split
    · exact Std.Refl.refl x
    · split
      · exact Std.Refl.refl x
      · exact applyAllOn_keeps (fun i _ _ => step i) x

end Delays

section Runs

variable {K : Source → String → Option Kind → Prop} {x : Source → Shelf} {w : World} {p : Portfolio}

theorem agrees_after (one : OneMeaning K) (inTime : ∀ s, p.AnswersInTime (x s))
    (h : Agrees (fun _ => True) K x w) (coherent : Coherent p K w) (c : Call)
    (asked : ∀ query o, c = .search query o → ∀ s, K s query o.kind) :
    ∃ x', SameDelays x x' ∧ Agrees (fun _ => True) K x' (p.after w c) := by
  cases c with
  | search query o =>
    obtain ⟨r, w', ended, -, h'⟩ := ends_search one inTime (asked query o rfl) h
    rw [after_search, ended]
    exact ⟨x, Std.Refl.refl x, h'⟩
  | sync d m dryRun force confirm =>
    obtain ⟨w', ended, h', -⟩ := ends_sync (fun _ _ => trivial) h coherent d m dryRun force confirm
    rw [after_sync, ended]
    exact ⟨_, sameDelays_sync p x d m dryRun force confirm, h'⟩
  | manage operation r =>
    obtain ⟨x', managed, h', -⟩ :=
      agrees_manage (fun _ _ => trivial) h coherent operation r (fun _ _ => trivial)
    rw [after_manage]
    exact ⟨x', sameDelays_managed managed, h'⟩
  | advance seconds =>
    obtain ⟨now, later⟩ := p.after_advance w seconds
    rw [later]
    exact ⟨x, Std.Refl.refl x, h.mono (.of_eq rfl rfl rfl rfl rfl) (fun _ h => h) (fun _ h => h) rfl⟩

theorem agrees_run {calls : List Call} (opens : p.Opens w) (one : OneMeaning K)
    (asked : ∀ query o, Call.search query o ∈ calls → ∀ s, K s query o.kind) :
    ∃ x, (∀ s, p.AnswersInTime (x s)) ∧ Agrees (fun _ => True) K x (p.run calls w) := by
  have start : ∃ x, (∀ s, p.AnswersInTime (x s)) ∧ Agrees (fun _ => True) K x w := by
    have found := fun s => (opens.shelves s).choose_spec
    refine ⟨fun s => (opens.shelves s).choose, fun s => (found s).2,
      fun s _ => congrArg Backing.still (found s).1, ?_, ?_, fun _ => opens.idle⟩
    · simp [opens.noListings]
    · simp [opens.noResults]
  refine run_keeps (I := fun w => ∃ x, (∀ s, p.AnswersInTime (x s)) ∧ Agrees (fun _ => True) K x w)
    (fun c hc w' ⟨x, inTime, h⟩ => ?_) start
  obtain ⟨x', delays, h'⟩ := agrees_after one inTime h (.dropping opens.drops opens.validate) c
    fun query o eq => asked query o (eq ▸ hc)
  refine ⟨x', fun s => ?_, h'⟩
  unfold AnswersInTime Shelf.pause
  rw [delays s]
  exact inTime s

theorem agrees_uncached (holds : ∀ s, (w.store s).backing.still = (Backing.shelf (x s)).still)
    (idle : (∃ s query kind, K s query kind) → w.running = []) : Agrees (fun _ => True) K x w.uncached := by
  refine ⟨fun s _ => ?_, fun s _ cached => ?_, by simp [World.uncached], idle⟩
  · rw [← holds s]
    cases s <;> rfl
  · cases s <;> cases cached

theorem search_uncached (one : OneMeaning K) (inTime : ∀ s, p.AnswersInTime (x s))
    (h : Agrees (fun _ => True) K x w) {query : String} {o : SearchOptions}
    (asked : ∀ s, K s query o.kind) : ((p.search query o).ends w).1.map Page.plain =
      ((p.search query o).ends w.uncached).1.map Page.plain := by
  have h' : Agrees (fun _ => True) K x w.uncached :=
    agrees_uncached (fun s => h.holds s trivial) h.idle
  obtain ⟨r, w₁, ended, page, -⟩ := ends_search one inTime asked h
  obtain ⟨r', w₂, ended', page', -⟩ := ends_search one inTime asked h'
  rw [ended, ended']
  exact page.trans page'.symm

end Runs

end Portfolio

end TriStore
