import TriStore.Proofs.Reading

/-!
An exchange with the web rests on the replies to its requests, and what is found in a store on store, caches
and time.
-/
namespace TriStore
open List World

/-- What an action may look at and what it may touch. -/
structure Scope (σ : Type) where
  sent : σ → List Request
  /-- The two states are alike as far as the action and such requests are concerned. -/
  Alike : (Request → Prop) → σ → σ → Prop
  /-- Nothing was touched that the action has no business with. -/
  Spares : σ → σ → Prop
  refl : ∀ s, Spares s s
  trans : ∀ {s s' s''}, Spares s s' → Spares s' s'' → Spares s s''

section Local

variable {σ α β : Type} {S : Scope σ} {s : σ}

/-- From `s`, and from all states alike for the requests made from it, `x` comes to the same, leads to states
that are alike, and touches nothing beyond its scope. -/
structure LocalAt (S : Scope σ) (x : ExceptT Failure (StateM σ) α) (s : σ) : Prop where
  spares : S.Spares s (x.run s).2
  same : ∃ more, S.sent (x.run s).2 = S.sent s ++ more ∧
    ∀ (T : Request → Prop) (s' : σ), S.Alike T s s' → (∀ r ∈ more, T r) →
      (x.run s').1 = (x.run s).1 ∧ S.Alike T (x.run s).2 (x.run s').2

namespace LocalAt

theorem const {x : ExceptT Failure (StateM σ) α} {r : Except Failure α} (h : ∀ s, x.run s = (r, s)) :
    LocalAt S x s where
  spares := by rw [h]; exact S.refl s
  same := ⟨[], by rw [h, append_nil], fun T s' alike _ => by rw [h, h]; exact ⟨rfl, alike⟩⟩

theorem pure (a : α) : LocalAt S (Pure.pure a) s := const fun _ => rfl

theorem throw (e : Failure) : LocalAt S (MonadExcept.throw e : ExceptT Failure (StateM σ) α) s :=
  const fun _ => rfl

theorem throw_bind (e : Failure) (f : α → ExceptT Failure (StateM σ) β) :
    LocalAt S (MonadExcept.throw e >>= f) s := const fun _ => rfl

theorem lift (r : Except Failure α) : LocalAt S (liftM r : ExceptT Failure (StateM σ) α) s := by
  refine const (r := r) fun _ => ?_
  cases r <;> rfl

theorem liftExcept (r : Except Failure α) : LocalAt S (liftExcept r : ExceptT Failure (StateM σ) α) s := by
  cases r with
  | error e => exact throw e
  | ok a => exact pure a

theorem bind_of_ok {x : ExceptT Failure (StateM σ) α} {f : α → ExceptT Failure (StateM σ) β}
    (h : LocalAt S x s) (later : ∀ a, (x.run s).1 = .ok a → LocalAt S (f a) (x.run s).2) :
    LocalAt S (x >>= f) s := by
  have unfolded : ∀ s, (x >>= f).run s = ExceptT.bindCont f (x.run s).1 (x.run s).2 := fun _ => rfl
  obtain ⟨spares, more, grows, same⟩ := h
  cases result : (x.run s).1 with
  | error e =>
    have ended : (x >>= f).run s = (.error e, (x.run s).2) := by
      rw [unfolded, result]
      rfl
    refine ⟨by rw [ended]; exact spares, more, by rw [ended, grows], fun T s' alike asked => ?_⟩
    obtain ⟨same, alike'⟩ := same T s' alike asked
    have ended' : (x >>= f).run s' = (.error e, (x.run s').2) := by
      rw [unfolded, same, result]
      rfl
    rw [ended, ended']
    exact ⟨rfl, alike'⟩
  | ok a =>
    have ended : (x >>= f).run s = (f a).run (x.run s).2 := by
      rw [unfolded, result]
      rfl
    obtain ⟨spares', more', grows', same'⟩ := later a result
    refine ⟨by rw [ended]; exact S.trans spares spares', more ++ more',
      by rw [ended, grows', grows, append_assoc], fun T s' alike asked => ?_⟩
    obtain ⟨same, alike'⟩ := same T s' alike fun r hr => asked r (mem_append_left _ hr)
    have ended' : (x >>= f).run s' = (f a).run (x.run s').2 := by
      rw [unfolded, same, result]
      rfl
    rw [ended, ended']
    exact same' T _ alike' fun r hr => asked r (mem_append_right _ hr)

theorem bind {x : ExceptT Failure (StateM σ) α} {f : α → ExceptT Failure (StateM σ) β}
    (h : LocalAt S x s) (later : ∀ a, LocalAt S (f a) (x.run s).2) : LocalAt S (x >>= f) s :=
  h.bind_of_ok fun a _ => later a

theorem tryCatch {x : ExceptT Failure (StateM σ) α} {handle : Failure → ExceptT Failure (StateM σ) α}
    (h : LocalAt S x s) (later : ∀ e, LocalAt S (handle e) (x.run s).2) :
    LocalAt S (tryCatch x handle) s := by
  have ends (s : σ) : (∀ e, (x.run s).1 = .error e →
        (MonadExcept.tryCatch x handle).run s = (handle e).run (x.run s).2) ∧
      ∀ a, (x.run s).1 = .ok a → (MonadExcept.tryCatch x handle).run s = (.ok a, (x.run s).2) := by
    constructor <;> intro r result
    all_goals
      simp only [MonadExcept.tryCatch, tryCatchThe, MonadExceptOf.tryCatch, ExceptT.tryCatch, ExceptT.run,
        ExceptT.mk, Bind.bind, StateT.bind] at result ⊢
      rcases ended : x s with ⟨r', s₁⟩
      rw [ended] at result
      subst result
      rfl
  have caught s := (ends s).1
  have passed s := (ends s).2
  obtain ⟨spares, more, grows, same⟩ := h
  cases result : (x.run s).1 with
  | error e =>
    obtain ⟨spares', more', grows', same'⟩ := later e
    refine ⟨by rw [caught s e result]; exact S.trans spares spares', more ++ more',
      by rw [caught s e result, grows', grows, append_assoc], fun T s' alike asked => ?_⟩
    obtain ⟨same, alike'⟩ := same T s' alike fun r hr => asked r (mem_append_left _ hr)
    rw [caught s e result, caught s' e (same.trans result)]
    exact same' T _ alike' fun r hr => asked r (mem_append_right _ hr)
  | ok a =>
    refine ⟨by rw [passed s a result]; exact spares, more, by rw [passed s a result, grows],
      fun T s' alike asked => ?_⟩
    obtain ⟨same, alike'⟩ := same T s' alike asked
    rw [passed s a result, passed s' a (same.trans result)]
    exact ⟨rfl, alike'⟩

theorem ite_bind {c : Prop} [Decidable c] {x y : ExceptT Failure (StateM σ) α}
    {f : α → ExceptT Failure (StateM σ) β} (h : LocalAt S ((if c then x else y) >>= f) s) :
    LocalAt S (if c then x >>= f else y >>= f) s := by
  split at h <;> simp_all

theorem get_bind {f : σ → ExceptT Failure (StateM σ) β} (h : LocalAt S (f s) s)
    (seen : ∀ T s', S.Alike T s s' → f s' = f s) : LocalAt S (get >>= f) s := by
  obtain ⟨spares, more, grows, same⟩ := h
  refine ⟨spares, more, grows, fun T s' alike asked => ?_⟩
  have looked : (get >>= f).run s' = (f s').run s' := rfl
  rw [looked, seen T s' alike]
  exact same T s' alike asked

theorem get_set_bind {g : σ → σ} {f : σ → ExceptT Failure (StateM σ) β} (quiet : S.sent (g s) = S.sent s)
    (spared : S.Spares s (g s)) (changed : ∀ T s', S.Alike T s s' → S.Alike T (g s) (g s'))
    (seen : ∀ T s', S.Alike T s s' → f s' = f s) (h : LocalAt S (f s) (g s)) :
    LocalAt S (get >>= fun s => set (g s) >>= fun _ => f s) s := by
  obtain ⟨spares, more, grows, same⟩ := h
  refine ⟨S.trans spared spares, more, grows.trans (by rw [quiet]), fun T s' alike asked => ?_⟩
  have looked : (get >>= fun s => set (g s) >>= fun _ => f s : ExceptT Failure (StateM σ) β).run s' =
      (f s').run (g s') := rfl
  rw [looked, seen T s' alike]
  exact same T (g s') (changed T s' alike) asked

theorem foldlM {f : β → α → ExceptT Failure (StateM σ) β} (h : ∀ b a s, LocalAt S (f b a) s)
    (l : List α) (b : β) (s : σ) : LocalAt S (l.foldlM f b) s := by
  induction l generalizing b s with
  | nil => exact pure b
  | cons a l ih =>
    exact (h b a s).bind fun b' => ih b' _

end LocalAt

end Local

namespace Web

def leads (method target : String) (x : Route) : Bool := x.method == method && x.url == target

def repliesTo (v : Web) (r : Request) : List Reply :=
  ((v.routes.find? (leads r.method (Url.withoutQuery r.url))).map (·.replies)).getD []

/-- The replies after the next one; the last one stays. -/
def advance : List Reply → List Reply
  | _ :: next :: more => next :: more
  | replies => replies

/-- The two webs give the same replies to such requests. -/
def Agrees (T : Request → Prop) (v v' : Web) : Prop := ∀ r, T r → v'.repliesTo r = v.repliesTo r

theorem fst_nextReply (q : Route → Bool) (routes : List Route) :
    (nextReply q routes).1 = (((routes.find? q).map (·.replies)).getD []).headD nowhere := by
  induction routes with
  | nil => rfl
  | cons x rest ih =>
    unfold nextReply
    by_cases here : q x = true
    · simp only [here, if_true, List.find?_cons_of_pos]
      split <;> simp_all
    · simp only [here, List.find?_cons_of_neg, Bool.false_eq_true, if_false, not_false_eq_true]
      exact ih

theorem find?_nextReply_self (method target : String) (routes : List Route) :
    ((nextReply (leads method target) routes).2.find? (leads method target)).map (·.replies) =
      ((routes.find? (leads method target)).map (·.replies)).map advance := by
  induction routes with
  | nil => rfl
  | cons x rest ih =>
    unfold nextReply
    by_cases here : leads method target x = true
    · simp only [here, if_true, List.find?_cons_of_pos]
      split
      · next none => simp [here, none, advance]
      · next one => simp [here, one, advance]
      · next first more two several =>
        have kept : leads method target { x with replies := more } = true := here
        rw [List.find?_cons_of_pos kept, Option.map_some, Option.map_some, Option.map_some, several]
        cases more with
        | nil => exact absurd rfl two
        | cons next more => rfl
    · simp only [here, List.find?_cons_of_neg, Bool.false_eq_true, if_false, not_false_eq_true]
      exact ih

theorem find?_nextReply_ne {method target method' target' : String}
    (other : ¬(method' = method ∧ target' = target)) (routes : List Route) :
    ((nextReply (leads method target) routes).2.find? (leads method' target')).map (·.replies) =
      (routes.find? (leads method' target')).map (·.replies) := by
  induction routes with
  | nil => rfl
  | cons x rest ih =>
    unfold nextReply
    by_cases here : leads method target x = true
    · have away : ∀ replies, ¬leads method' target' { x with replies } = true := by
        intro replies there
        simp only [leads, Bool.and_eq_true, beq_iff_eq] at here there
        exact other ⟨there.1.symm.trans here.1, there.2.symm.trans here.2⟩
      simp only [here, if_true]
      split
      · rfl
      · rfl
      · rw [List.find?_cons_of_neg (away _), List.find?_cons_of_neg (away x.replies)]
    · simp only [here, Bool.false_eq_true, if_false]
      by_cases there : leads method' target' x = true
      · rw [List.find?_cons_of_pos there, List.find?_cons_of_pos there]
      · rw [List.find?_cons_of_neg there, List.find?_cons_of_neg there, ih]

theorem fst_send (v : Web) (r : Request) : (v.send r).1 = (v.repliesTo r).headD nowhere :=
  fst_nextReply _ v.routes

theorem sent_send (v : Web) (r : Request) : (v.send r).2.sent = v.sent ++ [r] := rfl

theorem repliesTo_send (v : Web) (r r' : Request) : (v.send r).2.repliesTo r' =
    if r'.method = r.method ∧ Url.withoutQuery r'.url = Url.withoutQuery r.url
      then advance (v.repliesTo r') else v.repliesTo r' := by
  have routes : (v.send r).2.routes = (nextReply (leads r.method (Url.withoutQuery r.url)) v.routes).2 := rfl
  unfold repliesTo
  rw [routes]
  split
  · next same =>
    rw [same.1, same.2, find?_nextReply_self]
    cases v.routes.find? (leads r.method (Url.withoutQuery r.url)) <;> rfl
  · next other => rw [find?_nextReply_ne other]

theorem Agrees.send {T : Request → Prop} {v v' : Web} (h : Agrees T v v') {r : Request} (hr : T r) :
    (v'.send r).1 = (v.send r).1 ∧ Agrees T (v.send r).2 (v'.send r).2 := by
  refine ⟨by rw [fst_send, fst_send, h r hr], fun r' hr' => ?_⟩
  rw [repliesTo_send, repliesTo_send, h r' hr']

/-- An exchange looks at the replies to its requests. -/
def scope : Scope Web where
  sent := Web.sent
  Alike := Agrees
  Spares _ _ := True
  refl _ := trivial
  trans _ _ := trivial

end Web

namespace Exchange

abbrev Local {α : Type} (x : Exchange α) : Prop := ∀ v, LocalAt Web.scope x v

variable {u : Url}

def received (u : Url) : Reply → Exchange Reply
  | .impossible e => throw e
  | .failed reason => return .failed reason
  | .response answer =>
    match answer.unpacked with
    | .error fault => return .failed fault.message
    | .ok answer => do
      if u.scheme.isEmpty then throw (.noScheme u.toText)
      return .response answer

theorem run_send (u : Url) (r : Request) (v : Web) : (send u r).run v =
    (received u (v.send { r with url := u.toText }).1).run (v.send { r with url := u.toText }).2 := rfl

theorem exists_received (u : Url) (reply : Reply) : ∃ e, ∀ v, (received u reply).run v = (e, v) := by
  unfold received
  split
  · exact ⟨_, fun _ => rfl⟩
  · exact ⟨_, fun _ => rfl⟩
  · split
    · exact ⟨_, fun _ => rfl⟩
    · split <;> exact ⟨_, fun _ => rfl⟩

theorem send_local (u : Url) (r : Request) : (send u r).Local := by
  intro v
  obtain ⟨g, ends⟩ := Classical.skolem.1 (exists_received u)
  have ended (v : Web) : (send u r).run v =
      (g (v.send { r with url := u.toText }).1, (v.send { r with url := u.toText }).2) :=
    (run_send u r v).trans (ends _ _)
  refine ⟨trivial, [{ r with url := u.toText }], by rw [ended]; exact Web.sent_send _ _,
    fun T v' agrees asked => ?_⟩
  obtain ⟨reply, after⟩ := agrees.send (asked _ (.head _))
  rw [ended, ended, reply]
  exact ⟨rfl, after⟩

theorem readable_local (r : Except Url.Fault Url) : (readable r).Local := by
  intro v
  unfold readable
  split
  · exact .pure _
  · exact .throw _
  · exact .throw _

theorem address_local (s : String) : (address s).Local :=
  fun v => (readable_local _ v).bind fun _ => .pure _

theorem checkHost_local (u : Url) : (checkHost u).Local := by
  intro v
  unfold checkHost
  split
  · exact .throw _
  · split
    · exact .throw _
    · exact .pure _

theorem next_local (u : Url) (answer : Response) : (next u answer).Local := by
  intro v
  unfold next
  split
  · exact .pure _
  · split
    · exact (checkHost_local _ v).bind fun _ => .pure _
    · exact .pure _
    · exact .throw _
    · exact .throw _
    · exact .throw _
    · exact .throw _

theorem ask_local (u : Url) (r : Request) : (ask u r).Local := by
  refine fun v => (send_local u r v).bind fun reply => ?_
  split
  · refine (next_local u _ _).bind fun onward => ?_
    split
    · exact .pure _
    · exact .pure _
  · exact .pure _

theorem follow_local (n : Nat) (authorization : Option String) (u : Url) : (follow n authorization u).Local := by
  induction n generalizing authorization u with
  | zero => exact fun v => .pure _
  | succ n ih =>
    refine fun v => (send_local u _ v).bind fun reply => ?_
    split
    · refine (next_local u _ _).bind fun onward => ?_
      split
      · exact .pure _
      · exact .pure _
      · exact ih _ _ _
    · exact .pure _

theorem get_local (s : String) : (get s).Local :=
  fun v => (address_local s v).bind fun u => (checkHost_local u _).bind fun _ => follow_local _ _ _ _

end Exchange

namespace Repository

variable (r : Repository)

theorem request_local (method inside accept : String) (query : List (String × String))
    (body : Option Value) : (r.request method inside accept query body).Local := by
  intro v
  unfold request
  dsimp only
  split
  · exact .throw _
  · refine (Exchange.address_local _ v).bind fun u => ?_
    split
    · exact .throw _
    · split
      · exact .throw _
      · refine LocalAt.ite_bind (LocalAt.bind ?_ fun u => ?_)
        · split
          · exact .pure _
          · exact Exchange.readable_local _ _
        · refine (Exchange.checkHost_local u _).bind fun _ => (Exchange.ask_local u _ _).bind fun reply => ?_
          split
          · exact .throw _
          · exact .throw _
          · split
            · exact .throw _
            · exact .pure _

theorem download_local (path : Value) : (r.download path).Local := by
  refine fun v => (r.request_local _ _ _ _ _ v).bind fun answer => ?_
  split
  · exact .pure _
  · split
    · exact (LocalAt.lift _).bind fun _ => .throw _
    · exact (LocalAt.lift _).bind fun _ => .pure _

theorem entryOf_local (kind : Kind) (name : String) (item : Value) : (r.entryOf kind name item).Local := by
  intro v
  unfold entryOf
  split
  · refine (r.download_local _ v).bind fun found => ?_
    split
    · exact .lift _
    · exact .pure _
  · exact .pure _

theorem loadKind_local (kind : Kind) : (r.loadKind kind).Local := by
  refine fun v => (r.request_local _ _ _ _ _ v).bind fun answer => ?_
  dsimp only
  split
  · exact .pure _
  · split
    · exact (LocalAt.lift _).bind fun _ => .throw_bind _ _
    · split
      · exact .throw _
      · exact .throw _
      · refine LocalAt.foldlM (fun entries item v => ?_) _ _ _
        split
        · exact (r.entryOf_local _ _ _ v).bind fun _ => .pure _
        · exact .pure _
      · exact .pure _

theorem load_local (kind : Option Kind) : (r.load kind).Local :=
  fun v => LocalAt.foldlM (fun _ k v => (r.loadKind_local k v).bind fun _ => .pure _) _ _ v

end Repository

theorem Catalog.get_local (url : String) : (get url).Local := by
  refine fun v => (Exchange.get_local url v).bind fun reply => ?_
  split
  · exact .throw _
  · exact .throw _
  · split
    · exact .throw _
    · exact .pure _

theorem Catalog.load_local (c : Catalog) (kind : Option Kind) : (c.load kind).Local := by
  refine fun v => (get_local c.index v).bind fun answer => ?_
  dsimp only
  split
  · exact .throw_bind _ _
  · split
    · exact .throw _
    · exact .throw _
    · exact (LocalAt.lift _).bind fun _ => .pure _

namespace World

/-- The worlds are alike for some stores and requests: in the stores, in the disk if one lies there, in the
replies, the caches and the times. -/
structure Alike (V : Source → Prop) (T : Request → Prop) (w w' : World) : Prop where
  store : ∀ s, V s → w'.store s = w.store s
  disk : ∀ s f, V s → (w.store s).backing = .folder f → w'.disk = w.disk
  web : w.web.Agrees T w'.web
  results : w'.results = w.results
  listings : w'.listings = w.listings
  clock : w'.clock = w.clock
  elapsed : w'.elapsed = w.elapsed
  running : w'.running = w.running
  called : w'.called = w.called

namespace Alike

variable {V : Source → Prop} {T : Request → Prop} {w w' : World} (h : Alike V T w w')

include h

-- Stores, disk and clock stay as they are; the rest may change in both worlds alike.
theorem onward (log log' : List LogLine) {web web' : Web} {results results' : Cache String (List Hit)}
    {listings listings' : Cache String (List Entry)} {elapsed elapsed' : Rat}
    {running running' : List (Source × Rat)} {called called' : List Source} (agrees : web.Agrees T web')
    (hr : results' = results) (hl : listings' = listings) (he : elapsed' = elapsed)
    (hu : running' = running) (hc : called' = called) :
    Alike V T { w with log, web, results, listings, elapsed, running, called } { w' with
        log := log', web := web', results := results', listings := listings', elapsed := elapsed',
        running := running', called := called' } :=
  ⟨fun s hs => by cases s <;> exact h.store _ hs, fun s f hs => by cases s <;> exact h.disk _ f hs,
    agrees, hr, hl, h.clock, he, hu, hc⟩

theorem setLog (log log' : List LogLine) : Alike V T { w with log } { w' with log := log' } :=
  h.onward log log' h.web h.results h.listings h.elapsed h.running h.called

theorem setResults {results results' : Cache String (List Hit)} (same : results' = results) :
    Alike V T { w with results } { w' with results := results' } :=
  h.onward _ _ h.web same h.listings h.elapsed h.running h.called

theorem setListings {listings listings' : Cache String (List Entry)} (same : listings' = listings) :
    Alike V T { w with listings } { w' with listings := listings' } :=
  h.onward _ _ h.web h.results same h.elapsed h.running h.called

theorem setWeb {web web' : Web} (agrees : web.Agrees T web') : Alike V T { w with web } { w' with web := web' } :=
  h.onward _ _ agrees h.results h.listings h.elapsed h.running h.called

theorem setElapsed {elapsed elapsed' : Rat} (same : elapsed' = elapsed) :
    Alike V T { w with elapsed } { w' with elapsed := elapsed' } :=
  h.onward _ _ h.web h.results h.listings same h.running h.called

theorem waitedFor (s : Source) : Alike V T (Portfolio.waitedFor s w) (Portfolio.waitedFor s w') :=
  h.onward _ _ h.web h.results h.listings h.elapsed h.running (congrArg (s :: ·) h.called)

theorem abandoned (s : Source) (time : Rat) :
    Alike V T (Portfolio.abandoned s time w) (Portfolio.abandoned s time w') := by
  refine h.onward _ _ h.web h.results h.listings rfl ?_ (congrArg (s :: ·) h.called)
  rw [h.elapsed, h.running]

theorem setShelf {s : Source} (hs : V s) (x : Shelf) : Alike V T (w.setShelf s x) (w'.setShelf s x) := by
  have stores : ∀ t, V t → (w'.setShelf s x).store t = (w.setShelf s x).store t := by
    intro t ht
    by_cases same : t = s
    · subst same
      rw [World.setShelf, World.setShelf, store_setStore, store_setStore, h.store t ht]
    · rw [World.setShelf, World.setShelf, store_setStore_ne _ _ same, store_setStore_ne _ _ same, h.store t ht]
  have disk : ∀ t f, V t → ((w.setShelf s x).store t).backing = .folder f → w'.disk = w.disk := by
    intro t f ht found
    by_cases same : t = s
    · subst same
      rw [World.setShelf, store_setStore] at found
      cases found
    · rw [World.setShelf, store_setStore_ne _ _ same] at found
      exact h.disk t f ht found
  cases s <;> exact ⟨stores, disk, h.web, h.results, h.listings, h.clock, h.elapsed, h.running, h.called⟩

end Alike

def scope (V : Source → Prop) : Scope World where
  sent w := w.web.sent
  Alike := Alike V
  Spares w w' := ∀ s, ¬V s → w'.store s = w.store s
  refl _ _ _ := rfl
  trans h h' s hs := (h' s hs).trans (h s hs)

theorem spares_of_eq {V : Source → Prop} {w w' : World} (home : w'.home = w.home)
    (remote : w'.remote = w.remote) (registry : w'.registry = w.registry) : (scope V).Spares w w' := by
  intro s _
  cases s <;> assumption

end World

namespace Action

open World (Alike spares_of_eq)

/-- What an action comes to rests on such stores, the replies to its requests, the caches and the time. -/
abbrev Local {α : Type} (V : Source → Prop) (act : Action α) : Prop := ∀ w, LocalAt (World.scope V) act w

variable {α : Type} {V : Source → Prop} {s : Source}

theorem localAt_of_ends {act : Action α} {w : World} (more : List Request)
    (spares : (World.scope V).Spares w (act.ends w).2)
    (grows : (act.ends w).2.web.sent = w.web.sent ++ more)
    (same : ∀ T w', Alike V T w w' → (∀ r ∈ more, T r) →
      (act.ends w').1 = (act.ends w).1 ∧ Alike V T (act.ends w).2 (act.ends w').2) :
    LocalAt (World.scope V) act w :=
  ⟨spares, more, grows, same⟩

theorem local_of_log {act : Action α} {r : Except Failure α}
    (h : ∀ w, ∃ log, act.ends w = (r, { w with log })) : act.Local V := by
  intro w
  obtain ⟨log, ended⟩ := h w
  refine localAt_of_ends [] ?_ (by rw [ended, append_nil]) fun T w' alike _ => ?_
  · rw [ended]
    exact spares_of_eq rfl rfl rfl
  · obtain ⟨log', ended'⟩ := h w'
    rw [ended, ended']
    exact ⟨rfl, alike.setLog log log'⟩

theorem warn_local (text : String) : (warn text).Local V := local_of_log fun _ => ⟨_, rfl⟩

theorem reportReset_local {κ β : Type} (c : Cache κ β) (e : Option Cache.Corruption) :
    (reportReset c e).Local V := by
  cases e with
  | none => exact fun w => .pure _
  | some e => exact local_of_log fun _ => ⟨_, rfl⟩

theorem onWeb_local {x : Exchange α} (h : x.Local) : (onWeb x).Local V := by
  intro w
  obtain ⟨-, more, grows, same⟩ := h w.web
  refine localAt_of_ends more ?_ (by rw [ends_onWeb]; exact grows) fun T w' alike asked => ?_
  · rw [ends_onWeb]
    exact spares_of_eq rfl rfl rfl
  · obtain ⟨result, agrees⟩ := same T w'.web alike.web asked
    rw [ends_onWeb, ends_onWeb, result]
    exact ⟨rfl, alike.setWeb agrees⟩

theorem onShelf_local (hs : V s) (before : Shelf) (x : Except Failure α × Shelf) :
    (onShelf s before x).Local V := by
  intro w
  refine localAt_of_ends [] (fun t ht => ?_) ?_ fun T w' alike _ => ?_
  · have ne : t ≠ s := by
      rintro rfl
      exact ht hs
    rw [ends_onShelf, ← store_setStore_ne w { w.store s with backing := .shelf x.2 } ne]
    cases t <;> rfl
  · rw [ends_onShelf, append_nil]
    cases s <;> rfl
  · rw [ends_onShelf, ends_onShelf]
    exact ⟨rfl, (alike.setShelf hs x.2).setElapsed (by rw [alike.elapsed])⟩

theorem loadEntries_local (hs : V s) (kind : Option Kind) : (loadEntries s kind).Local V := by
  intro w
  refine .get_bind ?_ fun T w' alike => by rw [alike.store s hs]
  cases found : (w.store s).backing with
  | shelf x => exact onShelf_local hs x _ w
  | folder f =>
    refine .get_bind ?_ fun T w' alike => by rw [alike.disk s f hs found]
    exact (local_of_log (exists_log_warnAll _) w).bind fun _ => .liftExcept _
  | repository r => exact onWeb_local (r.load_local kind) w
  | catalog c => exact onWeb_local (c.load_local kind) w

theorem cachedListing_local (s : Source) (kind : Option Kind) : (cachedListing s kind).Local V := by
  intro w
  refine .get_set_bind (g := fun w : World => { w with
    listings := (w.listings.get w.clock (listingKey s kind)).2.2 }) rfl (spares_of_eq rfl rfl rfl)
    (fun T w' alike => ?_) (fun T w' alike => ?_) ?_
  · exact alike.setListings (by rw [alike.listings, alike.clock])
  · dsimp only
    rw [alike.listings, alike.clock]
  · exact (reportReset_local _ _ _).bind fun _ => .pure _

theorem keepListing_local (s : Source) (kind : Option Kind) (entries : List Entry) :
    (keepListing s kind entries).Local V := by
  intro w
  refine .get_set_bind (g := fun w : World => { w with
    listings := (w.listings.set w.clock (listingKey s kind) entries
      (Footprint.estimate (Footprint.ofEntries entries))).2.2 }) rfl (spares_of_eq rfl rfl rfl)
    (fun T w' alike => ?_) (fun T w' alike => ?_) ?_
  · exact alike.setListings (by rw [alike.listings, alike.clock])
  · dsimp only
    rw [alike.listings, alike.clock]
  · exact reportReset_local _ _ _

theorem listEntries_local (hs : V s) (kind : Option Kind) : (listEntries s kind).Local V := by
  intro w
  refine .get_bind ?_ fun T w' alike => by rw [alike.store s hs]
  split
  · exact loadEntries_local hs kind w
  · refine (cachedListing_local s kind w).bind fun found => ?_
    split
    · exact .pure _
    · exact (loadEntries_local hs kind _).bind fun entries =>
        (keepListing_local s kind entries _).bind fun _ => .pure _

theorem searchStore_local (hs : V s) (query : String) (kind : Option Kind) : (searchStore s query kind).Local V :=
  fun w => (listEntries_local hs kind w).bind fun _ => .liftExcept _

end Action

namespace Portfolio

open TriStore.Action
open World (spares_of_eq)

variable {α : Type} {p : Portfolio} {V : Source → Prop} {s : Source}

theorem isInstant_alike {T : Request → Prop} {w w' v v' : World} (hs : V s) (before : World.Alike V T w w')
    (after : World.Alike V T v v') : isInstant w' v' s = isInstant w v s := by
  unfold isInstant
  rw [before.called, before.elapsed, after.elapsed, before.store s hs]

theorem within_local (hs : V s) {act : Action α} (h : act.Local V) : (p.within s act).Local V := by
  intro w
  have ended := p.ends_within s act
  cases timeout : p.timeout with
  | none =>
    have whole : p.within s act = act := by
      unfold within
      rw [timeout]
    rw [whole]
    exact h w
  | some wait =>
    simp only [timeout] at ended
    -- A call that is still under way keeps the store from being asked at all.
    by_cases busy : (w.running.any fun r => r.1 == s && decide (w.elapsed < r.2)) = true
    · have refused : (p.within s act).ends w =
          (.error (.unavailable s "previous call still running"), w) := by rw [ended, if_pos busy]
      refine localAt_of_ends [] ?_ (by rw [refused, append_nil]) fun T w' alike _ => ?_
      · rw [refused]
        exact spares_of_eq rfl rfl rfl
      · rw [refused, ended, alike.running, alike.elapsed, if_pos busy]
        exact ⟨rfl, alike⟩
    · obtain ⟨spares, more, grows, same⟩ := h w
      -- However it ends, the world differs from that after the call in times only.
      have web : ((p.within s act).ends w).2.web = (act.ends w).2.web := by
        rw [ended, if_neg busy]
        split
        · rfl
        · split
          · rfl
          · split <;> rfl
      have stores : ∀ t, ((p.within s act).ends w).2.store t = (act.ends w).2.store t := by
        intro t
        rw [ended, if_neg busy]
        split
        · cases t <;> rfl
        · split
          · cases t <;> rfl
          · split <;> cases t <;> rfl
      refine localAt_of_ends more (fun t ht => ?_) ?_ fun T w' alike asked => ?_
      · rw [stores]
        exact spares t ht
      · rw [web]
        exact grows
      · obtain ⟨result, later⟩ := same T w' alike asked
        have instant : isInstant w' (waitedFor s (act.ends w').2) s =
            isInstant w (waitedFor s (act.ends w).2) s := isInstant_alike hs alike (later.waitedFor s)
        have elapsed : (act.ends w').2.elapsed = (act.ends w).2.elapsed := later.elapsed
        rw [ended, ended, if_neg busy, alike.running, alike.elapsed, if_neg busy, instant, elapsed]
        split
        · exact ⟨result, later.waitedFor s⟩
        · split
          · exact ⟨rfl, later.abandoned s _⟩
          · split
            · exact ⟨result, later.waitedFor s⟩
            · exact ⟨rfl, later.abandoned s _⟩

theorem hitsIn_local (hs : V s) (query : String) (kind : Option Kind) : (p.hitsIn s query kind).Local V := by
  refine fun w => (LocalAt.liftExcept _).bind fun key => ?_
  generalize (ExceptT.run (liftExcept (resultsKey s query kind) : Action String) w).2 = w
  refine .get_set_bind (g := fun w : World => { w with results := (w.results.get w.clock key).2.2 }) rfl
    (spares_of_eq rfl rfl rfl) (fun T w' alike => ?_) (fun T w' alike => ?_) ?_
  · exact alike.setResults (by rw [alike.results, alike.clock])
  · dsimp only
    rw [alike.results, alike.clock]
  · refine (reportReset_local _ _ _).bind fun _ => ?_
    split
    · exact .pure _
    · refine (within_local hs (searchStore_local hs query kind) _).bind fun hits => ?_
      generalize (ExceptT.run (p.within s (searchStore s query kind)) _).2 = w
      refine .get_set_bind (g := fun w : World => { w with results := (w.results.set w.clock key hits
        (Footprint.estimate (Footprint.ofHits hits))).2.2 }) rfl (spares_of_eq rfl rfl rfl)
        (fun T w' alike => ?_) (fun T w' alike => ?_) ?_
      · exact alike.setResults (by rw [alike.results, alike.clock])
      · rw [alike.results, alike.clock]
      · exact (reportReset_local _ _ _).bind fun _ => .pure _

theorem ask_local (hs : V s) (query : String) (kind : Option Kind) : (p.ask s query kind).Local V := by
  refine fun w => ((hitsIn_local hs query kind w).bind fun _ => .pure _).tryCatch fun e => ?_
  split
  · exact .pure _
  · exact .throw _

end Portfolio

end TriStore
