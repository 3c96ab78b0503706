import TriStore.Proofs.SearchRounds
import TriStore.Proofs.SoundEntries

/-!
Answers of the web that a search gets over: as they should be, or those of an unavailable store.
-/
namespace TriStore
open List

section Concluding

variable {σ α β : Type} {F : Failure → Prop} {I : σ → Prop} {Q : α → Prop} {R : β → Prop} {s : σ}

/-- From a state as it should be, `x` leads to another one with a result as it should be, or to an allowed
failure. -/
def Concludes (F : Failure → Prop) (I : σ → Prop) (Q : α → Prop) (x : ExceptT Failure (StateM σ) α) (s : σ) : Prop :=
  I s → I (x.run s).2 ∧ ((∃ a, (x.run s).1 = .ok a ∧ Q a) ∨ ∃ e, (x.run s).1 = .error e ∧ F e)

namespace Concludes

theorem pure {a : α} (h : Q a) : Concludes F I Q (pure a) s := fun hs => ⟨hs, .inl ⟨a, rfl, h⟩⟩

theorem throw {e : Failure} (h : F e) : Concludes F I Q (throw e) s := fun hs => ⟨hs, .inr ⟨e, rfl, h⟩⟩

theorem bind {x : ExceptT Failure (StateM σ) α} {f : α → ExceptT Failure (StateM σ) β}
    (h : Concludes F I Q x s) (later : ∀ a s', Q a → Concludes F I R (f a) s') : Concludes F I R (x >>= f) s := by
  intro hs
  have unfolded : (x >>= f).run s = ExceptT.bindCont f (x.run s).1 (x.run s).2 := rfl
  obtain ⟨hs', ⟨a, answered, ha⟩ | ⟨e, failed, he⟩⟩ := h hs
  · rw [unfolded, answered]
    exact later a _ ha hs'
  · rw [unfolded, failed]
    exact ⟨hs', .inr ⟨e, rfl, he⟩⟩

theorem of_error {x : ExceptT Failure (StateM σ) α} (h : Concludes F I Q x s) (hs : I s) {e : Failure}
    (failed : (x.run s).1 = .error e) : F e := by
  obtain ⟨-, ⟨a, answered, -⟩ | ⟨e', failed', he⟩⟩ := h hs
  · cases answered.symm.trans failed
  · cases failed'.symm.trans failed
    exact he

theorem of_ok {x : ExceptT Failure (StateM σ) α} (h : Concludes F I Q x s) (hs : I s) {a : α}
    (answered : (x.run s).1 = .ok a) : Q a := by
  obtain ⟨-, ⟨a', answered', ha⟩ | ⟨e, failed, -⟩⟩ := h hs
  · cases answered'.symm.trans answered
    exact ha
  · cases failed.symm.trans answered

theorem mono {F' : Failure → Prop} {x : ExceptT Failure (StateM σ) α} (h : Concludes F I Q x s)
    (le : ∀ e, F e → F' e) : Concludes F' I Q x s := fun hs =>
  (h hs).imp_right fun result => result.imp_right fun ⟨e, failed, he⟩ => ⟨e, failed, le e he⟩

theorem get_bind {f : σ → ExceptT Failure (StateM σ) β} (h : I s → Concludes F I R (f s) s) :
    Concludes F I R (get >>= f) s := fun hs => h hs hs

theorem set_bind {s' : σ} {f : PUnit → ExceptT Failure (StateM σ) β} (hs' : I s')
    (h : Concludes F I R (f ⟨⟩) s') : Concludes F I R (set s' >>= f) s := fun _ => h hs'

theorem foldlM {f : β → α → ExceptT Failure (StateM σ) β} {l : List α} {b : β}
    (step : ∀ b, R b → ∀ a ∈ l, ∀ s, Concludes F I R (f b a) s) (start : R b) :
    Concludes F I R (l.foldlM f b) s := by
  induction l generalizing b s with
  | nil => exact pure start
  | cons a l ih =>
    exact (step b start a (.head _) s).bind fun b' s' hb' =>
      ih (fun b hb a ha => step b hb a (.tail _ ha)) hb'

theorem unavailable (t : Source) (reason : String) :
    Concludes Failure.IsUnavailable I Q (MonadExcept.throw (.unavailable t reason)) s := throw trivial

end Concludes

/-- The same, with no failure but that a store is unavailable. -/
abbrev Copes (I : σ → Prop) (Q : α → Prop) (x : ExceptT Failure (StateM σ) α) (s : σ) : Prop :=
  Concludes Failure.IsUnavailable I Q x s

end Concluding

namespace Action

variable {I : World → Prop}

theorem reportReset_copes {κ α : Type} (setLog : ∀ w log, I w → I { w with log }) (x : Cache κ α)
    (e : Option Cache.Corruption) (w : World) : Copes I (fun _ => True) (reportReset x e) w := by
  cases e with
  | none => exact .pure trivial
  | some e => exact fun hw => ⟨setLog w _ hw, .inl ⟨⟨⟩, rfl, trivial⟩⟩

theorem listEntries_copes {Q : Entry → Prop} {s : Source} {kind : Option Kind}
    (load : ∀ w, Copes I (fun es => ∀ e ∈ es, Q e) (loadEntries s kind) w)
    (setLog : ∀ w log, I w → I { w with log })
    (known : ∀ w, I w → ∀ i ∈ w.listings.items, i.key = listingKey s kind → ∀ e ∈ i.value, Q e)
    (setListings : ∀ w listings, I w → (∀ i ∈ listings.items, i ∈ w.listings.items ∨
      i.key = listingKey s kind ∧ ∀ e ∈ i.value, Q e) → I { w with listings }) (w : World) :
    Copes I (fun es => ∀ e ∈ es, Q e) (listEntries s kind) w := by
  have looked (w : World) : Copes I (fun found => ∀ es, found = some es → ∀ e ∈ es, Q e)
      (cachedListing s kind) w := by
    refine .get_bind fun hw => .set_bind ?_ ?_
    · exact setListings w _ hw fun i hi => .inl (Cache.mem_of_mem_get hi)
    · refine (reportReset_copes setLog _ _ _).bind fun _ w' _ => .pure fun es found => ?_
      obtain ⟨i, hi, key, rfl⟩ := Cache.exists_mem_of_get found
      exact known w hw i hi (eq_of_beq key)
  have kept (es : List Entry) (fine : ∀ e ∈ es, Q e) (w : World) :
      Copes I (fun _ => True) (keepListing s kind es) w := by
    refine .get_bind fun hw => .set_bind (setListings w _ hw fun i hi => ?_) (reportReset_copes setLog _ _ _)
    rcases Cache.mem_of_mem_set hi with old | rfl
    · exact .inl old
    · exact .inr ⟨rfl, fine⟩
  refine .get_bind fun hw => ?_
  split
  · exact load w
  · refine (looked w).bind fun found w₁ held => ?_
    cases found with
    | some es => exact .pure (held es rfl)
    | none => exact (load w₁).bind fun es w₂ fine => (kept es fine w₂).bind fun _ w₃ _ => .pure fine

end Action

/-- Every reply that may still come is as it should be. -/
def Web.Holds (P : Reply → Prop) (v : Web) : Prop := ∀ route ∈ v.routes, ∀ reply ∈ route.replies, P reply

/-- Every reply that may still come is as it should be after its method. -/
def Web.HoldsFor (P : String → Reply → Prop) (v : Web) : Prop :=
  ∀ route ∈ v.routes, ∀ reply ∈ route.replies, P route.method reply

theorem Web.holdsFor_send {P : String → Reply → Prop} {r : Request} (lost : P r.method nowhere) {v : Web}
    (h : v.HoldsFor P) : P r.method (v.send r).1 ∧ (v.send r).2.HoldsFor P := by
  have next (target : String) (routes : List Route)
      (h : ∀ route ∈ routes, ∀ reply ∈ route.replies, P route.method reply) :
      let sent := nextReply (fun x => x.method == r.method && x.url == target) routes
      P r.method sent.1 ∧ ∀ route ∈ sent.2, ∀ reply ∈ route.replies, P route.method reply := by
    induction routes with
    | nil => exact ⟨lost, h⟩
    | cons route rest ih =>
      obtain ⟨first, later⟩ := forall_mem_cons.1 h
      unfold nextReply
      split
      · next here =>
        have method : route.method = r.method := by simp_all
        split
        · exact ⟨lost, h⟩
        · next only replies => exact ⟨method ▸ first only (by simp [replies]), h⟩
        · next reply more _ replies =>
          refine ⟨method ▸ first reply (by simp [replies]), forall_mem_cons.2 ⟨fun x hx => ?_, later⟩⟩
          exact first x (by rw [replies]; exact mem_cons_of_mem _ hx)
      · exact ⟨(ih later).1, forall_mem_cons.2 ⟨first, (ih later).2⟩⟩
  exact next _ v.routes h

/-- An address to which a request can be made. -/
structure Url.Plain (u : Url) : Prop where
  scheme : u.scheme.isEmpty = false
  host : ∃ shown, Host.shown u.host = .ok shown
  ascii : u.host.toList.any (128 ≤ ·.toNat) = false
  fragment : isBlankPart u.fragment = true

instance (u : Url) : Decidable u.Plain :=
  decidable_of_iff (u.scheme.isEmpty = false ∧ (∃ shown, Host.shown u.host = .ok shown) ∧
      u.host.toList.any (128 ≤ ·.toNat) = false ∧ Url.isBlankPart u.fragment = true)
    ⟨fun ⟨scheme, host, ascii, fragment⟩ => ⟨scheme, host, ascii, fragment⟩,
      fun h => ⟨h.scheme, h.host, h.ascii, h.fragment⟩⟩

/-- An answer that leads nowhere else, or to no address, or to one that can be asked. -/
def Response.Leads (b : Response) : Prop :=
  ∀ location, b.redirect? = some location → ∀ u : Url, u.Plain →
    (∃ cause, u.follow location = .error (.reference cause)) ∨ ∃ v, u.follow location = .ok v ∧ v.Plain

/-- A reply whose answer, once unpacked, is as it should be. -/
def Reply.Brings (P : Response → Prop) : Reply → Prop
  | .response b => ∀ c, b.unpacked = .ok c → P c
  | .failed _ => True
  | .impossible _ => False

def Reply.Is (P : Response → Prop) : Reply → Prop
  | .response b => P b
  | .failed _ => True
  | .impossible _ => False

namespace Exchange

variable {P : String → Response → Prop} {u : Url} {v : Web}

theorem send_copes {r : Request} (lost : Web.nowhere.Brings (P r.method)) (plain : u.Plain) :
    Copes (Web.HoldsFor fun m => Reply.Brings (P m)) (Reply.Is (P r.method)) (send u r) v := by
  refine .get_bind fun hv => ?_
  obtain ⟨now, later⟩ := Web.holdsFor_send (r := { r with url := u.toText }) lost hv
  generalize v.send { r with url := u.toText } = sent at now later ⊢
  obtain ⟨reply, v'⟩ := sent
  refine .set_bind later ?_
  cases reply with
  | impossible e => exact now.elim
  | failed reason => exact .pure (by trivial)
  | response b =>
    dsimp only
    cases unpacked : b.unpacked with
    | error fault => exact .pure (by trivial)
    | ok c =>
      simp only [plain.scheme]
      exact .pure (now c unpacked)

theorem readable_eq {r : Except Url.Fault Url} (h : r = .ok u) : readable r = pure u := by
  rw [h]
  rfl

theorem address_eq {s : String} (h : Url.ofText s = .ok u) : address s = pure u.complete := by
  rw [address, readable_eq h, pure_bind]

theorem checkHost_eq (plain : u.Plain) : checkHost u = pure ⟨⟩ := by
  obtain ⟨shown, host⟩ := plain.host
  rw [checkHost, host]
  simp only [plain.ascii]
  rfl

theorem next_copes {I : Web → Prop} {b : Response} (leads : b.Leads) (plain : u.Plain) :
    Copes I (fun r => ∀ v, r = .ok (some v) → v.Plain) (next u b) v := by
  unfold next
  cases redirect : b.redirect? with
  | none => exact .pure fun v same => by cases same
  | some location =>
    rcases leads location redirect u plain with ⟨cause, nowhere⟩ | ⟨u', there, plain'⟩
    · simp only [nowhere]
      exact .pure fun v same => by cases same
    · simp only [there, checkHost_eq plain']
      exact .pure fun v same => by cases same; exact plain'

variable (lost : ∀ m, Web.nowhere.Brings (P m)) (leads : ∀ m b, P m b → b.Leads)

include lost leads

theorem ask_copes (plain : u.Plain) (r : Request) :
    Copes (Web.HoldsFor fun m => Reply.Brings (P m)) (Reply.Is (P r.method)) (ask u r) v := by
  refine (send_copes (lost r.method) plain).bind fun reply v' brought => ?_
  cases reply with
  | response b =>
    refine (next_copes (leads _ b brought) plain).bind fun r v'' _ => ?_
    cases r with
    | error reason => exact .pure (by trivial)
    | ok _ => exact .pure brought
  | failed reason => exact .pure (by trivial)
  | impossible e => exact brought.elim

theorem follow_copes (n : Nat) (authorization : Option String) (plain : u.Plain) :
    Copes (Web.HoldsFor fun m => Reply.Brings (P m)) (Reply.Is (P "GET")) (follow n authorization u) v := by
  induction n generalizing authorization u v with
  | zero => exact .pure (by trivial)
  | succ n ih =>
    refine (send_copes (r := { method := "GET", url := "", authorization }) (lost "GET") plain).bind
      fun reply v' brought => ?_
    cases reply with
    | response b =>
      refine (next_copes (leads _ b brought) plain).bind fun r v'' plain' => ?_
      cases r with
      | error reason => exact .pure (by trivial)
      | ok onward =>
        cases onward with
        | none => exact .pure brought
        | some u' => exact ih _ (plain' u' rfl)
    | failed reason => exact .pure (by trivial)
    | impossible e => exact brought.elim

theorem get_copes {s : String} (read : Url.ofText s = .ok u) (plain : u.complete.Plain) :
    Copes (Web.HoldsFor fun m => Reply.Brings (P m)) (Reply.Is (P "GET")) (get s) v := by
  rw [get, address_eq read, pure_bind, checkHost_eq plain, pure_bind]
  exact follow_copes lost leads _ _ plain

end Exchange

namespace Repository

variable {inside : String} {r : Repository} {b : Response} {v : Web}

/-- A place inside the repository, with a query, can be asked for. Without an owner it is not. -/
def Addresses (r : Repository) (inside : String) (query : List (String × String)) : Prop :=
  r.owner.isEmpty = true ∨ ∃ u u', Url.ofText (r.service ++ r.pathOf inside) = .ok u ∧
    (if query.isEmpty then .ok u.complete else u.complete.withQuery query) = .ok u' ∧ u'.Plain

def Reaches (r : Repository) (inside : String) : Prop := r.Addresses inside [("ref", r.branch)]

instance (query : List (String × String)) : Decidable (r.Addresses inside query) :=
  decidable_of_iff (r.owner.isEmpty = true ∨ ∃ u, Url.ofText (r.service ++ r.pathOf inside) = .ok u ∧
      ∃ u', (if query.isEmpty then .ok u.complete else u.complete.withQuery query) = .ok u' ∧ u'.Plain)
    (or_congr_right ⟨fun ⟨u, read, u', rest⟩ => ⟨u, u', read, rest⟩, fun ⟨u, u', read, rest⟩ => ⟨u, read, u', rest⟩⟩)

instance : Decidable (r.Reaches inside) := inferInstanceAs (Decidable (r.Addresses inside _))

/-- A token and a branch that can be sent, and kinds for which a request can be made. -/
structure Ready (r : Repository) : Prop where
  token : ∀ t, r.token = some t → ∀ c ∈ t.toList, c.toNat < 128
  branch : Text.isEncodable r.branch = true
  kinds : ∀ kind : Kind, r.Reaches kind.label

/-- A listed item in a place that is a text, and can be read there if it is to be. -/
def ItemFits (r : Repository) (item : Value) : Prop :=
  ∀ kind name, elementName? item = some name → ∃ place, placeIn (Key.of kind name) item = .text place ∧
    (r.readsContents = true → r.Reaches place)

def Heeds (r : Repository) (b : Response) : Prop := b.status ≠ 404 ∧ r.refusal? b = none

theorem heeds_of_ok (h : b.status = 200) : r.Heeds b := by
  simp [Heeds, refusal?, h]

/-- An answer that a search gets over. A body that is looked at is no document that is nested too deep or has
a value that does not exist. A document that explains a failure is a mapping; the items of an index and of a
listing fit; and contents are describable. -/
structure Tame (r : Repository) (b : Response) : Prop where
  leads : b.Leads
  whole : r.Heeds b → ∀ d, b.document ≠ .error (.failure d)
  explains : r.Heeds b → b.status ≠ 200 → ∀ v, b.document = .ok v → v.isMap = true
  index : b.status = 200 → ∀ v, b.document = .ok v → ∀ x ∈ Catalog.itemsOf v, Catalog.ItemFits x.1 x.2
  listing : b.status = 200 → ∀ items, b.document = .ok (.list items) → ∀ item ∈ items, r.ItemFits item
  content : b.status = 200 → r.readsContents = true → ∃ content, b.text = .ok content ∧ Describable content

theorem nowhere_brings (r : Repository) : Web.nowhere.Brings r.Tame := by
  intro b unpacked
  have status : b.status = 404 := by
    obtain rfl := Except.ok.inj unpacked
    rfl
  have unheeded : ¬r.Heeds b := fun h => h.1 status
  have other : b.status ≠ 200 := by simp [status]
  refine ⟨fun location leads => ?_, fun h => absurd h unheeded, fun h => absurd h unheeded,
    fun h => absurd h other, fun h => absurd h other, fun h => absurd h other⟩
  simp [Response.redirect?, status] at leads

theorem exists_explanation (tame : r.Tame b) (heeds : r.Heeds b) (other : b.status ≠ 200) :
    ∃ words, explanation b = .ok words := by
  unfold explanation
  cases document : b.document with
  | error cause =>
    cases cause with
    | reason words => exact ⟨_, rfl⟩
    | failure d => exact absurd document (tame.whole heeds d)
  | ok v =>
    have map := tame.explains heeds other v document
    cases v with
    | map kvs => exact ⟨_, rfl⟩
    | _ => cases map

theorem ascii_bearer (token : ∀ t, r.token = some t → ∀ c ∈ t.toList, c.toNat < 128) :
    ((r.token.bind fun t => if t.isEmpty then none else some ("Bearer " ++ t)).getD "").toList.any
      (128 ≤ ·.toNat) = false := by
  cases given : r.token with
  | none => rfl
  | some t =>
    have front : "Bearer ".toList.all (·.toNat < 128) = true := by decide
    rw [Option.bind_some]
    split
    · rfl
    · rw [Option.getD_some, any_eq_false, String.toList_append]
      intro c hc
      have ascii := (mem_append.1 hc).elim (fun h => of_decide_eq_true (all_eq_true.1 front c h))
        (token t given c)
      simpa using ascii

theorem request_copes {P : String → Response → Prop} (lost : ∀ m, Web.nowhere.Brings (P m))
    (leads : ∀ m b, P m b → b.Leads) (token : ∀ t, r.token = some t → ∀ c ∈ t.toList, c.toNat < 128)
    {method inside accept : String} {query : List (String × String)} {body : Option Value}
    (encodable : ∀ q ∈ query, Text.isEncodable q.2 = true) (addresses : r.Addresses inside query) :
    Copes (Web.HoldsFor fun m => Reply.Brings (P m)) (fun b => P method b ∧ r.refusal? b = none)
      (r.request method inside accept query body) v := by
  unfold request
  by_cases owner : r.owner.isEmpty = true
  · simp only [owner, if_true]
    exact .unavailable _ _
  · obtain ⟨u, u', read, asked, plain⟩ := addresses.resolve_left owner
    have encoded : (query.any fun q => !Text.isEncodable q.2) = false := by
      simpa using encodable
    simp only [owner, ascii_bearer token, Exchange.address_eq read, pure_bind, encoded, Bool.false_eq_true, if_false]
    by_cases plainly : query.isEmpty = true
    case' pos =>
      rw [if_pos plainly] at asked ⊢
      obtain rfl := Except.ok.inj asked
    case' neg =>
      rw [if_neg plainly] at asked ⊢
      rw [Exchange.readable_eq asked, pure_bind]
    all_goals
      rw [Exchange.checkHost_eq plain, pure_bind]
      refine (Exchange.ask_copes lost leads plain _).bind fun reply v' is => ?_
      cases reply with
      | impossible e => exact is.elim
      | failed reason => exact .unavailable _ _
      | response b =>
        dsimp only
        cases refusal : r.refusal? b with
        | none => exact .pure ⟨is, refusal⟩
        | some reason => exact .unavailable _ _

/-- What looks into the repository ask of each answer: a failure has words that explain it, a document is read
or has a reason why not, and the listed items fit. -/
structure Legible (r : Repository) (P : String → Response → Prop) (J : Value → Prop) : Prop where
  nowhere : ∀ m, Web.nowhere.Brings (P m)
  leads : ∀ m b, P m b → b.Leads
  explains : ∀ b, P "GET" b → r.Heeds b → b.status ≠ 200 → ∃ words, explanation b = .ok words
  whole : ∀ b, P "GET" b → b.status = 200 → ∀ d, b.document ≠ .error (.failure d)
  listing : ∀ b, P "GET" b → b.status = 200 → ∀ items, b.document = .ok (.list items) → ∀ item ∈ items, J item

section Looks

variable {P : String → Response → Prop} {J : Value → Prop} (legible : r.Legible P J) (ready : r.Ready)

include legible ready

theorem look_copes (reaches : r.Reaches inside) (accept : String) :
    Copes (Web.HoldsFor fun m => Reply.Brings (P m)) (fun b => P "GET" b ∧ r.refusal? b = none)
      (r.request "GET" inside accept [("ref", r.branch)] none) v :=
  request_copes legible.nowhere legible.leads ready.token (by simpa using ready.branch) reaches

theorem download_copes {path : Value} (reaches : r.Reaches path.display) {C : String → Prop}
    (content : ∀ b, P "GET" b → b.status = 200 → ∃ content, b.text = .ok content ∧ C content) :
    Copes (Web.HoldsFor fun m => Reply.Brings (P m)) (fun found => ∀ content, found = some content → C content)
      (r.download path) v := by
  refine (look_copes legible ready reaches contentForm).bind fun b v' ⟨hb, refusal⟩ => ?_
  by_cases absent : b.status = 404
  · simp only [absent]
    exact .pure fun content same => by cases same
  · by_cases fine : b.status = 200
    · obtain ⟨content, text, hc⟩ := content b hb fine
      simp only [fine, text]
      exact .pure fun content' same => Option.some.inj same ▸ hc
    · obtain ⟨words, explained⟩ := legible.explains b hb ⟨absent, refusal⟩ fine
      simp [absent, fine, explained]
      exact .unavailable _ _

variable {Q : Entry → Prop} (entry : ∀ kind item name v, J item → elementName? item = some name →
  Copes (Web.HoldsFor fun m => Reply.Brings (P m)) Q (r.entryOf kind name item) v)

include entry

theorem loadKind_copes (kind : Kind) :
    Copes (Web.HoldsFor fun m => Reply.Brings (P m)) (fun es => ∀ e ∈ es, Q e) (r.loadKind kind) v := by
  refine (look_copes legible ready (ready.kinds kind) listingForm).bind fun b v' ⟨hb, refusal⟩ => ?_
  by_cases absent : b.status = 404
  · simp only [absent]
    exact .pure (by simp)
  · by_cases fine : b.status = 200
    · simp only [fine]
      cases document : b.document with
      | error cause =>
        cases cause with
        | reason words => exact .unavailable _ _
        | failure d => exact absurd document (legible.whole b hb fine d)
      | ok value =>
        cases value with
        | list items =>
          refine .foldlM (fun es listed item hi v'' => ?_) (by simp)
          cases named : elementName? item with
          | none => exact .pure listed
          | some name =>
            refine (entry kind item name v'' (legible.listing b hb fine items document item hi) named).bind
              fun e v''' he => .pure ?_
            exact forall_mem_append.2 ⟨listed, forall_mem_singleton.2 he⟩
        | _ => exact .pure (by simp)
    · obtain ⟨words, explained⟩ := legible.explains b hb ⟨absent, refusal⟩ fine
      simp [absent, fine, explained]
      exact .unavailable _ _

theorem load_copes (kind : Option Kind) :
    Copes (Web.HoldsFor fun m => Reply.Brings (P m)) (fun es => ∀ e ∈ es, Q e) (r.load kind) v := by
  refine .foldlM (fun es listed k _ v' => ?_) (by simp)
  refine (loadKind_copes legible ready entry k).bind fun more v'' listed' => .pure ?_
  exact forall_mem_append.2 ⟨listed, listed'⟩

end Looks

theorem legible_tame (r : Repository) : r.Legible (fun _ => r.Tame) r.ItemFits where
  nowhere _ := r.nowhere_brings
  leads _ _ tame := tame.leads
  explains _ := exists_explanation
  whole _ tame fine := tame.whole (heeds_of_ok fine)
  listing _ tame := tame.listing

abbrev Manages {α : Type} (r : Repository) (Q : α → Prop) (x : Exchange α) (v : Web) : Prop :=
  Copes (Web.Holds (Reply.Brings r.Tame)) Q x v

theorem entryOf_manages (ready : r.Ready) {item : Value} (fits : r.ItemFits item) (kind : Kind) {name : String}
    (named : elementName? item = some name) : r.Manages Entry.Sound (r.entryOf kind name item) v := by
  obtain ⟨place, placed, reaches⟩ := fits kind name named
  unfold entryOf
  have bare : Entry.Sound { name := .text (Key.of kind name).name, kind, path := .text place
                            revision := (item.field? "sha").getD (.text "") } :=
    ⟨⟨_, rfl⟩, ⟨_, rfl⟩, ⟨_, rfl⟩, by simp, rfl⟩
  dsimp only
  rw [placed]
  by_cases reads : r.readsContents = true
  · simp only [reads, if_true]
    have reaches : r.Reaches (Value.text place).display := reaches reads
    refine (download_copes r.legible_tame ready reaches fun b tame fine => tame.content fine reads).bind
      fun found v' describable => ?_
    cases found with
    | none => exact .pure bare
    | some content =>
      obtain ⟨e, made, sound⟩ := (describable_iff (Key.of kind name) place ((item.field? "sha").getD (.text ""))).1
        (describable content rfl)
      simp only [made]
      exact .pure sound
  · simp only [reads]
    exact .pure bare

theorem load_manages (ready : r.Ready) (kind : Option Kind) :
    r.Manages (fun es => ∀ e ∈ es, e.Sound) (r.load kind) v :=
  load_copes r.legible_tame ready (fun kind _ _ _ fits named => entryOf_manages ready fits kind named) kind

end Repository

def Catalog.Reaches (c : Catalog) : Prop := ∃ u, Url.ofText c.index = .ok u ∧ u.complete.Plain

theorem Catalog.load_manages {c : Catalog} (reaches : c.Reaches) (r : Repository) (kind : Option Kind) (v : Web) :
    r.Manages (fun es => ∀ e ∈ es, e.Sound) (c.load kind) v := by
  obtain ⟨u, read, plain⟩ := reaches
  have got : r.Manages r.Tame (get c.index) v := by
    refine (Exchange.get_copes (P := fun _ => r.Tame) (fun _ => r.nowhere_brings) (fun _ _ tame => tame.leads) read
      plain).bind fun reply v' is => ?_
    cases reply with
    | impossible e => exact is.elim
    | failed reason => exact .unavailable _ _
    | response b =>
      dsimp only
      split
      · exact .unavailable _ _
      · exact .pure is
  refine got.bind fun b v' tame => ?_
  by_cases fine : b.status = 200
  · simp only [fine]
    cases document : b.document with
    | error cause =>
      cases cause with
      | reason words => exact .unavailable _ _
      | failure d => exact absurd document (tame.whole (Repository.heeds_of_ok fine) d)
    | ok value =>
      obtain ⟨es, made, sound⟩ := entries_sound (tame.index fine value document)
      simp only [made]
      exact .pure fun e he => sound e (mem_filter.1 he).1
  · simp only [bne_iff_ne, ne_eq, fine, not_false_eq_true, if_true]
    exact .unavailable _ _

end TriStore
