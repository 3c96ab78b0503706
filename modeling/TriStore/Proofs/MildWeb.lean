import TriStore.Proofs.TameWeb

/-!
Answers of the web that an item of a sync gets over.
-/
namespace TriStore

/-- The failure of an item that a sync notes before it goes on. -/
def Failure.isNoted : Failure → Bool
  | .conflict _ _ => true
  | e => e.isRecoverable

theorem Failure.isNoted_of_isUnavailable (e : Failure) (h : e.IsUnavailable) : e.isNoted = true := by
  obtain ⟨t, reason, rfl⟩ := h.exists_eq
  rfl

namespace Repository

variable {key : Key} {entry : Option Entry} {r : Repository} {b : Response} {v : Web}

/-- A place inside the repository for which every request can be made. -/
def Opens (r : Repository) (inside : String) : Prop :=
  r.Addresses inside [] ∧ r.Addresses inside [("ref", r.branch)]

instance (inside : String) : Decidable (r.Opens inside) := inferInstanceAs (Decidable (_ ∧ _))

/-- Whether an operation has not met with what it asked for, and looks for words in the answer. -/
def isUnmet (method : String) (status : Nat) : Bool :=
  status != 200 && status != if method == "PUT" then 201 else 404

/-- An answer that an item gets over. If it is unmet, words or a meaning explain it. An answer to a write or a
look is no document that is nested too deep; that to a look has listed items in places that open, and a text
that can be read, encoded and described. -/
structure Mild (r : Repository) (method : String) (b : Response) : Prop where
  leads : b.Leads
  explains : r.refusal? b = none → isUnmet method b.status = true → ∃ words, explanation b = .ok words
  written : method = "PUT" → isUnmet method b.status = false → ∀ d, b.document ≠ .error (.failure d)
  whole : method = "GET" → b.status = 200 → ∀ d, b.document ≠ .error (.failure d)
  listing : method = "GET" → b.status = 200 → ∀ items, b.document = .ok (.list items) → ∀ item ∈ items,
    ∀ kind name, elementName? item = some name → r.Opens (placeIn (Key.of kind name) item).display
  content : method = "GET" → b.status = 200 → ∃ content, b.text = .ok content ∧
    Text.isEncodable content = true ∧ (r.readsContents = true → Describable content)

theorem nowhere_mild (r : Repository) (method : String) : Web.nowhere.Brings (r.Mild method) := by
  intro b unpacked
  have explained : ∃ words, explanation b = .ok words := by
    obtain rfl := Except.ok.inj unpacked
    decide +kernel
  have status : b.status = 404 := by
    obtain rfl := Except.ok.inj unpacked
    rfl
  have other : b.status ≠ 200 := by simp [status]
  refine ⟨fun location leads => ?_, fun _ _ => explained, fun put met => ?_, fun _ h => absurd h other,
    fun _ h => absurd h other, fun _ h => absurd h other⟩
  · simp [Response.redirect?, status] at leads
  · simp [isUnmet, put, status] at met

/-- What an exchange does on a web whose replies are mild. -/
abbrev Bears {α : Type} (r : Repository) (Q : α → Prop) (x : Exchange α) (v : Web) : Prop :=
  Copes (Web.HoldsFor fun m => Reply.Brings (r.Mild m)) Q x v

theorem request_bears (ready : r.Ready) {method inside accept : String} {query : List (String × String)}
    {body : Option Value} (encodable : ∀ q ∈ query, Text.isEncodable q.2 = true)
    (addresses : r.Addresses inside query) :
    r.Bears (fun b => r.Mild method b ∧ r.refusal? b = none) (r.request method inside accept query body) v :=
  request_copes r.nowhere_mild (fun _ _ mild => mild.leads) ready.token encodable addresses

theorem legible_mild (r : Repository) : r.Legible r.Mild fun item =>
    ∀ kind name, elementName? item = some name → r.Opens (placeIn (Key.of kind name) item).display where
  nowhere := r.nowhere_mild
  leads _ _ mild := mild.leads
  explains _ mild heeds other := mild.explains heeds.2 (by simp [isUnmet, heeds.1, other])
  whole _ mild := mild.whole rfl
  listing _ mild := mild.listing rfl

theorem download_bears (ready : r.Ready) {path : Value} (opens : r.Opens path.display) :
    r.Bears (fun found => ∀ content, found = some content → Text.isEncodable content = true ∧
      (r.readsContents = true → Describable content)) (r.download path) v :=
  download_copes r.legible_mild ready opens.2 fun _ mild => mild.content rfl

theorem entryOf_bears (ready : r.Ready) (kind : Kind) (name : String) {item : Value}
    (opens : r.Opens (placeIn (Key.of kind name) item).display) :
    r.Bears (fun e => r.Opens e.path.display) (r.entryOf kind name item) v := by
  unfold entryOf
  by_cases reads : r.readsContents = true
  · simp only [reads, if_true]
    refine (download_bears ready opens).bind fun found v' sound => ?_
    cases found with
    | none => exact .pure opens
    | some content =>
      obtain ⟨e, made, path, -⟩ := ((sound content rfl).2 reads).exists_entry (Key.of kind name)
        (placeIn (Key.of kind name) item) ((item.field? "sha").getD (.text ""))
      simp only [made]
      refine .pure ?_
      have same : e.path = placeIn (Key.of kind name) item := by
        rw [path]
        unfold placeIn
        split
        · split <;> simp_all
        · simp
      rw [same]
      exact opens
  · simp only [reads]
    exact .pure opens

theorem load_bears (ready : r.Ready) (kind : Option Kind) :
    r.Bears (fun es => ∀ e ∈ es, r.Opens e.path.display) (r.load kind) v :=
  load_copes r.legible_mild ready (fun kind _ name _ opens named => entryOf_bears ready kind name (opens kind name named))
    kind

/-- The same of an exchange that may end in other failures too. -/
abbrev Answers {α : Type} (r : Repository) (F : Failure → Prop) (Q : α → Prop) (x : Exchange α) (v : Web) : Prop :=
  Concludes F (Web.HoldsFor fun m => Reply.Brings (r.Mild m)) Q x v

theorem fetch_answers (ready : r.Ready) (opens : r.Opens (place key entry).display) :
    r.Answers (·.isNoted = true) (fun content => Text.isEncodable content = true) (r.fetch key entry) v := by
  refine .bind ((download_bears ready opens).mono Failure.isNoted_of_isUnavailable) fun found v' sound => ?_
  cases found with
  | none => exact .throw rfl
  | some content => exact .pure (sound content rfl).1

theorem refused_eq {words : String} (explained : explanation b = .ok words) :
    refused key b = pure (.conflict key.label ("remote changed concurrently: " ++ words)) := by
  rw [refused, explained]
  rfl

theorem isUnmet_of_isConflict (method : String) (h : isConflict b = true) : isUnmet method b.status = true := by
  have status : b.status = 409 ∨ b.status = 422 := by simpa [isConflict] using h
  rcases status with is | is <;> rw [is] <;> unfold isUnmet <;> split <;> rfl

theorem exists_revisionIn {content : String} (encodable : Text.isEncodable content = true)
    (whole : ∀ d, b.document ≠ .error (.failure d)) : ∃ revision, revisionIn b content = .ok revision := by
  have blob : ∃ name, (Digest.blob content).map Value.text = .ok name := by
    have bytes : ∃ bs, Text.utf8? content = some bs := by
      unfold Text.utf8?
      split
      · exact ⟨_, rfl⟩
      · exact ⟨_, rfl⟩
    obtain ⟨bs, bytes⟩ := bytes
    rw [Digest.blob, Digest.bytesOf, bytes]
    exact ⟨_, rfl⟩
  unfold revisionIn
  cases document : b.document with
  | error cause =>
    cases cause with
    | reason words => exact blob
    | failure d => exact absurd document (whole d)
  | ok value =>
    cases value with
    | map kvs =>
      dsimp only
      split
      · exact ⟨_, rfl⟩
      · exact blob
    | _ => exact blob

theorem write_answers (ready : r.Ready)
    (opens : r.Opens (place key entry).display) (content : String) (expected : Option Value) :
    r.Answers (fun e => e.isNoted = true ∨ Text.isEncodable content = false) (fun _ => True)
      (r.write key entry content expected) v := by
  unfold write
  cases encodable : Text.isEncodable content with
  | false => exact .throw (.inr rfl)
  | true =>
    refine .bind ((request_bears ready (by simp) opens.1).mono fun e he => .inl (e.isNoted_of_isUnavailable he))
      fun b v' ⟨mild, refusal⟩ => ?_
    by_cases conflict : isConflict b = true
    · obtain ⟨words, explained⟩ := mild.explains refusal (isUnmet_of_isConflict _ conflict)
      simp only [conflict, if_true, refused_eq explained, pure_bind]
      exact .throw (.inl rfl)
    · simp only [conflict, Bool.false_eq_true, if_false]
      by_cases unmet : (b.status != 200 && b.status != 201) = true
      · obtain ⟨words, explained⟩ := mild.explains refusal unmet
        simp only [unmet, if_true, explained]
        exact .throw (.inl rfl)
      · obtain ⟨revision, made⟩ := exists_revisionIn encodable (mild.written rfl (by simpa [isUnmet] using unmet))
        simp only [unmet, made]
        exact .pure trivial

theorem delete_answers (ready : r.Ready) {entry : Entry} (opens : r.Opens entry.path.display)
    (expected : Option Value) :
    r.Answers (·.isNoted = true) (fun _ => True) (r.delete key entry expected) v := by
  refine .bind ((request_bears ready (by simp) opens.1).mono Failure.isNoted_of_isUnavailable)
    fun b v' ⟨mild, refusal⟩ => ?_
  by_cases conflict : isConflict b = true
  · obtain ⟨words, explained⟩ := mild.explains refusal (isUnmet_of_isConflict _ conflict)
    simp only [conflict, if_true, refused_eq explained, pure_bind]
    exact .throw rfl
  · simp only [conflict, Bool.false_eq_true, if_false]
    by_cases unmet : (b.status != 200 && b.status != 404) = true
    · obtain ⟨words, explained⟩ := mild.explains refusal unmet
      simp only [unmet, if_true, explained]
      exact .throw rfl
    · simp only [unmet]
      exact .pure trivial

end Repository

end TriStore
