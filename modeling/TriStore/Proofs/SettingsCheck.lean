import TriStore.Proofs.Guarded
import TriStore.Proofs.Rounding

/-!
Reading settings finds one fault for each section and key that is not as it should be, in the order of the
fields.
-/
namespace TriStore.Settings
open List

inductive Want where
  | text
  | switch
  | number

def Want.accepts : Want → Value → Bool
  | .text, .text _ | .switch, .bool _ => true
  | .number, .int n => 0 < n
  | .number, .float x => (Magnitude.value 0).lt (.ofBinary64 x)
  | _, _ => false

/-- The sections in their order, with the keys known in each and what is wanted of them. -/
def sections : List (String × List (String × Want)) := [
  ("github", [("owner", .text), ("repository", .text), ("branch", .text), ("api_url", .text)]),
  ("registry", [("index_url", .text), ("raw_base_url", .text)]),
  ("cache", [("max_entries", .number), ("max_memory_mb", .number), ("ttl_seconds", .number)]),
  ("sync", [("enabled", .switch), ("bulk_download_enabled", .switch), ("bulk_upload_enabled", .switch),
    ("require_confirmation", .switch), ("scan_for_secrets", .switch)])]

inductive Offence where
  | noMapping (name : String)
  | key (name key : String) (v : Value)
  | timeout (v : Value)

/-- What is said of an offence, unless a number in it is too long to be written. -/
def Offence.text : Offence → Except Failure String
  | .noMapping name => .ok ("'" ++ name ++ "' must be a mapping")
  | .key name k v => v.checkWritable.map fun _ => name ++ "." ++ k ++ " has invalid value " ++ v.literal
  | .timeout v => v.checkWritable.map fun _ =>
    "backend_timeout_seconds must be a positive number, got " ++ v.literal

section Document

variable (doc : Value)

def isMalformed (name : String) : Bool :=
  match doc.field? name with
  | none | some .null | some (.map _) => false
  | some _ => true

def partOf (name : String) : Part where
  name := name
  fields := match doc.field? name with
    | some (.map kvs) => (Value.map kvs).opened
    | _ => .map []

def given? (name key : String) : Option Value := (partOf doc name).fields.field? key

/-- The value of a key if it is of the right kind, and the default otherwise. -/
def taken {α : Type} (name key : String) (kind : Value → Option α) (otherwise : α) : α :=
  ((given? doc name key).bind kind).getD otherwise

def offencesAt (name key : String) (want : Want) : List Offence :=
  match given? doc name key with
  | some v => if want.accepts v then [] else [.key name key v]
  | none => []

def offencesIn (s : String × List (String × Want)) : List Offence :=
  (if isMalformed doc s.1 then [.noMapping s.1] else []) ++ s.2.flatMap fun k => offencesAt doc s.1 k.1 k.2

/-- The timeout is to be a positive number, but an undefined one passes too. -/
def timeoutOffences : List Offence :=
  match doc.field? "backend_timeout_seconds" with
  | some v => if Want.number.accepts v || v.areUndefined v then [] else [.timeout v]
  | none => []

def offences : List Offence := sections.flatMap (offencesIn doc) ++ timeoutOffences doc

end Document

/-- The reading gives a value and reports offences, or fails at the first that cannot be put into words. -/
def Reads {α : Type} (x : Reading α) (a : α) (os : List Offence) : Prop :=
  ∀ faults, x.run faults = os.mapM Offence.text >>= fun texts => .ok (a, faults ++ texts)

namespace Reads

variable {α β : Type} {a : α} {b : β} {os os' : List Offence}

theorem pure (a : α) : Reads (Pure.pure a) a [] := fun faults => by
  rw [List.mapM_nil, pure_bind, List.append_nil]
  rfl

theorem bind {x : Reading α} {f : α → Reading β} (first : Reads x a os) (second : Reads (f a) b os') :
    Reads (x >>= f) b (os ++ os') := by
  intro faults
  rw [StateT.run_bind, first, List.mapM_append]
  simp only [bind_assoc, ok_bind, pure_bind, second _, List.append_assoc]

theorem report {o : Offence} {fault : String} {v : Value}
    (text : o.text = v.checkWritable.map fun _ => fault ++ v.literal) (a : α) :
    Reads (do Settings.report fault v; Pure.pure a) a [o] := by
  intro faults
  rw [List.mapM_cons, List.mapM_nil, text]
  unfold Settings.report
  cases v.checkWritable <;> rfl

end Reads

theorem isSome_text? (v : Value) : (text? v).isSome = Want.text.accepts v := by cases v <;> rfl

theorem isSome_switch? (v : Value) : (switch? v).isSome = Want.switch.accepts v := by cases v <;> rfl

theorem isSome_positive? (v : Value) : (positive? v).isSome = Want.number.accepts v := by
  cases v with
  | int n => simp [positive?, Quantity.ofValue?, Quantity.magnitude, Magnitude.lt, Want.accepts, apply_ite]
  | float x => simp [positive?, Quantity.ofValue?, Quantity.magnitude, Want.accepts, apply_ite]
  | _ => rfl

theorem isSome_timeout? (v : Value) : (timeout? v).isSome = (Want.number.accepts v || v.areUndefined v) := by
  have value (q : ℚ) (x : Quantity) :
      (if (Magnitude.value q).le (0 : Nat) then none else some x).isSome = decide (0 < q) := by
    have zero := Magnitude.value_le_value (a := q) (b := (0 : Nat))
    split
    · next below => simpa using zero.1 below
    · next above => simpa using not_le.1 fun below => above (zero.2 below)
  cases v with
  | int n => exact (value n _).trans (by simp [Want.accepts, Value.areUndefined])
  | float x =>
    cases x with
    | nan => rfl
    | infinite s => cases s <;> rfl
    | finite s m e => exact (value _ _).trans (Bool.or_false _).symm
  | _ => rfl

theorem reads_part (doc : Value) (name : String) :
    Reads (part doc name) (partOf doc name) (if isMalformed doc name then [.noMapping name] else []) := by
  unfold part partOf isMalformed
  cases doc.field? name with
  | none => exact .pure _
  | some v =>
    cases v with
    | null | map => exact .pure _
    | _ => exact fun faults => rfl

theorem reads_key {α : Type} {kind : Value → Option α} {want : Want}
    (kinds : ∀ v, (kind v).isSome = want.accepts v) (doc : Value) (name key : String) (otherwise : α) :
    Reads ((partOf doc name).read key kind otherwise) (taken doc name key kind otherwise)
      (offencesAt doc name key want) := by
  unfold Part.read taken offencesAt given?
  cases (partOf doc name).fields.field? key with
  | none => exact .pure _
  | some v =>
    dsimp only [Option.bind]
    rw [← kinds v]
    cases kind v with
    | some a => exact .pure _
    | none => exact .report rfl _

section Document

variable (doc : Value)

def repositoryOf : RepositorySettings :=
  let d : RepositorySettings := {}
  { owner := taken doc "github" "owner" text? d.owner
    repository := taken doc "github" "repository" text? d.repository
    branch := taken doc "github" "branch" text? d.branch
    apiUrl := taken doc "github" "api_url" text? d.apiUrl }

def registryOf : RegistrySettings :=
  let d : RegistrySettings := {}
  { indexUrl := taken doc "registry" "index_url" text? d.indexUrl
    rawBaseUrl := taken doc "registry" "raw_base_url" text? d.rawBaseUrl }

def cacheOf : CacheSettings :=
  let d : CacheSettings := {}
  { maxEntries := taken doc "cache" "max_entries" positive? d.maxEntries
    maxMemoryMb := taken doc "cache" "max_memory_mb" positive? d.maxMemoryMb
    ttlSeconds := taken doc "cache" "ttl_seconds" positive? d.ttlSeconds }

def syncOf : SyncSettings :=
  let d : SyncSettings := {}
  { enabled := taken doc "sync" "enabled" switch? d.enabled
    bulkDownload := taken doc "sync" "bulk_download_enabled" switch? d.bulkDownload
    bulkUpload := taken doc "sync" "bulk_upload_enabled" switch? d.bulkUpload
    requireConfirmation := taken doc "sync" "require_confirmation" switch? d.requireConfirmation
    scanForSecrets := taken doc "sync" "scan_for_secrets" switch? d.scanForSecrets }

def timeoutOf : Except Failure Binary64 :=
  ((doc.field? "backend_timeout_seconds").bind timeout?).elim (.ok (Binary64.ofInt 10)) realOf

/-- What is read of the document, with defaults for what is missing or wrong. -/
def settingsOf (portfolioDir : String) (backendTimeout : Binary64) : Settings where
  portfolioDir
  repository := repositoryOf doc
  registry := registryOf doc
  cache := cacheOf doc
  sync := syncOf doc
  backendTimeout

def readSections : Reading (RepositorySettings × RegistrySettings × CacheSettings × SyncSettings) := do
  return (← readRepository doc, ← readRegistry doc, ← readCache doc, ← readSync doc)

theorem reads_sections : Reads (readSections doc)
    (repositoryOf doc, registryOf doc, cacheOf doc, syncOf doc) (sections.flatMap (offencesIn doc)) := by
  have text (name : String) := reads_key isSome_text? doc name
  have number := reads_key isSome_positive? doc "cache"
  have switch := reads_key isSome_switch? doc "sync"
  have repository : Reads (readRepository doc) (repositoryOf doc) _ := (reads_part doc "github").bind <|
    (text "github" "owner" _).bind <| (text "github" "repository" _).bind <| (text "github" "branch" _).bind <|
    (text "github" "api_url" _).bind (.pure _)
  have registry : Reads (readRegistry doc) (registryOf doc) _ := (reads_part doc "registry").bind <|
    (text "registry" "index_url" _).bind <| (text "registry" "raw_base_url" _).bind (.pure _)
  have cache : Reads (readCache doc) (cacheOf doc) _ := (reads_part doc "cache").bind <|
    (number "max_entries" _).bind <| (number "max_memory_mb" _).bind <| (number "ttl_seconds" _).bind (.pure _)
  have sync : Reads (readSync doc) (syncOf doc) _ := (reads_part doc "sync").bind <|
    (switch "enabled" _).bind <| (switch "bulk_download_enabled" _).bind <| (switch "bulk_upload_enabled" _).bind <|
    (switch "require_confirmation" _).bind <| (switch "scan_for_secrets" _).bind (.pure _)
  exact repository.bind <| registry.bind <| cache.bind <| sync.bind (.pure _)

theorem run_readTimeout (faults : List String) : (readTimeout doc).run faults = do
    let texts ← (timeoutOffences doc).mapM Offence.text
    let t ← timeoutOf doc return (t, faults ++ texts) := by
  unfold readTimeout timeoutOf timeoutOffences
  cases doc.field? "backend_timeout_seconds" with
  | none => exact Reads.pure _ faults
  | some v =>
    dsimp only [Option.bind]
    rw [← isSome_timeout? v]
    cases timeout? v with
    | none => exact Reads.report rfl _ faults
    | some q =>
      dsimp only [Option.isSome, Option.elim]
      rw [if_pos rfl, List.mapM_nil, pure_bind, List.append_nil]
      rfl

theorem run_readAll : (readAll doc).run [] = do
    let dir ← readFolder doc
    let x ← (readSections doc).run []
    let t ← (readTimeout doc).run x.2 return (⟨dir, x.1.1, x.1.2.1, x.1.2.2.1, x.1.2.2.2, t.1⟩, t.2) := by
  simp only [readAll, readSections, StateT.run_bind, bind_assoc, StateT.run_pure, pure_bind]
  cases readFolder doc <;> rfl

variable {doc} {kvs kvs' : List (Value × Value)} {s : Settings}

theorem ofValue_eq (kvs : List (Value × Value)) : ofValue (.map kvs) = (do
    let dir ← readFolder (.map kvs)
    let texts ← (offences (.map kvs)).mapM Offence.text
    let t ← timeoutOf (.map kvs) if texts.isEmpty then return settingsOf (.map kvs) dir t
    else throw (.configuration "Invalid settings" texts)) := by
  rw [ofValue]
  rw [run_readAll, offences]
  simp only [reads_sections _ _, run_readTimeout, List.mapM_append, bind_assoc, pure_bind, ok_bind, List.nil_append]
  rfl

theorem ofValue_of_offences {dir : String} {texts : List String} {t : Binary64}
    (folder : readFolder (.map kvs) = .ok dir) (shown : (offences (.map kvs)).mapM Offence.text = .ok texts)
    (timeout : timeoutOf (.map kvs) = .ok t) : ofValue (.map kvs) =
      if offences (.map kvs) = [] then .ok (settingsOf (.map kvs) dir t)
      else .error (.configuration "Invalid settings" texts) := by
  rw [ofValue_eq, folder, ok_bind, shown, ok_bind, timeout, ok_bind]
  have same : texts.isEmpty = true ↔ offences (.map kvs) = [] := by
    cases found : offences (.map kvs) with
    | nil =>
      rw [found] at shown
      simp [← Except.ok.inj shown]
    | cons o os =>
      rw [found, mapM_cons] at shown
      obtain ⟨_, -, shown⟩ := bind_eq_ok.1 shown
      obtain ⟨_, -, shown⟩ := bind_eq_ok.1 shown
      simp [← Except.ok.inj shown]
  simp only [same]
  rfl

theorem exists_of_ofValue (h : ofValue (.map kvs) = .ok s) :
    ∃ dir t, timeoutOf (.map kvs) = .ok t ∧ offences (.map kvs) = [] ∧ s = settingsOf (.map kvs) dir t := by
  have whole := h
  rw [ofValue_eq] at h
  obtain ⟨dir, folder, h⟩ := bind_eq_ok.1 h
  obtain ⟨texts, shown, h⟩ := bind_eq_ok.1 h
  obtain ⟨t, timeout, -⟩ := bind_eq_ok.1 h
  rw [ofValue_of_offences folder shown timeout] at whole
  split at whole
  · next none => exact ⟨dir, t, timeout, none, (Except.ok.inj whole).symm⟩
  · cases whole

/-- The two documents have the same under every known key. -/
structure SameKnown (doc doc' : Value) : Prop where
  folder : doc'.field? "portfolio_dir" = doc.field? "portfolio_dir"
  timeout : doc'.field? "backend_timeout_seconds" = doc.field? "backend_timeout_seconds"
  sections : ∀ s ∈ sections, isMalformed doc' s.1 = isMalformed doc s.1 ∧
    ∀ k ∈ s.2, given? doc' s.1 k.1 = given? doc s.1 k.1

theorem SameKnown.ofValue_eq (h : SameKnown (.map kvs) (.map kvs')) : ofValue (.map kvs') = ofValue (.map kvs) := by
  have same := h.sections
  simp only [Settings.sections, forall_mem_cons, not_mem_nil, IsEmpty.forall_iff, implies_true, and_true] at same
  simp only [Settings.ofValue_eq, readFolder, timeoutOf, offences, timeoutOffences, h.folder, h.timeout, settingsOf,
    repositoryOf, registryOf, cacheOf, syncOf, taken, Settings.sections, flatMap_cons, flatMap_nil,
    offencesIn, offencesAt, same]

end Document

/-- Settings whose limits are positive numbers and whose timeout is not zero or less. -/
structure IsSound (s : Settings) : Prop where
  entries : positive? s.cache.maxEntries.toValue = some s.cache.maxEntries
  memory : positive? s.cache.maxMemoryMb.toValue = some s.cache.maxMemoryMb
  ttl : positive? s.cache.ttlSeconds.toValue = some s.cache.ttlSeconds
  timeout : timeout? (.float s.backendTimeout) = some (.real s.backendTimeout)

theorem toValue_of_positive? {v : Value} {q : Quantity} (h : positive? v = some q) : q.toValue = v := by
  cases v with
  | int | float =>
    rw [← Option.some.inj (Option.ite_none_right_eq_some.1 h).2]
    rfl
  | _ => cases h

theorem positive?_taken {d : Quantity} (own : positive? d.toValue = some d) (doc : Value) (name key : String) :
    positive? (taken doc name key positive? d).toValue = some (taken doc name key positive? d) := by
  unfold taken
  cases found : (given? doc name key).bind positive? with
  | none => exact own
  | some q =>
    obtain ⟨v, -, kept⟩ := Option.bind_eq_some_iff.1 found
    rw [Option.getD_some, toValue_of_positive? kept, kept]

theorem timeout?_ofInt {n : Int} (positive : 0 < n) :
    timeout? (.float (Binary64.ofInt n)) = some (.real (Binary64.ofInt n)) := by
  refine if_neg fun below => ?_
  have sign : decide (n < 0) = false := by simpa using positive.le
  have one : (1 : ℚ) ≤ n.natAbs := by exact_mod_cast Int.natAbs_pos.2 positive.ne'
  have least := Binary64.le_nearest (m := 1) (e := 0) (by norm_num) (by decide) (Int.natAbs_pos.2 positive.ne')
    Nat.one_pos (by simpa using one)
  rw [← sign] at least
  exact absurd (Magnitude.value_le_value.1 (Magnitude.le_trans least below)) (by norm_num)

theorem timeout?_realOf {v : Value} {q : Quantity} {t : Binary64} (kept : timeout? v = some q)
    (read : realOf q = .ok t) : timeout? (.float t) = some (.real t) := by
  cases v with
  | int n =>
    have positive : 0 < n := by
      have accepted := isSome_timeout? (.int n)
      rw [kept] at accepted
      simpa [Want.accepts, Value.areUndefined] using accepted
    obtain rfl := Option.some.inj (Option.ite_none_left_eq_some.1 kept).2
    dsimp only [realOf] at read
    split at read
    · cases read
    · exact Except.ok.inj read ▸ timeout?_ofInt positive
  | float x =>
    obtain rfl := Option.some.inj (Option.ite_none_left_eq_some.1 kept).2
    exact Except.ok.inj read ▸ kept
  | _ => cases kept

theorem isSound_settingsOf {doc : Value} {t : Binary64} (read : timeoutOf doc = .ok t) (dir : String) :
    (settingsOf doc dir t).IsSound where
  entries := positive?_taken rfl doc _ _
  memory := positive?_taken rfl doc _ _
  ttl := positive?_taken rfl doc _ _
  timeout := by
    show timeout? (.float t) = some (.real t)
    unfold timeoutOf at read
    cases found : (doc.field? "backend_timeout_seconds").bind timeout? with
    | none =>
      rw [found] at read
      exact Except.ok.inj read ▸ timeout?_ofInt (by decide)
    | some q =>
      rw [found] at read
      obtain ⟨v, -, kept⟩ := Option.bind_eq_some_iff.1 found
      exact timeout?_realOf kept read

theorem opened_record {fields : List (String × Value)} (plain : ∀ f ∈ fields, f.2.isCyclic = false) :
    (Value.record fields).opened = .record fields := by
  have acyclic : Value.anyPairCyclic (fields.map fun f => (.text f.1, f.2)) = false := by
    induction fields with
    | nil => rfl
    | cons f fields ih =>
      obtain ⟨first, rest⟩ := forall_mem_cons.1 plain
      rw [map_cons, Value.anyPairCyclic, first, ih rest]
      rfl
  exact if_pos (by rw [Value.record, Value.isCyclic]; simpa using acyclic)

theorem pureThen {α β : Type} {x : Reading α} {f : α → Reading β} {a : α} {y : Reading β} (first : x = pure a)
    (second : f a = y) : x >>= f = y := by
  rw [first, pure_bind, second]

theorem readAll_toValue {s : Settings} (sound : s.IsSound) : readAll s.toValue = pure s := by
  have field (name : String) : s.toValue.field? name = _ := Value.field?_record _ name
  have acyclic (q : Quantity) : q.toValue.isCyclic = false := by cases q <;> rfl
  have part {name : String} {fields : List (String × Value)} (there : s.toValue.field? name = some (.record fields))
      (plain : ∀ f ∈ fields, f.2.isCyclic = false) : Settings.part s.toValue name = pure ⟨name, .record fields⟩ := by
    rw [Settings.part, there]
    exact congrArg (fun v => pure (Part.mk name v)) (opened_record plain)
  have key {α : Type} {name key : String} {fields : List (String × Value)} {kind : Value → Option α} {v : Value}
      {a d : α} (there : (fields.find? (·.1 == key)).map (·.2) = some v) (kept : kind v = some a) :
      (Part.mk name (.record fields)).read key kind d = pure a := by
    rw [Part.read, Value.field?_record, there]
    dsimp only
    rw [kept]
  have folder : readFolder s.toValue = .ok s.portfolioDir := by
    rw [readFolder, field]
    show (if (!s.portfolioDir.isEmpty) = true then Except.ok s.portfolioDir else .ok "") = _
    by_cases none : s.portfolioDir = ""
    · simp [none]
    · simp [none]
  have repository : readRepository s.toValue = pure s.repository :=
    pureThen (part (field "github") (by simp [Value.isCyclic])) <| pureThen (key rfl rfl) <|
      pureThen (key rfl rfl) <| pureThen (key rfl rfl) <| pureThen (key rfl rfl) rfl
  have registry : readRegistry s.toValue = pure s.registry :=
    pureThen (part (field "registry") (by simp [Value.isCyclic])) <| pureThen (key rfl rfl) <|
      pureThen (key rfl rfl) rfl
  have cache : readCache s.toValue = pure s.cache :=
    pureThen (part (field "cache") (by simp [acyclic])) <| pureThen (key rfl sound.entries) <|
      pureThen (key rfl sound.memory) <| pureThen (key rfl sound.ttl) rfl
  have sync : readSync s.toValue = pure s.sync :=
    pureThen (part (field "sync") (by simp [Value.isCyclic])) <| pureThen (key rfl rfl) <|
      pureThen (key rfl rfl) <| pureThen (key rfl rfl) <| pureThen (key rfl rfl) <| pureThen (key rfl rfl) rfl
  have timeout : readTimeout s.toValue = pure s.backendTimeout := by
    rw [readTimeout, field]
    dsimp only [List.find?, String.reduceBEq, Option.map]
    rw [sound.timeout]
    rfl
  rw [readAll, folder]
  exact pureThen rfl <| pureThen repository <| pureThen registry <| pureThen cache <| pureThen sync <|
    pureThen timeout rfl

theorem ofValue_toValue {s : Settings} (sound : s.IsSound) : ofValue s.toValue = .ok s := by
  show (readAll s.toValue).run [] >>= _ = _
  rw [readAll_toValue sound]
  rfl

/-- A document is accepted exactly when nothing in it offends, and otherwise each offence is reported once, in
the order of the fields, if all can be put into words. Unknown keys do not matter, and accepted settings are
read from what is written for them. -/
theorem validation_complete (kvs : List (Value × Value)) :
    (∀ dir texts t, readFolder (.map kvs) = .ok dir → (offences (.map kvs)).mapM Offence.text = .ok texts →
      timeoutOf (.map kvs) = .ok t → ofValue (.map kvs) =
        if offences (.map kvs) = [] then .ok (settingsOf (.map kvs) dir t)
        else .error (.configuration "Invalid settings" texts)) ∧
    (∀ kvs', SameKnown (.map kvs) (.map kvs') → ofValue (.map kvs') = ofValue (.map kvs)) ∧
    ∀ s, ofValue (.map kvs) = .ok s → offences (.map kvs) = [] ∧ ofValue s.toValue = .ok s := by
  refine ⟨fun _ _ _ => ofValue_of_offences, fun kvs' same => same.ofValue_eq, fun s accepted => ?_⟩
  obtain ⟨dir, t, timeout, none, rfl⟩ := exists_of_ofValue accepted
  exact ⟨none, ofValue_toValue (isSound_settingsOf timeout dir)⟩

def offending : List (Value × Value) := [(.text "backend_timeout_seconds", .int (-1)), (.text "colour", .text "red")]

/-- The offence is reported, with the unknown key or without it; a document without one is accepted, and read
again. -/
theorem validation_complete_offending :
    (∃ texts, ofValue (.map offending) = .error (.configuration "Invalid settings" texts) ∧ texts.length = 1) ∧
      ofValue (.map (offending.take 1)) = ofValue (.map offending) ∧
      ∃ s, ofValue (.map (offending.drop 1)) = .ok s ∧ ofValue s.toValue = .ok s := by
  obtain ⟨dir, folder⟩ : ∃ dir, readFolder (.map offending) = .ok dir := by decide +kernel
  obtain ⟨texts, worded, one⟩ : ∃ texts, (offences (.map offending)).mapM Offence.text = .ok texts ∧ texts.length = 1 := by
    decide +kernel
  obtain ⟨t, timely⟩ : ∃ t, timeoutOf (.map offending) = .ok t := by decide +kernel
  obtain ⟨s, accepted⟩ : ∃ s, ofValue (.map (offending.drop 1)) = .ok s := by decide +kernel
  have some : offences (.map offending) ≠ [] := by
    intro none
    rw [none] at worded
    cases worded
    cases one
  have reported := (validation_complete offending).1 dir texts t folder worded timely
  rw [if_neg some] at reported
  have same (k : String) (known : k ≠ "colour") :
      (Value.map (offending.take 1)).field? k = (Value.map offending).field? k := by
    have whole := Value.field?_record [("backend_timeout_seconds", .int (-1)), ("colour", .text "red")] k
    have part := Value.field?_record [("backend_timeout_seconds", .int (-1))] k
    refine part.trans (Eq.trans ?_ whole.symm)
    have other : ("colour" == k) = false := by simpa using known.symm
    simp only [find?_cons, find?_nil, other]
  have known : ∀ s ∈ sections, s.1 ≠ "colour" := by decide
  refine ⟨⟨texts, reported, one⟩, (validation_complete offending).2.1 _
    ⟨same _ (by decide), same _ (by decide), fun s hs => ⟨?_, fun k _ => ?_⟩⟩, s, accepted,
    ((validation_complete _).2.2 s accepted).2⟩
  · rw [isMalformed, isMalformed, same _ (known s hs)]
  · rw [given?, given?, partOf, partOf, same _ (known s hs)]

/-- An undefined timeout is not a positive number, but it is accepted. -/
theorem undefined_timeout_passed : Want.number.accepts (.float .nan) = false ∧
    ofValue (.record [("backend_timeout_seconds", .float .nan)]) = .ok { backendTimeout := .nan } :=
  ⟨rfl, eq_ok_of_toOption (by decide +kernel)⟩

end TriStore.Settings
