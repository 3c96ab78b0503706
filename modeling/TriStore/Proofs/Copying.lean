import TriStore.Proofs.Resolution

/-!
All that a download or an upload does but read is one write, to the store here or to the remote store.
-/
namespace TriStore

namespace Lookup

variable {query place : String} {es : List Entry} {e : Entry}

theorem candidates_of_resolve (h : resolve query es place = .ok e) : candidates query es = [e] := by
  unfold resolve at h
  split at h
  · cases h
  · next only => rw [only, Except.ok.inj h]
  · cases h

theorem qualifies_of_resolve (h : resolve query es place = .ok e) : Qualifies query es e :=
  mem_candidates_iff.1 (by rw [candidates_of_resolve h]; exact List.mem_singleton.2 rfl)

theorem mem_of_resolve (h : resolve query es place = .ok e) : e ∈ es := (qualifies_of_resolve h).2.1

theorem eq_of_resolve {e' : Entry} (h : resolve query es place = .ok e) (mem : e' ∈ es)
    (key : e'.key = e.key) : e' = e := by
  have found := mem_candidates_iff.2 ((qualifies_of_resolve h).of_name mem (by rw [key]))
  rw [candidates_of_resolve h] at found
  exact List.mem_singleton.1 found

end Lookup

namespace Portfolio

open TriStore.Action
open World (Frame)

/-- The action is one write to a store, and what follows only reports its end. -/
def WritesOnce (p : Portfolio) (s : Source) (key : Key) (content : String) (expected : Option Value)
    (act : Action ElementReport) : Prop :=
  ∃ (done : ElementReport) (g : Except Failure Value → Action ElementReport),
    act = attempt (write s key content expected) >>= g ∧ done.success = true ∧
    (∀ v, g (.ok v) = p.written s >>= fun _ => pure done) ∧ (∀ e w, ((g (.error e)).ends w).2 = w) ∧
    ∀ w, ((g (.error .unencodable)).ends w).1 = .error .unencodable

theorem takeOver_writesOnce (p : Portfolio) (s : Source) (key : Key) (content : String)
    (existing : Option Entry) : p.WritesOnce .home key content (existing.bind (·.revision.revision?))
      (p.takeOver s key content existing) := by
  refine ⟨_, _, rfl, rfl, fun v => rfl, fun e w => ?_, fun w => rfl⟩
  have other : (ends (do
      if isWriteFault e then
        return downloadReport key false ("Could not write " ++ key.label ++ ": " ++ e.message)
      throw e) w).2 = w := by
    split <;> rfl
  cases e with
  | conflict k reason => rfl
  | _ => exact other

def originOf (s : Source) : Source := if s == .registry then .registry else .remote

def downloadOf (p : Portfolio) (origin s : Source) (force confirm : Bool) (entry : Entry) :
    Action ElementReport := do
  let key := entry.key
  match ← Action.attempt (do liftExcept (p.validate key (← Action.fetch origin key))) with
  | .error (.rejected reason) =>
    return downloadReport key false ("Content of " ++ key.label ++ " rejected: " ++ reason)
  | .error e => throw e
  | .ok content =>
    match ← Action.getEntry .home key with
    | none => p.takeOver s key content none
    | some here =>
      if here.digest.same (.text (← liftExcept (Digest.ofContent content))) then
        return downloadReport key true (key.label ++ " is already up to date")
      if !(force || confirm) then return overwriteReport s key here entry
      p.takeOver s key content (some here)

def downloadFrom (p : Portfolio) (origin : Source) (name : String) (kind : Option Kind) (s : Source)
    (force confirm : Bool) : Action ElementReport := do
  p.downloadOf origin s force confirm (← resolveIn origin name s.title kind)

theorem ends_download (p : Portfolio) (name : String) (kind : Option Kind) (s : Source)
    (force confirm : Bool) (w : World) : (p.download name kind s force confirm).ends w =
      if !p.settings.sync.enabled then (.error disabled, w)
      else if s == .registry && !p.hasRegistry then (.error (.unavailable s "not configured"), w)
      else (p.downloadFrom (originOf s) name kind s force confirm).ends w := by
  unfold download
  dsimp only
  split
  · rfl
  · split
    · rfl
    · rfl

def sendOver (p : Portfolio) (key : Key) (content : String) (there : Option Entry) : Action ElementReport := do
  match ← Action.attempt (Action.write .remote key content (there.bind (·.revision.revision?))) with
  | .ok _ =>
    p.written .remote
    return uploadReport key true ("Uploaded " ++ key.label)
  | .error (.conflict k reason) =>
    return { uploadReport key false (Failure.conflict k reason).message with isConflict := true }
  | .error e => throw e

theorem sendOver_writesOnce (p : Portfolio) (key : Key) (content : String) (there : Option Entry) :
    p.WritesOnce .remote key content (there.bind (·.revision.revision?)) (p.sendOver key content there) := by
  refine ⟨_, _, rfl, rfl, fun v => rfl, fun e w => ?_, fun w => rfl⟩
  cases e <;> rfl

def uploadOf (p : Portfolio) (entry : Entry) (content : String) (force confirm : Bool) : Action ElementReport := do
  let key := entry.key
  let objections := uploadObjections entry content p.settings.sync.scanForSecrets
  if !objections.isEmpty then return uploadReport key false (Text.join "; " objections)
  let there ← Action.getEntry .remote key
  if there.any entry.sameContent then
    return uploadReport key true (key.label ++ " is already up to date")
  if p.settings.sync.requireConfirmation && !(confirm || force) then
    let verb := if there.isSome then "overwrite " else "create "
    return { uploadReport key false ("Upload would " ++ verb ++ key.label ++
        " in the remote portfolio; confirm to proceed") with requiresConfirmation := true }
  p.sendOver key content there

theorem ends_upload (p : Portfolio) (name : String) (kind : Option Kind) (force confirm : Bool)
    (w : World) : (p.upload name kind force confirm).ends w =
      if !p.settings.sync.enabled then (.error disabled, w)
      else ends (do
        let entry ← resolveIn .home name "local portfolio" kind
        let content ← Action.fetch .home entry.key
        p.uploadOf entry content force confirm) w := by
  unfold upload
  dsimp only
  split
  · rfl
  · rfl

/-- Whatever holds of listing and fetching in two stores holds from one world to the other. -/
def ByReading (origin target : Source) (w w' : World) : Prop :=
  ∀ (R : World → World → Prop) [Std.Refl R] [Trans R R R], (∀ s, s = origin ∨ s = target →
    (∀ kind, (listEntries s kind).Moves R) ∧ ∀ key, (fetch s key).Moves R) → R w w'

/-- The action only reads in two stores, or writes once to the second what it has read, if asked to. -/
def CopiesOnce (p : Portfolio) (origin target : Source) (asked : Option Entry → Prop)
    (reads : Action (Key × String × Option Entry)) (act : Action ElementReport) : Prop :=
  ∀ w, ByReading origin target w (act.ends w).2 ∨
    ∃ key content seen w' send, reads.ends w = (.ok (key, content, seen), w') ∧
      ByReading origin target w w' ∧ asked seen ∧
      p.WritesOnce target key content (seen.bind (·.revision.revision?)) send ∧ act.ends w = send.ends w'

section Reading

variable {origin target : Source} {p : Portfolio} {asked : Option Entry → Prop} {α : Type}

instance : Std.Refl (ByReading origin target) := ⟨fun w _ _ _ _ => Std.Refl.refl w⟩

instance : Trans (ByReading origin target) (ByReading origin target) (ByReading origin target) :=
  ⟨fun h h' R _ _ moves => Trans.trans (h R moves) (h' R moves)⟩

theorem ByReading.frame {w w' : World} (h : ByReading origin target w w') : Frame w w' :=
  h Frame fun s _ => ⟨listEntries_frame s, fetch_frame s⟩

theorem fetch_reads (origin target : Source) (key : Key) : (fetch origin key).Moves (ByReading origin target) :=
  fun w _ _ _ moves => (moves origin (.inl rfl)).2 key w

theorem getEntry_reads (origin target : Source) (key : Key) :
    (getEntry target key).Moves (ByReading origin target) :=
  Moves.bind (fun w _ _ _ moves => (moves target (.inr rfl)).1 _ w) fun _ => Moves.pure _

theorem resolveIn_reads (origin target : Source) (name place : String) (kind : Option Kind) :
    (resolveIn origin name place kind).Moves (ByReading origin target) :=
  Moves.bind (fun w _ _ _ moves => (moves origin (.inl rfl)).1 kind w) fun _ => Moves.liftExcept _

theorem CopiesOnce.mono {asked' : Option Entry → Prop} {reads : Action (Key × String × Option Entry)}
    {act : Action ElementReport} (h : p.CopiesOnce origin target asked reads act)
    (imp : ∀ seen, asked seen → asked' seen) : p.CopiesOnce origin target asked' reads act := fun w =>
  (h w).imp_right fun ⟨key, content, seen, w', send, reads, read, hasked, rest⟩ =>
    ⟨key, content, seen, w', send, reads, read, imp seen hasked, rest⟩

theorem CopiesOnce.after {first : Action α} {reads : α → Action (Key × String × Option Entry)}
    {act : α → Action ElementReport} (h : first.Moves (ByReading origin target))
    (each : ∀ a, p.CopiesOnce origin target asked (reads a) (act a)) :
    p.CopiesOnce origin target asked (first >>= reads) (first >>= act) := by
  intro w
  have read := h w
  rcases ended : first.ends w with ⟨e | a, w₁⟩ <;> rw [ended] at read
  · rw [ends_bind_of_error ended act]
    exact .inl read
  · rw [ends_bind_of_ok ended, ends_bind_of_ok ended]
    rcases each a w₁ with more | ⟨key, content, seen, w', send, reads, more, rest⟩
    · exact .inl (Trans.trans read more)
    · exact .inr ⟨key, content, seen, w', send, reads, Trans.trans read more, rest⟩

/-- What a copy reads: the content as it is passed on, and the entry under its key in the target. -/
def readsOf (origin target : Source) (pass : Key → String → Except Failure String) (key : Key) :
    Action (Key × String × Option Entry) := do
  let content ← fetch origin key
  let passed ← liftExcept (pass key content)
  let seen ← getEntry target key
  return (key, passed, seen)

theorem readsOf_eq_ok {pass : Key → String → Except Failure String} {key key' : Key} {content : String}
    {seen : Option Entry} {w w' : World}
    (h : (readsOf origin target pass key).ends w = (.ok (key', content, seen), w')) :
    key' = key ∧ ∃ c w₁, (fetch origin key).ends w = (.ok c, w₁) ∧ pass key c = .ok content := by
  obtain ⟨c, w₁, fetched, h⟩ := ends_bind_eq_ok.1 h
  obtain ⟨passed, w₂, hpass, h⟩ := ends_bind_eq_ok.1 h
  obtain ⟨there, w₃, -, h⟩ := ends_bind_eq_ok.1 h
  rw [ends_liftExcept] at hpass
  cases h
  exact ⟨rfl, c, w₁, fetched, congrArg Prod.fst hpass⟩

theorem downloadOf_copies (p : Portfolio) (origin s : Source) (force confirm : Bool) (entry : Entry) :
    p.CopiesOnce origin .home (fun seen => seen ≠ none → (force || confirm) = true)
      (readsOf origin .home p.validate entry.key) (p.downloadOf origin s force confirm entry) := by
  intro w
  have read₁ := fetch_reads origin .home entry.key w
  unfold downloadOf readsOf
  rw [ends_bind_of_ok (ends_attempt _ w), ends_bind, ends_bind]
  rcases fetched : (fetch origin entry.key).ends w with ⟨e | c, w₁⟩ <;> rw [fetched] at read₁
  · cases e <;> exact .inl read₁
  · dsimp only
    rw [ends_liftExcept, ends_bind, ends_liftExcept]
    cases p.validate entry.key c with
    | error e => cases e <;> exact .inl read₁
    | ok content =>
      dsimp only
      have read₂ := Trans.trans read₁ (getEntry_reads origin .home entry.key w₁)
      rw [ends_bind, ends_bind]
      rcases got : (getEntry .home entry.key).ends w₁ with ⟨e | seen, w₂⟩ <;> rw [got] at read₂
      · exact .inl read₂
      · have writes := p.takeOver_writesOnce s entry.key content seen
        cases seen with
        | none => exact .inr ⟨_, content, none, w₂, _, rfl, read₂, fun some => absurd rfl some, writes, rfl⟩
        | some here =>
          dsimp only
          rw [ends_bind, ends_liftExcept]
          cases Digest.ofContent content with
          | error e => exact .inl read₂
          | ok d =>
            dsimp only
            split
            · exact .inl read₂
            · split
              · exact .inl read₂
              · next asked =>
                refine .inr ⟨_, content, some here, w₂, _, rfl, read₂, fun _ => ?_, writes, rfl⟩
                cases force <;> simp_all

theorem uploadOf_copies (p : Portfolio) (entry : Entry) (content : String) (force confirm : Bool) :
    p.CopiesOnce .home .remote (fun _ => uploadObjections entry content p.settings.sync.scanForSecrets = [] ∧
        (p.settings.sync.requireConfirmation = true → (confirm || force) = true))
      (do return (entry.key, content, ← getEntry .remote entry.key))
      (p.uploadOf entry content force confirm) := by
  intro w
  unfold uploadOf
  dsimp only
  split
  · exact .inl (Std.Refl.refl w)
  · next free =>
    have read := getEntry_reads .home .remote entry.key w
    rw [ends_bind, ends_bind]
    rcases got : (getEntry .remote entry.key).ends w with ⟨e | seen, w'⟩ <;> rw [got] at read
    · exact .inl read
    · dsimp only
      split
      · exact .inl read
      · split
        · exact .inl read
        · next asked =>
          refine .inr ⟨_, content, seen, w', _, rfl, read, ⟨by simpa using free, fun required => ?_⟩,
            p.sendOver_writesOnce entry.key content seen, rfl⟩
          cases confirm <;> simp_all

def readsFor (origin target : Source) (name place : String) (kind : Option Kind)
    (pass : Key → String → Except Failure String) : Action (Key × String × Option Entry) := do
  readsOf origin target pass (← resolveIn origin name place kind).key

theorem download_copies (p : Portfolio) (name : String) (kind : Option Kind) (s : Source) (force confirm : Bool) :
    p.CopiesOnce (originOf s) .home (fun seen => seen ≠ none → (force || confirm) = true)
      (readsFor (originOf s) .home name s.title kind p.validate)
      (p.download name kind s force confirm) := by
  intro w
  rw [ends_download]
  split
  · exact .inl (Std.Refl.refl w)
  · split
    · exact .inl (Std.Refl.refl w)
    · exact CopiesOnce.after (resolveIn_reads (originOf s) .home name s.title kind)
        (p.downloadOf_copies (originOf s) s force confirm) w

theorem upload_copies (p : Portfolio) (name : String) (kind : Option Kind) (force confirm : Bool) :
    p.CopiesOnce .home .remote (fun _ => p.settings.sync.requireConfirmation = true → (confirm || force) = true)
      (readsFor .home .remote name "local portfolio" kind fun _ c => .ok c)
      (p.upload name kind force confirm) := by
  intro w
  rw [ends_upload]
  split
  · exact .inl (Std.Refl.refl w)
  · exact CopiesOnce.after (resolveIn_reads .home .remote name "local portfolio" kind)
      (fun entry => CopiesOnce.after (fetch_reads .home .remote entry.key) fun content =>
        (p.uploadOf_copies entry content force confirm).mono fun _ h => h.2) w

end Reading

section Moves

variable {p : Portfolio} {content : String} {act : Action ElementReport} {entry : Entry}
  {R : World → World → Prop} [Std.Refl R] [Trans R R R]

theorem WritesOnce.moves {s : Source} {key : Key}
    {expected : Option Value} (h : p.WritesOnce s key content expected act)
    (frame : ∀ w w', Frame w w' → R w w') (write : (write s key content expected).Moves R) :
    act.Moves R := by
  obtain ⟨done, g, rfl, -, hok, herror, -⟩ := h
  refine write.attempt.bind fun r => ?_
  cases r with
  | ok v =>
    rw [hok]
    exact ((written_frame p s).mono frame).bind fun _ => Moves.pure _
  | error e =>
    intro w
    rw [herror]
    exact Std.Refl.refl w

theorem CopiesOnce.moves {origin target : Source} {asked : Option Entry → Prop}
    {reads : Action (Key × String × Option Entry)}
    (h : p.CopiesOnce origin target asked reads act) (frame : ∀ w w', Frame w w' → R w w')
    (write : ∀ {w w' key content seen}, reads.ends w = (.ok (key, content, seen), w') → asked seen →
      ∀ expected, (write target key content expected).Moves R) : act.Moves R := by
  intro w
  rcases h w with read | ⟨key, content, seen, w', send, reads, read, hasked, writes, ended⟩
  · exact frame _ _ read.frame
  · rw [ended]
    exact Trans.trans (frame _ _ read.frame) (writes.moves frame (write reads hasked _) w')

theorem downloadOf_moves (p : Portfolio) (frame : ∀ w w', Frame w w' → R w w')
    (write : ∀ content expected, (write .home entry.key content expected).Moves R)
    (origin s : Source) (force confirm : Bool) : (p.downloadOf origin s force confirm entry).Moves R := by
  refine (p.downloadOf_copies origin s force confirm entry).moves frame fun reads _ => ?_
  rw [(readsOf_eq_ok reads).1]
  exact write _

omit [Std.Refl R] in
theorem resolveIn_leads {α : Type} {s : Source} {name place : String} {kind : Option Kind} {w : World}
    (frame : ∀ w w', Frame w w' → R w w') {act : Entry → Action α}
    (found : ∀ entry w', (resolveIn s name place kind).ends w = (.ok entry, w') → (act entry).Moves R) :
    R w (ends (resolveIn s name place kind >>= act) w).2 := by
  have read := frame _ _ (resolveIn_frame s name place kind w)
  rw [ends_bind]
  rcases resolved : (resolveIn s name place kind).ends w with ⟨e | entry, w₁⟩
  · rw [resolved] at read
    exact read
  · rw [resolved] at read
    exact Trans.trans read (found entry w₁ resolved w₁)

theorem download_leads (p : Portfolio) {s : Source} {name : String} {kind : Option Kind} {w : World}
    (frame : ∀ w w', Frame w w' → R w w')
    (write : ∀ entry w', (resolveIn (originOf s) name s.title kind).ends w = (.ok entry, w') →
      ∀ content expected, (write .home entry.key content expected).Moves R) (force confirm : Bool) :
    R w ((p.download name kind s force confirm).ends w).2 := by
  rw [ends_download]
  split
  · exact Std.Refl.refl w
  · split
    · exact Std.Refl.refl w
    · exact resolveIn_leads frame fun entry w' resolved =>
        p.downloadOf_moves frame (write entry w' resolved) (originOf s) s force confirm

theorem download_moves (p : Portfolio) (frame : ∀ w w', Frame w w' → R w w')
    (write : ∀ key content expected, (write .home key content expected).Moves R) (name : String)
    (kind : Option Kind) (s : Source) (force confirm : Bool) :
    (p.download name kind s force confirm).Moves R :=
  (p.download_copies name kind s force confirm).moves frame fun _ _ => write _ _

theorem uploadOf_moves (p : Portfolio) (frame : ∀ w w', Frame w w' → R w w')
    (write : uploadObjections entry content p.settings.sync.scanForSecrets = [] →
      ∀ expected, (write .remote entry.key content expected).Moves R) (force confirm : Bool) :
    (p.uploadOf entry content force confirm).Moves R := by
  refine (p.uploadOf_copies entry content force confirm).moves frame fun reads asked => ?_
  obtain ⟨there, w₁, -, ended⟩ := ends_bind_eq_ok.1 reads
  cases ended
  exact write asked.1

theorem manage_moves (p : Portfolio) (frame : ∀ w w', Frame w w' → R w w')
    (write : ∀ s key content expected, (write s key content expected).Moves R)
    (operation : Operation) (r : ElementRequest) : (p.manage operation r).Moves R := by
  cases operation with
  | listRemote => exact (listRemote_frame r.kind).mono frame
  | compare => exact (compare_frame r.name r.kind r.showDiff).mono frame
  | download => exact p.download_moves frame (write .home) r.name r.kind r.source r.force r.confirm
  | upload =>
    exact (p.upload_copies r.name r.kind r.force r.confirm).moves frame fun _ _ => write .remote _ _

end Moves

end Portfolio

end TriStore
