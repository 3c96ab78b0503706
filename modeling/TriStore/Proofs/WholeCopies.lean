import TriStore.Proofs.MemoryStores
import TriStore.Proofs.RisingVersions

/-!
A copy of a single element leaves all stores as they are or puts what it has read in place of the element.
-/
namespace TriStore

open TriStore.Action
open World (Frame)

theorem Value.eq_of_same_text {b : String} {v : Value} (h : same (.text b) v = true) : v = .text b := by
  cases v with
  | text t =>
    rw [same_text, beq_iff_eq] at h
    rw [h]
  | _ => simp [same, within, sameScalar, magnitude?] at h

theorem Shelf.seen_of_checkWrite {y : Shelf} {key : Key} {seen : Option Entry} {old : String}
    (free : y.checkWrite key (seen.bind (·.revision.revision?)) = .ok ()) (found : y.get? key = some old) :
    ∃ e b, seen = some e ∧ Digest.blob old = .ok b ∧ e.revision = .text b := by
  cases seen with
  | none => simp [checkWrite, found] at free
  | some e =>
    cases given : e.revision.revision? with
    | none => simp [checkWrite, found, given] at free
    | some v =>
      have eq : v = e.revision := by
        unfold Value.revision? at given
        split at given <;> simp_all
      simp only [checkWrite, found, Option.bind_some, given] at free
      obtain ⟨b, stored, passed⟩ := bind_eq_ok.1 free
      cases same : Value.same (.text b) v with
      | false => simp [same, throw, throwThe, MonadExceptOf.throw] at passed
      | true => exact ⟨e, b, rfl, stored, eq ▸ Value.eq_of_same_text same⟩

namespace Portfolio

/-- How a copy to a shelf ends. No store has changed; or what was read is in its place in the target and
nothing else has changed, an older element only if allowed and the one that was listed, and the copy succeeds
unless the content cannot be encoded. -/
inductive EndsWhole (x : Source → Shelf) (target : Source) (allowed : Bool)
    (reads : Except Failure (Key × String × Option Entry)) (ended : Except Failure ElementReport × World) :
    Prop where
  | unchanged (same : ended.2.Has (fun _ => True) x)
  | copied {key : Key} {content : String} {seen : Option Entry} (read : reads = .ok (key, content, seen))
    (current : ∀ old, (x target).get? key = some old → allowed = true ∧
      ∃ e b, seen = some e ∧ Digest.blob old = .ok b ∧ e.revision = .text b)
    (changed : ended.2.Has (fun _ => True) (replace x target ((x target).put key content)))
    (told : (∃ r, ended.1 = .ok r ∧ r.success = true) ∨ ended.1 = .error .unencodable ∧ ¬Digest.Encodes content)

variable {p : Portfolio} {x : Source → Shelf} {w : World} {s : Source} {key : Key} {content : String}
  {seen : Option Entry} {allowed : Bool} {reads : Except Failure (Key × String × Option Entry)}

theorem writesOnce_whole (h : w.Has (fun _ => True) x) (read : reads = .ok (key, content, seen))
    (asked : seen ≠ none → allowed = true) {act : Action ElementReport}
    (writes : p.WritesOnce s key content (seen.bind (·.revision.revision?)) act) :
    EndsWhole x s allowed reads (act.ends w) := by
  obtain ⟨done, g, rfl, success, hok, herror, lost⟩ := writes
  obtain ⟨w₁, ended, h₁⟩ := h.ends_write (s := s) trivial key content
    (seen.bind (·.revision.revision?))
  have attempted : (attempt (write s key content (seen.bind (·.revision.revision?)))).ends w =
      (.ok ((x s).write key content (seen.bind (·.revision.revision?))).1, w₁) := by
    rw [ends_attempt, ended]
  rw [ends_bind_of_ok attempted]
  obtain ⟨calls, ⟨e, fails⟩ | ⟨-, -, free, puts⟩⟩ :=
    (x s).write_cases key content (seen.bind (·.revision.revision?))
  · rw [fails] at h₁ ⊢
    refine .unchanged ?_
    rw [herror]
    refine (World.Has.replace_iff ?_).1 h₁
    rfl
  · rw [puts] at h₁ ⊢
    have current : ∀ old, (x s).get? key = some old → allowed = true ∧
        ∃ e b, seen = some e ∧ Digest.blob old = .ok b ∧ e.revision = .text b := by
      intro old found
      obtain ⟨e, b, rfl, stored, revision⟩ := Shelf.seen_of_checkWrite free found
      exact ⟨asked nofun, e, b, rfl, stored, revision⟩
    have changed : w₁.Has (fun _ => True) (replace x s ((x s).put key content)) :=
      h₁.replace_congr rfl
    cases stored : Digest.blob content with
    | error e =>
      obtain rfl := Digest.blob_eq_error stored
      refine .copied read current ?_ (.inr ⟨lost w₁, Digest.not_encodes_of_blob stored⟩)
      exact (herror .unencodable w₁).symm ▸ changed
    | ok b =>
      obtain ⟨w₂, forgot⟩ := exists_ends_written p s w₁
      have frame := written_frame p s w₁
      rw [forgot] at frame
      show EndsWhole x s allowed reads ((g (.ok (.text b))).ends w₁)
      rw [hok, ends_bind_of_ok forgot]
      exact .copied read current (frame.has changed) (.inl ⟨done, rfl, success⟩)

theorem copiesOnce_whole (h : w.Has (fun _ => True) x) {origin : Source} {asked : Option Entry → Prop}
    {reads : Action (Key × String × Option Entry)} {act : Action ElementReport}
    (copies : p.CopiesOnce origin s asked reads act)
    (allows : ∀ seen, asked seen → seen ≠ none → allowed = true) :
    EndsWhole x s allowed (reads.ends w).1 (act.ends w) := by
  rcases copies w with read | ⟨key, content, seen, w', send, reads, read, hasked, writes, ended⟩
  · exact .unchanged (read.frame.has h)
  · rw [ended, reads]
    exact writesOnce_whole (read.frame.has h) rfl (allows seen hasked) writes

/-- A download and an upload between stores in memory are whole, whatever the caches hold and however they
end. An upload that lacks its confirmation changes nothing at all. -/
theorem copies_end_whole (h : w.Has (fun _ => True) x) (r : ElementRequest) :
    EndsWhole x .home (r.force || r.confirm)
        ((readsFor (originOf r.source) .home r.name r.source.title r.kind p.validate).ends w).1
        ((p.manage .download r).ends w) ∧
      EndsWhole x .remote (!p.settings.sync.requireConfirmation || (r.confirm || r.force))
        ((readsFor .home .remote r.name "local portfolio" r.kind fun _ c => .ok c).ends w).1
        ((p.manage .upload r).ends w) ∧
      (p.settings.sync.requireConfirmation = true → r.force = false → r.confirm = false →
        ((p.manage .upload r).ends w).2.Has (fun _ => True) x) := by
  have uploads := p.upload_copies r.name r.kind r.force r.confirm
  refine ⟨copiesOnce_whole h (p.download_copies r.name r.kind r.source r.force r.confirm) fun _ => id,
    copiesOnce_whole h uploads fun _ asked _ => ?_, fun required force confirm => ?_⟩
  · cases required : p.settings.sync.requireConfirmation with
    | false => rfl
    | true => exact asked required
  · rcases uploads w with read | ⟨key, content, seen, w', send, -, -, asked, -, -⟩
    · exact read.frame.has h
    · have asked := asked required
      rw [force, confirm] at asked
      exact absurd asked (by decide)

/-- A copy that was listed as it is makes way when that is forced. -/
theorem copies_end_whole_outdated : EndsWhole outdatedShelves .home true
        ((readsFor .remote .home "a" Source.remote.title none fun _ c => .ok c).ends outdated).1
        ((manage { home := default } .download { name := "a", force := true }).ends outdated) ∧
      ((manage { home := default } .download { name := "a", force := true }).ends outdated).2.held
        .home ⟨.persona, "a"⟩ = some earlierContent := by
  have holds : outdated.Has (fun _ => True) outdatedShelves := fun s _ => by cases s <;> rfl
  exact ⟨(copies_end_whole (p := { home := default }) holds { name := "a", force := true }).1,
    by decide +kernel⟩

/-- A download whose content cannot be encoded fails and has changed the store all the same. -/
theorem download_fails_halfway :
    ∃ content, ((manage { home := default, validate := fun _ _ => .ok content } .download
        { name := "b" }).ends crossed).1.toOption.isNone = true ∧
      crossed.held .home ⟨.persona, "b"⟩ = none ∧
      ((manage { home := default, validate := fun _ _ => .ok content } .download
        { name := "b" }).ends crossed).2.held .home ⟨.persona, "b"⟩ = some content :=
  ⟨Text.ofCodes [0xD800], by decide +kernel, by decide +kernel, by decide +kernel⟩

end Portfolio

end TriStore
