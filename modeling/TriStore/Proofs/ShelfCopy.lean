import TriStore.Proofs.Copying
import TriStore.Proofs.ShelfSync

/-!
Copies of single elements between stores in memory, under the key of an element that was listed.
-/
namespace TriStore

variable {y : Shelf} {kind : Option Kind} {es : List Entry} {e : Entry}

theorem Key.kind_of (kind : Kind) (name : String) : (Key.of kind name).kind = kind := rfl

theorem Shelf.encodes_of_listed
    {c : String} (h : y.entries kind = .ok es) (he : e ∈ es) (found : y.get? e.key = some c) :
    Digest.Encodes c := by
  obtain ⟨-, there, back⟩ := entries_eq_ok h
  obtain ⟨kc, -, hkind, made⟩ := back e he
  have sameKind : e.key.kind = kc.1.kind := by
    rw [(entryOf_eq_ok made).1, Key.kind_of]
  have hkind' : kind.all (· == e.key.kind) = true := by
    rw [sameKind]
    exact hkind
  obtain ⟨e', -, made'⟩ := there (e.key, c) (mem_of_get? found) hkind'
  obtain ⟨-, ⟨b, hb, -⟩, -⟩ := entryOf_eq_ok made'
  exact Digest.blob_eq_ok_iff.1 ⟨b, hb⟩

theorem Shelf.exists_of_mem_entries (h : y.entries kind = .ok es) (he : e ∈ es) :
    ∃ kc ∈ y.contents, e.key = Key.of kc.1.kind kc.1.name := by
  obtain ⟨-, -, back⟩ := entries_eq_ok h
  obtain ⟨kc, hkc, -, made⟩ := back e he
  exact ⟨kc, hkc, (entryOf_eq_ok made).1⟩

namespace Portfolio

open TriStore.Action

/-- The shelves before and after a copy: at most one was written to, under the key of an element of the other.
-/
def Copies (x x' : Source → Shelf) (origin target : Source) : Prop :=
  x' = x ∨ ∃ kc ∈ (x origin).contents, ∃ content expected,
    x' = replace x target ((x target).write (Key.of kc.1.kind kc.1.name) content expected).2

variable {D : Source → Prop} {K : Source → String → Option Kind → Prop} {x : Source → Shelf}
  {w : World} {p : Portfolio} {s : Source} {α : Type}

section Reading

theorem listEntries_keeps (hs : D s) (kind : Option Kind) : (listEntries s kind).Moves (Stays (Agrees D K x)) := by
  intro w h
  obtain ⟨w', ended, h', -⟩ := h.ends_listEntries hs kind
  rw [ended]
  exact h'

theorem fetch_keeps (hs : D s) (key : Key) : (fetch s key).Moves (Stays (Agrees D K x)) := by
  intro w h
  obtain ⟨w', ended, -, h'⟩ := h.ends_fetch hs key
  rw [ended]
  exact h'

theorem listRemote_keeps (hs : D .remote) (kind : Option Kind) : (listRemote kind).Moves (Stays (Agrees D K x)) :=
  (listEntries_keeps hs kind).bind fun _ => Moves.pure _

theorem compare_keeps (hhome : D .home) (hremote : D .remote) (name : String) (kind : Option Kind)
    (showDiff : Bool) : (compare name kind showDiff).Moves (Stays (Agrees D K x)) := by
  refine ((listEntries_keeps hhome kind).bind fun here => (listEntries_keeps hremote kind).bind
    fun there => (Moves.liftExcept _).bind fun _ => Moves.pure _).bind fun ⟨found, here, there⟩ => ?_
  dsimp only
  split
  · exact Moves.pure _
  · exact Moves.pure _
  · split
    · exact Moves.pure _
    · split
      · refine Moves.bind ?_ fun _ => Moves.pure _
        exact (fetch_keeps hremote _).bind fun _ => (fetch_keeps hhome _).bind fun _ => Moves.pure _
      · exact (Moves.pure _).bind fun _ => Moves.pure _

end Reading

theorem agrees_writesOnce (h : Agrees D K x w) (hs : D s)
    (drops : p.dropsResults = true ∨ ∀ t q k, ¬K t q k) {key : Key} {content : String}
    (safe : ((∀ t q k, ¬K t q k) ∧ (w.store s).cached = false) ∨ Digest.Encodes content)
    {expected : Option Value} {act : Action ElementReport}
    (writes : p.WritesOnce s key content expected act) :
    Agrees D K (replace x s ((x s).write key content expected).2) (act.ends w).2 ∧
      ∀ t, ((act.ends w).2.store t).cached = (w.store t).cached := by
  obtain ⟨done, g, rfl, -, hok, herror, -⟩ := writes
  obtain ⟨w₁, ended, steady, failed, written⟩ := h.ends_write hs key expected safe
  have attempted : (attempt (write s key content expected)).ends w =
      (.ok ((x s).write key content expected).1, w₁) := by
    rw [ends_attempt, ended]
  rw [ends_bind_of_ok attempted]
  cases outcome : ((x s).write key content expected).1 with
  | error e =>
    rw [herror]
    exact ⟨failed e outcome, steady.cached⟩
  | ok v =>
    have frame := written_frame p s w₁
    obtain ⟨w₂, forgot, h₂⟩ := ends_written (written v outcome) drops fun some =>
      steady.running.trans (h.idle some)
    rw [forgot] at frame
    rw [hok, ends_bind_of_ok forgot]
    exact ⟨h₂, fun t => (frame.cached t).trans (steady.cached t)⟩

theorem ends_resolveIn (h : Agrees D K x w) (hs : D s) (name place : String) (kind : Option Kind) :
    ∃ w', (resolveIn s name place kind).ends w =
        ((x s).entries kind >>= fun es => Lookup.resolve name es place, w') ∧
      World.Frame w w' ∧ Agrees D K x w' := by
  obtain ⟨w', listed, h', -⟩ := h.ends_listEntries hs kind
  have frame := listEntries_frame s kind w
  rw [listed] at frame
  refine ⟨w', ?_, frame, h'⟩
  rw [resolveIn, ends_bind, listed]
  cases (x s).entries kind with
  | error e => rfl
  | ok es =>
    dsimp only
    rw [ends_liftExcept, ok_bind]

theorem exists_of_readsFor (h : Agrees D K x w) {origin target : Source} (horigin : D origin)
    {name place : String} {kind : Option Kind} {pass : Key → String → Except Failure String} {key : Key}
    {content : String} {seen : Option Entry} {w' : World}
    (reads : (readsFor origin target name place kind pass).ends w = (.ok (key, content, seen), w')) :
    (∃ kc ∈ (x origin).contents, key = Key.of kc.1.kind kc.1.name) ∧
      ∃ c, Digest.Encodes c ∧ pass key c = .ok content := by
  obtain ⟨entry, w₁, resolved, reads⟩ := ends_bind_eq_ok.1 reads
  obtain ⟨w₂, ended, -, h₁⟩ := ends_resolveIn h horigin name place kind
  obtain ⟨found, rfl⟩ := Prod.mk.inj (ended.symm.trans resolved)
  obtain ⟨es, hes, hentry⟩ := bind_eq_ok.1 found
  have mem := Lookup.mem_of_resolve hentry
  obtain ⟨rfl, c, w₃, fetched, passed⟩ := readsOf_eq_ok reads
  obtain ⟨w₄, ended, -, -⟩ := h₁.ends_fetch horigin entry.key
  have read := (Prod.mk.inj (ended.symm.trans fetched)).1
  exact ⟨Shelf.exists_of_mem_entries hes mem, c,
    Shelf.encodes_of_listed hes mem (Shelf.content_eq_ok_iff.1 read).2, passed⟩

theorem agrees_copiesOnce (h : Agrees D K x w) {origin target : Source} (horigin : D origin)
    (htarget : D target) (drops : p.dropsResults = true ∨ ∀ t q k, ¬K t q k) {name place : String}
    {kind : Option Kind} {pass : Key → String → Except Failure String}
    (safe : ((∀ t q k, ¬K t q k) ∧ (w.store target).cached = false) ∨
      ∀ key c content, Digest.Encodes c → pass key c = .ok content → Digest.Encodes content)
    {asked : Option Entry → Prop} {act : Action ElementReport}
    (copies : p.CopiesOnce origin target asked (readsFor origin target name place kind pass) act) :
    ∃ x', Copies x x' origin target ∧ Agrees D K x' (act.ends w).2 ∧
      ∀ t, ((act.ends w).2.store t).cached = (w.store t).cached := by
  have keeps : ∀ {w'}, ByReading origin target w w' → Agrees D K x w' := fun read => by
    refine read (Stays (Agrees D K x)) (fun s hs => ?_) h
    rcases hs with rfl | rfl
    · exact ⟨listEntries_keeps horigin, fetch_keeps horigin⟩
    · exact ⟨listEntries_keeps htarget, fetch_keeps htarget⟩
  rcases copies w with read | ⟨key, content, seen, w', send, reads, read, -, writes, ended⟩
  · exact ⟨x, .inl rfl, keeps read, read.frame.cached⟩
  · obtain ⟨⟨kc, hkc, rfl⟩, c, encodes, passed⟩ := exists_of_readsFor h horigin reads
    have safe' : ((∀ t q k, ¬K t q k) ∧ (w'.store target).cached = false) ∨ Digest.Encodes content :=
      safe.imp (fun free => ⟨free.1, (read.frame.cached target).trans free.2⟩)
        fun safe => safe _ c content encodes passed
    obtain ⟨agrees, cached⟩ := agrees_writesOnce (keeps read) htarget drops safe' writes
    rw [ended]
    exact ⟨_, .inr ⟨kc, hkc, content, _, rfl⟩, agrees, fun t => (cached t).trans (read.frame.cached t)⟩

def Managed (operation : Operation) (r : ElementRequest) (x x' : Source → Shelf) : Prop :=
  match operation with
  | .download => Copies x x' (originOf r.source) .home
  | .upload => Copies x x' .home .remote
  | .listRemote | .compare => x' = x

theorem agrees_manage (hD : ∀ s, s ≠ .registry → D s) (h : Agrees D K x w)
    (coherent : Coherent p K w) (operation : Operation) (r : ElementRequest)
    (hs : operation = .download → r.source = .registry → D .registry) :
    ∃ x', Managed operation r x x' ∧ Agrees D K x' ((p.manage operation r).ends w).2 ∧
      ∀ t, (((p.manage operation r).ends w).2.store t).cached = (w.store t).cached := by
  cases operation with
  | listRemote =>
    exact ⟨x, rfl, listRemote_keeps (hD .remote (by decide)) r.kind w h, (listRemote_frame r.kind w).cached⟩
  | compare =>
    exact ⟨x, rfl, compare_keeps (hD .home (by decide)) (hD .remote (by decide)) r.name r.kind
      r.showDiff w h, (compare_frame r.name r.kind r.showDiff w).cached⟩
  | upload =>
    exact agrees_copiesOnce h (hD .home (by decide)) (hD .remote (by decide)) coherent.drops
      (.inr fun _ _ _ encodes same => Except.ok.inj same ▸ encodes)
      (p.upload_copies r.name r.kind r.force r.confirm)
  | download =>
    have horigin : D (originOf r.source) := by
      unfold originOf
      split
      · next eq => exact hs rfl (by simpa using eq)
      · exact hD .remote (by decide)
    refine agrees_copiesOnce h horigin (hD .home (by decide)) coherent.drops ?_
      (p.download_copies r.name r.kind r.source r.force r.confirm)
    cases coherent with
    | uncached none free => exact .inl ⟨none, free .home (by decide)⟩
    | dropping drops validate => exact .inr validate

end Portfolio

end TriStore
