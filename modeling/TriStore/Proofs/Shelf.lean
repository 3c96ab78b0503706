import TriStore.Proofs.Reading

/-!
A store in memory as a map from keys to contents.
-/
namespace TriStore
open List

variable {α β ε : Type}

theorem map_eq_error {x : Except ε α} {f : α → β} {e : ε} : x.map f = .error e ↔ x = .error e := by
  cases x <;> simp [Except.map]

theorem map_eq_ok {x : Except ε α} : (x.map fun _ => ()) = .ok () ↔ ∃ a, x = .ok a := by
  cases x <;> simp [Except.map]

theorem mapM_eq_ok {f : α → Except ε β} {l : List α} {bs : List β} (h : l.mapM f = .ok bs) :
    (∀ a ∈ l, ∃ b ∈ bs, f a = .ok b) ∧ ∀ b ∈ bs, ∃ a ∈ l, f a = .ok b := by
  induction l generalizing bs with
  | nil =>
    have none : [] = bs := by simpa [pure, Except.pure] using h
    simp [← none]
  | cons x l ih =>
    simp only [mapM_cons, bind_eq_ok] at h
    obtain ⟨y, first, ys, rest, cons⟩ := h
    obtain ⟨there, back⟩ := ih rest
    have whole : y :: ys = bs := Except.ok.inj cons
    subst whole
    constructor
    · intro a ha
      rcases mem_cons.1 ha with rfl | ha
      · exact ⟨y, (.head _), first⟩
      · obtain ⟨b, hb, found⟩ := there a ha
        exact ⟨b, mem_cons_of_mem _ hb, found⟩
    · intro b hb
      rcases mem_cons.1 hb with rfl | hb
      · exact ⟨x, (.head _), first⟩
      · obtain ⟨a, ha, found⟩ := back b hb
        exact ⟨a, mem_cons_of_mem _ ha, found⟩

theorem exists_bind_eq_ok {x : Except ε α} {f : α → Except ε β} (hx : ∃ a, x = .ok a)
    (hf : ∀ a, ∃ b, f a = .ok b) : ∃ b, (x >>= f) = .ok b := by
  obtain ⟨a, rfl⟩ := hx
  exact hf a

theorem exists_mapM_eq_ok {f : α → Except ε β} {l : List α}
    (h : ∀ a ∈ l, ∃ b, f a = .ok b) : ∃ bs, l.mapM f = .ok bs := by
  induction l with
  | nil => exact ⟨[], rfl⟩
  | cons a l ih =>
    obtain ⟨b, first⟩ := h a (.head _)
    obtain ⟨bs, rest⟩ := ih fun a' ha' => h a' (mem_cons_of_mem a ha')
    exact ⟨b :: bs, by rw [mapM_cons, first, ok_bind, rest]; rfl⟩

namespace Shelf

variable {x : Shelf} {key : Key} {content : String}

theorem lookup_putIn_self (key : Key) (content : String) (l : List (Key × String)) :
    (putIn key content l).lookup key = some content := by
  induction l with
  | nil => simp [putIn]
  | cons kc l ih =>
    obtain ⟨k, c⟩ := kc
    by_cases h : k = key
    · simp [putIn, h]
    · simp [putIn, h, lookup_cons, ih, beq_eq_false_iff_ne.2 (Ne.symm h)]

theorem lookup_putIn_ne {key k : Key} (h : k ≠ key) (content : String) (l : List (Key × String)) :
    (putIn key content l).lookup k = l.lookup k := by
  induction l with
  | nil => simp [putIn, h]
  | cons kc l ih =>
    obtain ⟨k', c⟩ := kc
    by_cases h' : k' = key
    · subst h'
      simp [putIn, lookup_cons, beq_eq_false_iff_ne.2 h]
    · simp only [putIn, if_neg h', lookup_cons, ih]

theorem get?_put_self (x : Shelf) (key : Key) (content : String) : (x.put key content).get? key = some content :=
  lookup_putIn_self key content x.contents

theorem get?_put_ne (x : Shelf) {key k : Key} (h : k ≠ key) (content : String) :
    (x.put key content).get? k = x.get? k :=
  lookup_putIn_ne h content x.contents

theorem get?_erase_self (x : Shelf) (key : Key) : (x.erase key).get? key = none := by
  simp only [get?, erase, lookup_eq_none_iff]
  intro kc hkc
  have ne : kc.1 ≠ key := by simpa using (mem_filter.1 hkc).2
  simpa using Ne.symm ne

theorem get?_erase_ne (x : Shelf) {key k : Key} (h : k ≠ key) : (x.erase key).get? k = x.get? k := by
  simp only [get?, erase]
  induction x.contents with
  | nil => rfl
  | cons kc l ih =>
    obtain ⟨k', c⟩ := kc
    by_cases h' : k' = key
    · subst h'
      rw [filter_cons_of_neg (by simp), lookup_cons, ih, beq_eq_false_iff_ne.2 h]
    · rw [filter_cons_of_pos (by simpa using h'), lookup_cons, lookup_cons, ih]

theorem mem_of_get? (h : x.get? key = some content) : (key, content) ∈ x.contents := by
  obtain ⟨l₁, l₂, split, -⟩ := lookup_eq_some_iff.1 h
  rw [split]
  simp

theorem mem_putIn {l : List (Key × String)} {kc : Key × String} (h : kc ∈ putIn key content l) :
    kc = (key, content) ∨ kc ∈ l := by
  induction l with
  | nil => exact .inl (by simpa [putIn] using h)
  | cons kc' l ih =>
    obtain ⟨k, c⟩ := kc'
    by_cases h' : k = key
    · subst h'
      rw [putIn, if_pos rfl] at h
      rcases mem_cons.1 h with rfl | h
      · exact .inl rfl
      · exact .inr (.tail _ h)
    · rw [putIn, if_neg h'] at h
      rcases mem_cons.1 h with rfl | h
      · exact .inr (.head _)
      · exact (ih h).imp_right (mem_cons_of_mem _)

theorem map_fst_putIn (key : Key) (content : String) (l : List (Key × String)) :
    (putIn key content l).map (·.1) = if key ∈ l.map (·.1) then l.map (·.1) else l.map (·.1) ++ [key] := by
  induction l with
  | nil => simp [putIn]
  | cons kc l ih =>
    obtain ⟨k, c⟩ := kc
    by_cases h : k = key
    · simp [putIn, h]
    · simp only [putIn, if_neg h, map_cons, ih, mem_cons, Ne.symm h, false_or]
      split <;> rfl

theorem nodup_put (h : (x.contents.map (·.1)).Nodup) (key : Key) (content : String) :
    ((x.put key content).contents.map (·.1)).Nodup := by
  show ((putIn key content x.contents).map (·.1)).Nodup
  rw [map_fst_putIn]
  split
  · exact h
  · next absent =>
    rw [nodup_append]
    refine ⟨h, by simp, ?_⟩
    rintro a ha b hb rfl
    exact absent (by simpa [mem_singleton.1 hb] using ha)

theorem content_eq_ok_iff {c : String} : x.content key = .ok c ↔ x.check = .ok () ∧ x.get? key = some c := by
  unfold content
  cases x.check with
  | error e => simp [error_bind]
  | ok _ =>
    rw [ok_bind]
    cases x.get? key with
    | none => simp [throw, throwThe, MonadExceptOf.throw]
    | some c' => simp [pure, Except.pure]

theorem write_eq (x : Shelf) (key : Key) (content : String) (expected : Option Value) :
    x.write key content expected = if !x.writable then (.error (.readOnly x.source), x)
      else match x.check, x.checkWrite key expected with
        | .error e, _ => (.error e, { x with calls.write := x.calls.write + 1 })
        | .ok _, .error e => (.error e, { x with calls.write := x.calls.write + 1 })
        | .ok _, .ok _ => ((Digest.blob content).map .text,
          { x.put key content with calls.write := x.calls.write + 1 }) := rfl

theorem delete_eq (x : Shelf) (key : Key) : x.delete key =
      if !x.writable then (.error (.readOnly x.source), x)
      else match x.check with
        | .error e => (.error e, { x with calls.delete := x.calls.delete + 1 })
        | .ok _ => (.ok (), { x.erase key with calls.delete := x.calls.delete + 1 }) := rfl

theorem write_cases (x : Shelf) (key : Key) (content : String) (expected : Option Value) :
    ∃ calls, (∃ e, x.write key content expected = (.error e, { x with calls })) ∨
      x.writable = true ∧ x.check = .ok () ∧ x.checkWrite key expected = .ok () ∧ x.write key content expected =
          ((Digest.blob content).map .text, { x.put key content with calls }) := by
  by_cases writable : x.writable = true
  · rw [write_eq, if_neg (by simp [writable])]
    refine ⟨{ x.calls with write := x.calls.write + 1 }, ?_⟩
    cases x.check with
    | error e => exact .inl ⟨e, rfl⟩
    | ok _ =>
      cases x.checkWrite key expected with
      | error e => exact .inl ⟨e, rfl⟩
      | ok _ => exact .inr ⟨writable, rfl, rfl, rfl⟩
  · exact ⟨x.calls, .inl ⟨.readOnly x.source, by rw [write_eq, if_pos (by simp [writable])]⟩⟩

theorem delete_cases (x : Shelf) (key : Key) : ∃ calls, (∃ e, x.delete key = (.error e, { x with calls })) ∨
      x.writable = true ∧ x.check = .ok () ∧ x.delete key = (.ok (), { x.erase key with calls }) := by
  by_cases writable : x.writable = true
  · rw [delete_eq, if_neg (by simp [writable])]
    refine ⟨{ x.calls with delete := x.calls.delete + 1 }, ?_⟩
    cases x.check with
    | error e => exact .inl ⟨e, rfl⟩
    | ok _ => exact .inr ⟨writable, rfl, rfl⟩
  · exact ⟨x.calls, .inl ⟨.readOnly x.source, by rw [delete_eq, if_pos (by simp [writable])]⟩⟩

theorem entries_eq_ok {kind : Option Kind} {es : List Entry} (h : x.entries kind = .ok es) : x.check = .ok () ∧
      (∀ kc ∈ x.contents, kind.all (· == kc.1.kind) = true → ∃ e ∈ es, entryOf kc = .ok e) ∧
      ∀ e ∈ es, ∃ kc ∈ x.contents, kind.all (· == kc.1.kind) = true ∧ entryOf kc = .ok e := by
  simp only [entries, bind_eq_ok] at h
  obtain ⟨_, check, made⟩ := h
  obtain ⟨there, back⟩ := mapM_eq_ok made
  have mem : ∀ kc, kc ∈ x.sorted.filter (fun kc => kind.all (· == kc.1.kind)) ↔
      kc ∈ x.contents ∧ kind.all (· == kc.1.kind) = true := by
    simp [sorted, mem_filter, mem_mergeSort]
  refine ⟨check, fun kc hkc hkind => there kc ((mem kc).2 ⟨hkc, hkind⟩), fun e he => ?_⟩
  obtain ⟨kc, hkc, made⟩ := back e he
  exact ⟨kc, ((mem kc).1 hkc).1, ((mem kc).1 hkc).2, made⟩

end Shelf

namespace Digest

variable {content b : String} {e : Failure}

def Encodes (content : String) : Prop := ∃ bs, bytesOf content = .ok bs

theorem blob_eq_ok_iff : (∃ b, blob content = .ok b) ↔ Encodes content := by
  unfold blob Encodes
  cases bytesOf content with
  | error e => simp [Except.map]
  | ok bs => simp [Except.map]

theorem blob_eq_error (h : blob content = .error e) : e = .unencodable := by
  unfold blob bytesOf at h
  cases bytes : Text.utf8? content with
  | none => simpa [bytes, Except.map] using h.symm
  | some bs => simp [bytes, Except.map] at h

theorem not_encodes_of_blob (h : blob content = .error e) : ¬Encodes content := by
  rw [← blob_eq_ok_iff, h]
  exact nofun

theorem le_length_hexOf (ws : List UInt32) : 8 * ws.length ≤ (hexOf ws).length := by
  have grows : ∀ (ws : List UInt32) (s : String),
      s.length + 8 * ws.length ≤ (ws.foldl (fun s w => s ++ Text.hex 8 w.toNat) s).length := by
    intro ws
    induction ws with
    | nil => exact fun s => Nat.le_refl _
    | cons w ws ih =>
      intro s
      have digits : 8 ≤ (Text.hex 8 w.toNat).length := by
        simp only [Text.hex, String.length_ofList, length_append, length_replicate]
        omega
      refine Nat.le_trans ?_ (ih _)
      rw [String.length_append, length_cons]
      omega
  simpa [hexOf] using grows ws ""

theorem le_length_blobOfBytes (bs : ByteArray) : 40 ≤ (blobOfBytes bs).length := by
  exact Nat.le_trans (by simp) (le_length_hexOf _)

theorem le_length_blob (h : blob content = .ok b) : 40 ≤ b.length := by
  unfold blob at h
  cases bytes : bytesOf content with
  | error e => simp [bytes, Except.map] at h
  | ok bs =>
    rw [bytes] at h
    rw [← Except.ok.inj h]
    exact le_length_blobOfBytes bs

theorem blob_ne_empty (h : blob content = .ok b) : b ≠ "" := by
  rintro rfl
  exact absurd (le_length_blob h) (by decide)

end Digest

theorem Entry.ofContent_eq_ok {key : Key} {content : String} {path revision : Value} {e : Entry}
    (h : ofContent key content path revision = .ok e) : e.key = Key.of key.kind key.name ∧
      (∃ b, Digest.blob content = .ok b ∧ e.revision = if revision.isGiven then revision else .text b) ∧
      (∃ d, Digest.ofContent content = .ok d ∧ e.digest = .text d) ∧
      ∃ fields, Header.fields content = .ok fields ∧ e.localOnly = Header.isPrivate fields := by
  simp only [ofContent, bind_eq_ok] at h
  obtain ⟨fields, hfields, version, -, description, -, tags, -, author, -, d, hd, b, hb, made⟩ := h
  have whole := Except.ok.inj made
  subst whole
  exact ⟨rfl, ⟨b, hb, rfl⟩, ⟨d, hd, rfl⟩, fields, hfields, rfl⟩

theorem Shelf.entryOf_eq_ok {kc : Key × String} {e : Entry} (h : entryOf kc = .ok e) :
    e.key = Key.of kc.1.kind kc.1.name ∧ (∃ b, Digest.blob kc.2 = .ok b ∧ e.revision = .text b) ∧
      (∃ d, Digest.ofContent kc.2 = .ok d ∧ e.digest = .text d) ∧
      ∃ fields, Header.fields kc.2 = .ok fields ∧ e.localOnly = Header.isPrivate fields :=
  Entry.ofContent_eq_ok h

theorem Plan.mem_of_lastWith {k : Key} {es : List Entry} {e : Entry} (h : lastWith k es = some e) :
    e ∈ es ∧ e.key = k := by
  have mem := mem_of_find?_eq_some h
  have same := List.find?_some h
  exact ⟨mem_reverse.1 mem, by simpa using same⟩

theorem Plan.lastWith_eq_none_iff {k : Key} {es : List Entry} : lastWith k es = none ↔ ∀ e ∈ es, e.key ≠ k := by
  simp [lastWith]

namespace Shelf

/-- A shelf holds at most one content under each key, and its keys have normal names. -/
structure Tidy (x : Shelf) : Prop where
  nodup : (x.contents.map (·.1)).Nodup
  normal : ∀ kc ∈ x.contents, Name.normalize kc.1.name = kc.1.name

namespace Tidy

variable {x : Shelf} {kind : Option Kind} {es : List Entry}

theorem get?_of_mem (tidy : x.Tidy) {k : Key} {c : String} (h : (k, c) ∈ x.contents) : x.get? k = some c := by
  have nodup := tidy.nodup
  unfold get?
  generalize x.contents = contents at h nodup
  induction contents with
  | nil => simp at h
  | cons kc l ih =>
    rw [map_cons, nodup_cons] at nodup
    rcases mem_cons.1 h with rfl | h
    · simp
    · have ne : k ≠ kc.1 := by
        rintro rfl
        exact nodup.1 (mem_map.2 ⟨_, h, rfl⟩)
      rw [lookup_cons, beq_eq_false_iff_ne.2 ne]
      exact ih h nodup.2

theorem of_mem_entries (tidy : x.Tidy) (h : x.entries kind = .ok es) {e : Entry} (he : e ∈ es) :
    ∃ c, x.get? e.key = some c ∧ entryOf (e.key, c) = .ok e := by
  obtain ⟨-, -, back⟩ := entries_eq_ok h
  obtain ⟨⟨k, c⟩, mem, -, made⟩ := back e he
  have key : e.key = k := by
    rw [(entryOf_eq_ok made).1, Key.of, tidy.normal _ mem]
  exact ⟨c, by rw [key, tidy.get?_of_mem mem], by rw [key, made]⟩

theorem exists_mem_entries (tidy : x.Tidy) (h : x.entries kind = .ok es) {k : Key} {c : String}
    (found : x.get? k = some c) (hkind : kind.all (· == k.kind) = true) : ∃ e ∈ es, e.key = k := by
  obtain ⟨-, there, -⟩ := entries_eq_ok h
  have mem := mem_of_get? found
  obtain ⟨e, he, made⟩ := there _ mem hkind
  refine ⟨e, he, ?_⟩
  rw [(entryOf_eq_ok made).1, Key.of, tidy.normal _ mem]

theorem put (tidy : x.Tidy) {key : Key} (normal : Name.normalize key.name = key.name)
    (content : String) : (x.put key content).Tidy where
  nodup := nodup_put tidy.nodup key content
  normal := by
    intro kc hkc
    rcases mem_putIn hkc with rfl | hkc
    · exact normal
    · exact tidy.normal kc hkc

theorem erase (tidy : x.Tidy) (key : Key) : (x.erase key).Tidy where
  nodup := tidy.nodup.sublist (filter_sublist.map _)
  normal kc hkc := tidy.normal kc (mem_filter.1 hkc).1

end Tidy

variable {x : Shelf} {k : Key} {c : String} {e : Entry} {es : List Entry}

def copy (x : Shelf) (k : Key) : Option Entry := (x.get? k).bind fun c => (entryOf (k, c)).toOption

theorem copy_congr {y : Shelf} (h : y.get? k = x.get? k) : y.copy k = x.copy k := by
  rw [copy, h, copy]

theorem copy_of_get? (found : x.get? k = some c) (made : entryOf (k, c) = .ok e) : x.copy k = some e := by
  simp [copy, found, made, Except.toOption]

theorem get?_of_copy (h : x.copy k = some e) : ∃ c, x.get? k = some c ∧ entryOf (k, c) = .ok e := by
  obtain ⟨c, found, made⟩ := Option.bind_eq_some_iff.1 h
  exact ⟨c, found, eq_ok_of_toOption made⟩

theorem Tidy.eq_copy (tidy : x.Tidy) {kind : Option Kind} (h : x.entries kind = .ok es)
    (hkind : kind.all (· == k.kind) = true) {found : Option Entry}
    (listed : ∀ e, found = some e → e ∈ es ∧ e.key = k) (none : found = none → ∀ e ∈ es, e.key ≠ k) :
    found = x.copy k := by
  cases found with
  | none =>
    cases held : x.get? k with
    | none => simp [copy, held]
    | some c =>
      obtain ⟨e, mem, key⟩ := tidy.exists_mem_entries h held hkind
      exact absurd key (none rfl e mem)
  | some e =>
    obtain ⟨mem, rfl⟩ := listed e rfl
    obtain ⟨c, held, made⟩ := tidy.of_mem_entries h mem
    exact (copy_of_get? held made).symm

theorem Tidy.lastWith (tidy : x.Tidy) (h : x.entries none = .ok es) (k : Key) : Plan.lastWith k es = x.copy k :=
  tidy.eq_copy h rfl (fun _ => Plan.mem_of_lastWith) Plan.lastWith_eq_none_iff.1

theorem exists_entryOf (h : x.entries none = .ok es) (found : x.get? k = some c) : ∃ e, entryOf (k, c) = .ok e := by
  obtain ⟨-, there, -⟩ := entries_eq_ok h
  obtain ⟨e, -, made⟩ := there _ (mem_of_get? found) rfl
  exact ⟨e, made⟩

theorem get?_of_copy_eq_none (h : x.entries none = .ok es) (missing : x.copy k = none) : x.get? k = none := by
  cases found : x.get? k with
  | none => rfl
  | some c =>
    obtain ⟨e, made⟩ := exists_entryOf h found
    cases missing.symm.trans (copy_of_get? found made)

end Shelf

end TriStore
