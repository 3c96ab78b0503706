import TriStore.Proofs.Action
import TriStore.Proofs.LowerCase

/-!
An item put or erased where no folder was changes nothing but what lies in its own place of a tree of files.
-/
namespace TriStore
open List String

namespace Text

theorem isPlain_iff {s : String} : isPlain s = true ↔ ∀ c ∈ s.toList, c.toNat < 0x10d800 ∨ 0x10e804 ≤ c.toNat := by
  simp only [isPlain, all_eq_true, Bool.or_eq_true, decide_eq_true_eq]
  exact Iff.rfl

theorem points_append {front : String} (plain : isPlain front = true) (cs : List Char) :
    points (front.toList ++ cs) = front.toList.map (·.toNat) ++ points cs := by
  have outside := isPlain_iff.1 plain
  generalize front.toList = fs at outside
  induction fs with
  | nil => rfl
  | cons c fs ih =>
    have range := outside c (.head _)
    have alone : ¬isFirst c = true := by
      rw [isFirst_iff]
      omega
    have whole : ¬isStandIn c = true := by
      rw [isStandIn_iff]
      omega
    rw [cons_append, points_cons alone, pointOf, if_neg whole,
      ih fun d hd => outside d (.tail _ hd), map_cons, cons_append]

theorem points_of_isPlain {s : String} (h : isPlain s = true) : points s.toList = s.toList.map (·.toNat) := by
  have whole := points_append h []
  rwa [append_nil, show points [] = [] from rfl, append_nil] at whole

theorem not_lt_iff {xs ys : List Nat} : ¬ys < xs ↔ xs < ys ∨ xs = ys := by
  rw [List.not_lt, List.le_iff_lt_or_eq]

theorem map_toNat_lt {cs ds : List Char} : cs.map (·.toNat) < ds.map (·.toNat) ↔ cs < ds := by
  constructor
  · intro h
    apply Classical.byContradiction
    intro not
    rcases List.le_iff_lt_or_eq.1 (List.not_lt.1 not) with below | same
    · exact List.lt_irrefl _ (List.lt_trans h (List.map_lt (fun _ _ lt => lt) below))
    · rw [same] at h
      exact List.lt_irrefl _ h
  · exact List.map_lt fun _ _ lt => lt

theorem le_iff {s t : String} : le s t = true ↔ ¬points t.toList < points s.toList := by
  unfold le compare
  split
  · next plain =>
    rw [Bool.and_eq_true] at plain
    rw [points_of_isPlain plain.1, points_of_isPlain plain.2, not_lt_iff, map_toNat_lt,
      map_inj_right fun _ _ => Char.toNat_inj.1, ← lt_iff, toList_inj]
    show (compareOfLessAndEq s t != .gt) = true ↔ _
    unfold compareOfLessAndEq
    split
    · next lt => simp [lt]
    · next ge =>
      split
      · next same => simp [same]
      · next differ => simp [ge, differ]
  · rw [not_lt_iff]
    split
    · next lt => simp [lt]
    · next ge =>
      split
      · next same => simp [same]
      · next differ => simp [ge, differ]

theorem le_total (s t : String) : (le s t || le t s) = true := by
  rw [Bool.or_eq_true, le_iff, le_iff]
  by_cases below : points t.toList < points s.toList
  · exact .inr fun above => List.lt_irrefl _ (List.lt_trans below above)
  · exact .inl below

theorem le_trans {r s t : String} (h : le r s = true) (h' : le s t = true) : le r t = true := by
  rw [le_iff, not_lt_iff] at h h' ⊢
  rcases h with below | same
  · rcases h' with below' | same'
    · exact .inl (List.lt_trans below below')
    · exact .inl (same' ▸ below)
  · rw [same]
    exact h'

section Sizes

theorem map_ofNat_toNat (cs : List Char) : (cs.map (·.toNat)).map Char.ofNat = cs := by
  simp [Function.comp_def]

theorem filter_isHalf (cs : List Char) : (cs.map (·.toNat)).filter (!isHalf ·) = cs.map (·.toNat) := by
  rw [filter_eq_self]
  intro n hn
  obtain ⟨c, -, rfl⟩ := mem_map.1 hn
  rw [Bool.not_eq_true', ← Bool.not_eq_true, isHalf_iff]
  rcases c.valid with low | ⟨high, -⟩
  · have below : c.toNat < 0xd800 := low
    omega
  · have above : 0xdfff < c.toNat := high
    omega

theorem size_toUTF8_append (cs ds : List Char) : (String.ofList (cs ++ ds)).toUTF8.size =
    (String.ofList cs).toUTF8.size + (String.ofList ds).toUTF8.size := by
  simp [ofList_append]

variable {front : String} (plain : isPlain front = true)

include plain

theorem not_isStandIn : ∀ c ∈ front.toList, ¬isStandIn c = true := by
  intro c hc
  have range := isPlain_iff.1 plain c hc
  rw [isStandIn_iff]
  omega

theorem size_utf8_append (s : String) : (utf8 (front ++ s)).size = front.toUTF8.size + (utf8 s).size := by
  have same : isPlain (front ++ s) = isPlain s := by
    unfold isPlain at plain ⊢
    rw [toList_append, all_append, plain, Bool.true_and]
  have encodable : isEncodable (front ++ s) = isEncodable s := by
    have first : front.toList.all (!isStandIn ·) = true := by
      simpa using not_isStandIn plain
    simp only [isEncodable, toList_append, all_append, first, Bool.true_and]
  have points := points_append plain s.toList
  rw [← toList_append] at points
  have whole : front.toUTF8.size = (String.ofList front.toList).toUTF8.size := by
    rw [ofList_toList]
  unfold utf8 utf8?
  rw [same, encodable, points]
  split
  · simp
  · rw [whole]
    split
    · simp only [Option.getD_some, map_append, map_ofNat_toNat, size_toUTF8_append]
    · simp only [Option.getD_none, filter_append, filter_isHalf, map_append, map_ofNat_toNat, size_toUTF8_append]

end Sizes

theorem endsWith_iff {s back : String} : s.endsWith back = true ↔ back.toList <:+ s.toList := by
  have slice : s.endsWith back = s.toSlice.endsWith back := rfl
  rw [slice, Slice.endsWith_string_iff, copy_toSlice]

end Text

/-- A name that an element file can have: one step of a path, with the extension. -/
structure IsFileName (n : String) : Prop where
  extension : n.endsWith ".md" = true
  step : '/' ∉ n.toList

theorem Path.join_step {n : String} (slash : '/' ∉ n.toList) (named : n ≠ "") (point : n ≠ ".") (p : Path) :
    p.join n = ⟨p.steps ++ [n]⟩ := by
  have relative : n.startsWith "/" = false := by
    rw [startsWith_string_eq_false_iff]
    rintro ⟨rest, whole⟩
    exact slash (by rw [← whole]; simp)
  have one : stepsOf n = [n] := by
    have whole : Text.pieces (· == '/') n.toList = [n.toList] := by
      refine Text.pieces_of_forall fun c hc => ?_
      simp only [beq_eq_false_iff_ne]
      rintro rfl
      exact slash hc
    simp [stepsOf, whole, named, point]
  rw [join, if_neg (by rw [relative]; decide), one]

namespace IsFileName

variable {n : String}

theorem ne_of_not (h : IsFileName n) {m : String} (hm : ¬".md".toList <:+ m.toList) : n ≠ m := by
  rintro rfl
  exact hm (Text.endsWith_iff.1 h.extension)

theorem join (h : IsFileName n) (p : Path) : p.join n = ⟨p.steps ++ [n]⟩ :=
  Path.join_step h.step (h.ne_of_not (by decide)) (h.ne_of_not (by decide)) p

theorem ne_dots (h : IsFileName n) : n ≠ ".." := h.ne_of_not (by decide)

end IsFileName

theorem Kind.join_label (kind : Kind) (p : Path) : p.join kind.label = ⟨p.steps ++ [kind.label]⟩ := by
  cases kind <;> exact Path.join_step (by decide) (by decide) (by decide) p

namespace FileTree

variable {items : List (List String × FileItem)} {bytes : ByteArray} {t t' : FileTree}
  {s spot here : List String} {i : FileItem} {n : String} {p : Path}

theorem storedSize_append {front : String} (plain : Text.isPlain front = true) (s : String) :
    storedSize (front ++ s) = front.toUTF8.size + storedSize s := by
  have none : front.toList.filter Text.isStandIn = [] :=
    filter_eq_nil_iff.2 (Text.not_isStandIn plain)
  rw [storedSize, storedSize, Text.size_utf8_append plain, toList_append, filter_append, none,
    nil_append, Nat.add_assoc]

theorem storedSize_path (kind : Kind) (size : storedSize n ≤ longestName) :
    storedSize (Path.toText ⟨[kind.label, n]⟩) ≤ longestPath := by
  have text : Path.toText ⟨[kind.label, n]⟩ = "/" ++ kind.label ++ "/" ++ n := by
    simp [Path.toText, Text.join, String.append_assoc]
  have plain : Text.isPlain ("/" ++ kind.label ++ "/") = true := by
    cases kind <;> decide
  have short : ("/" ++ kind.label ++ "/").toUTF8.size ≤ 11 := by
    cases kind <;> decide
  have limits : longestName = 255 ∧ longestPath = 4095 := ⟨rfl, rfl⟩
  rw [text, storedSize_append plain]
  omega

theorem lookup_map_ne (h : spot ≠ s) :
    (items.map fun x => if x.1 == s then (x.1, i) else x).lookup spot = items.lookup spot := by
  induction items with
  | nil => rfl
  | cons x items ih =>
    obtain ⟨here, item⟩ := x
    rw [map_cons]
    by_cases eq : here = s
    · have other : (spot == here) = false := beq_eq_false_iff_ne.2 fun same => h (same.trans eq)
      rw [if_pos (beq_iff_eq.2 eq), lookup_cons, lookup_cons, other, ih]
    · rw [if_neg (by simpa using eq), lookup_cons, lookup_cons, ih]

theorem lookup_map_self (there : (items.lookup s).isSome = true) :
    (items.map fun x => if x.1 == s then (x.1, i) else x).lookup s = some i := by
  induction items with
  | nil => cases there
  | cons x items ih =>
    obtain ⟨here, item⟩ := x
    rw [map_cons]
    by_cases eq : s = here
    · simp [eq]
    · rw [lookup_cons, beq_eq_false_iff_ne.2 eq] at there
      rw [if_neg (by simpa using Ne.symm eq), lookup_cons, beq_eq_false_iff_ne.2 eq]
      exact ih there

theorem get?_put_ne (t : FileTree) (i : FileItem) (h : spot ≠ s) : (t.put s i).get? spot = t.get? spot := by
  unfold get? put
  split
  · rfl
  · split
    · exact lookup_map_ne h
    · rw [lookup_append]
      simp [lookup_cons, beq_eq_false_iff_ne.2 h]

theorem walk_append (t : FileTree) (here xs ys : List String) :
    t.walk here (xs ++ ys) = t.walk here xs >>= fun spot => t.walk spot ys := by
  induction xs generalizing here with
  | nil => rfl
  | cons x xs ih =>
    simp only [cons_append, walk]
    split
    · split
      · exact ih _
      · split
        · rfl
        · exact ih _
    · rfl
    · rfl

theorem walk_step (folder : t.get? here = some .folder) (dots : n ≠ "..") :
    t.walk here [n] = if storedSize n > longestName then .error .nameTooLong else .ok (here ++ [n]) := by
  simp [walk, folder, dots]

theorem walk_step_eq_ok (dots : n ≠ "..") (h : t.walk here [n] = .ok spot) :
    t.get? here = some .folder ∧ storedSize n ≤ longestName ∧ spot = here ++ [n] := by
  unfold walk at h
  split at h
  · next folder =>
    rw [if_neg (by simpa using dots)] at h
    split at h
    · cases h
    · next size => exact ⟨folder, Nat.le_of_not_gt size, (Except.ok.inj h).symm⟩
  · cases h
  · cases h

theorem get?_erase_self (named : s ≠ []) (t : FileTree) : (t.erase s).get? s = none := by
  rw [get?, if_neg (by simpa using named), erase, lookup_eq_none_iff]
  intro x hx
  have other := (mem_filter.1 hx).2
  rw [bne_iff_ne] at other ⊢
  exact other.symm

theorem get?_erase_ne (t : FileTree) (h : spot ≠ s) : (t.erase s).get? spot = t.get? spot := by
  unfold get? erase
  split
  · rfl
  · dsimp only
    induction t.items with
    | nil => rfl
    | cons x items ih =>
      obtain ⟨here, item⟩ := x
      by_cases eq : here = s
      · rw [filter_cons_of_neg (by simp [eq]), lookup_cons, beq_eq_false_iff_ne.2 fun same => h (same.trans eq), ih]
      · rw [filter_cons_of_pos (by simpa using eq), lookup_cons, lookup_cons, ih]

def KeepsFolders (t t' : FileTree) : Prop := ∀ s, t.get? s = some .folder → t'.get? s = some .folder

theorem keepsFolders_put (hs : t.get? s ≠ some .folder) (i : FileItem) : KeepsFolders t (t.put s i) := by
  intro here folder
  have other : here ≠ s := by
    rintro rfl
    exact hs folder
  rw [get?_put_ne t i other, folder]

theorem keepsFolders_erase (hs : t.get? s ≠ some .folder) : KeepsFolders t (t.erase s) := by
  intro here folder
  have other : here ≠ s := by
    rintro rfl
    exact hs folder
  rw [get?_erase_ne t other, folder]

theorem KeepsFolders.walk {steps : List String} (keeps : KeepsFolders t t')
    (h : t.walk here steps = .ok spot) : t'.walk here steps = .ok spot := by
  induction steps generalizing here with
  | nil => exact h
  | cons x steps ih =>
    unfold FileTree.walk at h ⊢
    split at h
    · next folder =>
      rw [keeps here folder]
      split at h
      · next back =>
        rw [if_pos back]
        exact ih h
      · next forth =>
        rw [if_neg forth]
        split at h
        · cases h
        · next size =>
          rw [if_neg size]
          exact ih h
    · cases h
    · cases h

theorem place_eq_ok : t.place p = .ok spot ↔
    p.fault? = none ∧ storedSize p.toText ≤ longestPath ∧ t.walk [] p.steps = .ok spot := by
  unfold place
  cases p.fault? with
  | some e => simp
  | none =>
    dsimp only
    split
    · next size => simp [Nat.not_le.2 size]
    · next size =>
      cases walked : t.walk [] p.steps with
      | ok spot => simp [Nat.le_of_not_gt size]
      | error fault => simp

theorem KeepsFolders.place (keeps : KeepsFolders t t') (h : t.place p = .ok spot) : t'.place p = .ok spot := by
  obtain ⟨fault, size, walked⟩ := place_eq_ok.1 h
  exact place_eq_ok.2 ⟨fault, size, keeps.walk walked⟩

theorem look_of_place (h : t.place p = .ok spot) : t.look p = .ok (t.get? spot) := by
  rw [look, h]

theorem place_of_isFolder (h : t.isFolder p = .ok true) :
    ∃ spot, t.place p = .ok spot ∧ t.get? spot = some .folder := by
  obtain ⟨item, looked, found⟩ := bind_eq_ok.1 h
  cases placed : t.place p with
  | ok spot =>
    rw [look_of_place placed] at looked
    have whole := Except.ok.inj looked
    subst whole
    refine ⟨spot, rfl, ?_⟩
    split at found
    · next folder => exact folder
    · cases found
  | error e =>
    have none : item = none ∨ ∃ e, t.look p = .error e := by
      unfold look at looked ⊢
      rw [placed] at looked ⊢
      split at looked
      · next same => cases same
      · cases looked
      · exact .inl (Except.ok.inj looked).symm
    rcases none with rfl | ⟨e, fails⟩
    · cases found
    · cases fails.symm.trans looked

theorem read_eq_ok : t.read p = .ok bytes ↔ ∃ spot, t.place p = .ok spot ∧ t.get? spot = some (.file bytes) := by
  simp only [read, bind_eq_ok]
  constructor
  · rintro ⟨spot, placed, found⟩
    refine ⟨spot, placed, ?_⟩
    split at found
    · next file => rw [file, Except.ok.inj found]
    · cases found
    · cases found
  · rintro ⟨spot, placed, found⟩
    exact ⟨spot, placed, by rw [found]; rfl⟩

theorem exists_of_read (h : t.read p = .ok bytes) : t.exists? p = .ok true := by
  obtain ⟨spot, placed, found⟩ := read_eq_ok.1 h
  rw [exists?, look_of_place placed, found]
  rfl

theorem get?_put_self (hs : t.get? s ≠ some .folder) (i : FileItem) : (t.put s i).get? s = some i := by
  have named : s ≠ [] := by
    rintro rfl
    exact hs rfl
  rw [get?, if_neg (by simpa using named), put]
  split
  · next there => exact lookup_map_self there
  · next absent =>
    rw [lookup_append, Option.not_isSome_iff_eq_none.1 absent]
    simp

theorem replace_cases (t : FileTree) (p : Path) (content : Except Failure ByteArray) :
    (∃ e, t.replace p content = (.error e, (t.ensureFolder p.parent).2)) ∨
      ∃ s bytes, content = .ok bytes ∧ (t.ensureFolder p.parent).2.place p = .ok s ∧
        (t.ensureFolder p.parent).2.get? s ≠ some .folder ∧
        t.replace p content = (.ok (), (t.ensureFolder p.parent).2.put s (.file bytes)) := by
  unfold replace
  split
  · next e t' made =>
    rw [made]
    exact .inl ⟨e, rfl⟩
  · next t' made =>
    rw [made]
    dsimp only
    split
    · exact .inl ⟨_, rfl⟩
    · next t'' written =>
      split at written
      · cases written
      · obtain ⟨bytes, encoded, written⟩ := bind_eq_ok.1 written
        split at written
        · cases written
        · obtain ⟨s, placed, written⟩ := bind_eq_ok.1 written
          split at written
          · cases written
          · next file =>
            refine .inr ⟨s, bytes, encoded, placed, file, ?_⟩
            rw [← Except.ok.inj written]

theorem read_replace {content : Except Failure ByteArray} (h : (t.replace p content).1 = .ok ()) :
    ∃ bytes, content = .ok bytes ∧ (t.replace p content).2.read p = .ok bytes := by
  rcases t.replace_cases p content with ⟨e, failed⟩ | ⟨s, bytes, encoded, placed, free, put⟩
  · rw [failed] at h
    cases h
  · rw [put]
    exact ⟨bytes, encoded, read_eq_ok.2 ⟨s, (keepsFolders_put free _).place placed, get?_put_self free _⟩⟩

theorem remove_eq_ok : t.remove p = .ok t' ↔
    ∃ spot bytes, t.place p = .ok spot ∧ t.get? spot = some (.file bytes) ∧ t' = t.erase spot := by
  simp only [remove, bind_eq_ok]
  constructor
  · rintro ⟨spot, placed, removed⟩
    split at removed
    · next bytes file => exact ⟨spot, bytes, placed, file, (Except.ok.inj removed).symm⟩
    · cases removed
    · cases removed
  · rintro ⟨spot, bytes, placed, file, rfl⟩
    exact ⟨spot, placed, by rw [file]; rfl⟩

theorem read_remove (h : t.remove p = .ok t') (bytes : ByteArray) : t'.read p ≠ .ok bytes := by
  obtain ⟨spot, old, placed, file, rfl⟩ := remove_eq_ok.1 h
  have free : t.get? spot ≠ some .folder := by
    rw [file]
    exact nofun
  have named : spot ≠ [] := by
    rintro rfl
    exact free rfl
  intro read
  obtain ⟨s, again, found⟩ := read_eq_ok.1 read
  rw [(keepsFolders_erase free).place placed] at again
  rw [← Except.ok.inj again, get?_erase_self named] at found
  cases found

theorem childName?_append (folder : List String) (n : String) : childName? folder (folder ++ [n]) = some n := by
  induction folder with
  | nil => rfl
  | cons f folder ih => simpa [childName?] using ih

theorem mem_names (h : (t.get? (spot ++ [n])).isSome = true) : n ∈ t.names spot := by
  rw [get?, if_neg (by simp)] at h
  obtain ⟨item, found⟩ := Option.isSome_iff_exists.1 h
  obtain ⟨l₁, l₂, items, -⟩ := lookup_eq_some_iff.1 found
  have mem : (spot ++ [n], item) ∈ t.items := by
    rw [items]
    simp
  rw [names, mem_filterMap]
  exact ⟨(spot ++ [n], item), mem, childName?_append spot n⟩

end FileTree

end TriStore
