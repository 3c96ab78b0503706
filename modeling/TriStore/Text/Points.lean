/-!
Code points of texts. A text may be written with a half of a surrogate pair that no other half
completes.
-/
namespace TriStore.Text

def isHalf (n : Nat) : Bool := 0xd800 ≤ n && n < 0xe000

def isHighHalf (n : Nat) : Bool := 0xd800 ≤ n && n < 0xdc00

def isLowHalf (n : Nat) : Bool := 0xdc00 ≤ n && n < 0xe000

def joinHalves (hi lo : Nat) : Nat := 0x10000 + (hi - 0xd800) * 0x400 + (lo - 0xdc00)

def stretchStart : Nat := 0x10d800

/-- Then the characters that are second in a pair, and last those that are first. -/
def secondStart : Nat := 0x10e000

def firstStart : Nat := 0x10e802

def stretchEnd : Nat := 0x10e804

def seconds : Nat := firstStart - secondStart

def isFirst (c : Char) : Bool := firstStart ≤ c.toNat && c.toNat < stretchEnd

def isSecond (c : Char) : Bool := secondStart ≤ c.toNat && c.toNat < firstStart

def isStandIn (c : Char) : Bool := stretchStart ≤ c.toNat && c.toNat < secondStart

def ofPoint (n : Nat) : List Char :=
  if isHalf n then [Char.ofNat (n - 0xd800 + stretchStart)]
  else if stretchStart ≤ n && n < stretchEnd then
    [Char.ofNat (firstStart + (n - stretchStart) / seconds),
      Char.ofNat (secondStart + (n - stretchStart) % seconds)]
  else [Char.ofNat n]

def ofPoints (ns : List Nat) : List Char := ns.flatMap ofPoint

def pointOf (c : Char) : Nat := if isStandIn c then c.toNat - stretchStart + 0xd800 else c.toNat

def pointOfPair (c d : Char) : Nat :=
  stretchStart + (c.toNat - firstStart) * seconds + (d.toNat - secondStart)

def points : List Char → List Nat
  | c :: d :: rest =>
    if isFirst c && isSecond d then pointOfPair c d :: points rest else pointOf c :: points (d :: rest)
  | [c] => [pointOf c]
  | [] => []

def singles (cs : List Char) : List (List Char) := (points cs).map ofPoint

theorem isHalf_iff {n : Nat} : isHalf n = true ↔ 0xd800 ≤ n ∧ n < 0xe000 := by simp [isHalf]

theorem toNat_ofNat {n : Nat} (h : n < 0xd800 ∨ 0xe000 ≤ n) (lt : n < 0x110000) : (Char.ofNat n).toNat = n := by
  have valid : n.isValidChar := by simp only [Nat.isValidChar]; omega
  rw [Char.ofNat, dif_pos valid]
  rfl

theorem isStandIn_iff {c : Char} : isStandIn c = true ↔ 0x10d800 ≤ c.toNat ∧ c.toNat < 0x10e000 := by
  simp only [isStandIn, Bool.and_eq_true, decide_eq_true_eq]
  exact Iff.rfl

theorem isFirst_iff {c : Char} : isFirst c = true ↔ 0x10e802 ≤ c.toNat ∧ c.toNat < 0x10e804 := by
  simp only [isFirst, Bool.and_eq_true, decide_eq_true_eq]
  exact Iff.rfl

theorem isSecond_iff {c : Char} : isSecond c = true ↔ 0x10e000 ≤ c.toNat ∧ c.toNat < 0x10e802 := by
  simp only [isSecond, Bool.and_eq_true, decide_eq_true_eq]
  exact Iff.rfl

theorem points_cons {c : Char} (h : ¬isFirst c = true) (cs : List Char) :
    points (c :: cs) = pointOf c :: points cs := by
  cases cs with
  | nil => rfl
  | cons d rest => simp [points, h]

theorem points_cons_cons {c d : Char} (hc : isFirst c = true) (hd : isSecond d = true)
    (cs : List Char) : points (c :: d :: cs) = pointOfPair c d :: points cs := by
  simp [points, hc, hd]

def isPlain (s : String) : Bool := s.toList.all fun c => c.toNat < stretchStart || stretchEnd ≤ c.toNat

def ofCodes (ns : List Nat) : String := String.ofList (ofPoints ns)

def kept (s : String) : String :=
  if isPlain s then s else ofCodes (s.toList.map (·.toNat))

def count (cs : List Char) : Nat := (cs.filter (!isFirst ·)).length

def size (s : String) : Nat := count s.toList

def takePoints (n : Nat) (s : String) : String := String.ofList ((singles s.toList).take n).flatten

/-- Whether a text is made of characters alone, so that it can be written as bytes. -/
def isEncodable (s : String) : Bool := s.toList.all (!isStandIn ·)

def utf8? (s : String) : Option ByteArray :=
  if isPlain s then some s.toUTF8
  else if isEncodable s then some (String.ofList ((points s.toList).map Char.ofNat)).toUTF8
  else none

def utf8 (s : String) : ByteArray :=
  (utf8? s).getD (String.ofList (((points s.toList).filter (!isHalf ·)).map Char.ofNat)).toUTF8

def compare (s t : String) : Ordering :=
  if isPlain s && isPlain t then Ord.compare s t
  else if points s.toList < points t.toList then .lt
  else if points s.toList = points t.toList then .eq
  else .gt

def le (s t : String) : Bool := compare s t != .gt

end TriStore.Text
