import TriStore.Text.Basic

/-!
The parts that two sequences of lines have in common, and differences as text: each change with three
lines around it, and close ones in one piece.
-/
namespace TriStore.Diff

/-- `size` lines from `left` on in the first sequence equal those from `right` on in the second. -/
structure Block where
  left : Nat
  right : Nat
  size : Nat
  deriving DecidableEq, Repr, Inhabited

/-- The lengths of the common runs that end with `line` at each place, from those one line earlier. -/
def runs (counts : String → Bool) (line : String) : List String → List Nat → Nat → List Nat
  | [], _, _ => []
  | l :: ls, before, diagonal =>
    (if l == line && counts l then diagonal + 1 else 0) ::
      runs counts line ls (before.drop 1) (before.headD 0)

def bestOfRow (i : Nat) : Nat → List Nat → Block → Block
  | _, [], b => b
  | j, n :: ns, b => bestOfRow i (j + 1) ns (if b.size < n then ⟨i + 1 - n, j + 1 - n, n⟩ else b)

def bestRun (counts : String → Bool) (right : List String) : Nat → List String → List Nat → Block → Block
  | _, [], _, b => b
  | i, l :: ls, before, b =>
    let row := runs counts l right before 0
    bestRun counts right (i + 1) ls row (bestOfRow i 0 row b)

def commonFront : List String → List String → Nat
  | a :: as, b :: bs => if a == b then commonFront as bs + 1 else 0
  | _, _ => 0

def longest (counts : String → Bool) (left right : List String) : Block :=
  let b := bestRun counts right 0 left [] ⟨0, 0, 0⟩
  let back := commonFront (left.take b.left).reverse (right.take b.right).reverse
  let ahead := commonFront (left.drop (b.left + b.size)) (right.drop (b.right + b.size))
  ⟨b.left - back, b.right - back, b.size + back + ahead⟩

def blocksFrom (counts : String → Bool) : Nat → List String → List String → Nat → Nat → List Block
  | 0, _, _, _, _ => []
  | n + 1, left, right, i, j =>
    let b := longest counts left right
    if b.size == 0 then []
    else
      blocksFrom counts n (left.take b.left) (right.take b.right) i j ++ [⟨i + b.left, j + b.right, b.size⟩] ++
        blocksFrom counts n (left.drop (b.left + b.size)) (right.drop (b.right + b.size))
          (i + b.left + b.size) (j + b.right + b.size)

def longLength : Nat := 200

def isFrequent (right : List String) (line : String) : Bool :=
  longLength ≤ right.length && right.length / 100 + 1 < right.count line

def joinBlocks : List Block → List Block
  | a :: b :: rest =>
    if a.left + a.size == b.left && a.right + a.size == b.right then
      joinBlocks (⟨a.left, a.right, a.size + b.size⟩ :: rest)
    else a :: joinBlocks (b :: rest)
  | bs => bs
termination_by bs => bs.length

def blocks (left right : List String) : List Block :=
  joinBlocks (blocksFrom (!isFrequent right ·) left.length left right 0 0)

/-- A stretch of both sequences: common lines, or lines that take the place of others. -/
structure Stretch where
  common : Bool
  left : Nat
  leftEnd : Nat
  right : Nat
  rightEnd : Nat
  deriving DecidableEq, Repr, Inhabited

def stretchesFrom (i j leftEnd rightEnd : Nat) : List Block → List Stretch
  | [] => if i < leftEnd || j < rightEnd then [⟨false, i, leftEnd, j, rightEnd⟩] else []
  | b :: bs =>
    (if i < b.left || j < b.right then [⟨false, i, b.left, j, b.right⟩] else []) ++
      ⟨true, b.left, b.left + b.size, b.right, b.right + b.size⟩ ::
        stretchesFrom (b.left + b.size) (b.right + b.size) leftEnd rightEnd bs

def stretches (left right : List String) : List Stretch :=
  stretchesFrom 0 0 left.length right.length (blocks left right)

def context : Nat := 3

def Stretch.front (s : Stretch) : Stretch :=
  { s with leftEnd := min s.leftEnd (s.left + context), rightEnd := min s.rightEnd (s.right + context) }

def Stretch.back (s : Stretch) : Stretch :=
  { s with left := max s.left (s.leftEnd - context), right := max s.right (s.rightEnd - context) }

def trimFirst : List Stretch → List Stretch
  | s :: rest => (if s.common then s.back else s) :: rest
  | [] => []

def trimLast (ss : List Stretch) : List Stretch :=
  match ss.reverse with
  | s :: rest => ((if s.common then s.front else s) :: rest).reverse
  | [] => []

/-- Parts the stretches where common lines are many; `piece` has its own, the last one first. -/
def partition (piece : List Stretch) : List Stretch → List (List Stretch)
  | [] => [piece.reverse]
  | s :: rest =>
    if s.common && context + context < s.leftEnd - s.left then
      (s.front :: piece).reverse :: partition [s.back] rest
    else partition (s :: piece) rest

def isChange : List Stretch → Bool
  | [] => false
  | [s] => !s.common
  | _ => true

def pieces (left right : List String) : List (List Stretch) :=
  (partition [] (trimLast (trimFirst (stretches left right)))).filter isChange

def range (start stop : Nat) : String :=
  let length := stop - start
  if length == 1 then Text.ofNat (start + 1)
  else Text.ofNat (if length == 0 then start else start + 1) ++ "," ++ Text.ofNat length

def slice (lines : List String) (start stop : Nat) : List String := (lines.take stop).drop start

def stretchLines (left right : List String) (s : Stretch) : List String :=
  if s.common then (slice left s.left s.leftEnd).map (" " ++ ·)
  else (slice left s.left s.leftEnd).map ("-" ++ ·) ++ (slice right s.right s.rightEnd).map ("+" ++ ·)

def pieceLines (left right : List String) (piece : List Stretch) : List String :=
  match piece.head?, piece.getLast? with
  | some first, some last =>
    ("@@ -" ++ range first.left last.leftEnd ++ " +" ++ range first.right last.rightEnd ++ " @@\n") ::
      piece.flatMap (stretchLines left right)
  | _, _ => []

def unified (left right : List String) (leftName rightName : String) : String :=
  match pieces left right with
  | [] => ""
  | ps =>
    Text.join "" (["--- " ++ leftName ++ "\n", "+++ " ++ rightName ++ "\n"] ++
      ps.flatMap (pieceLines left right))

end TriStore.Diff
