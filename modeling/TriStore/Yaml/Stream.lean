import TriStore.Yaml.Document

/-!
The document of a file. The file is decoded piece by piece while its document is read, so a fault of the
document hides what is no text further on.
-/
namespace TriStore.Yaml

def unifyBreaks : List Char → List Char
  | '\r' :: '\n' :: cs => '\n' :: unifyBreaks cs
  | '\r' :: cs => '\n' :: unifyBreaks cs
  | c :: cs => c :: unifyBreaks cs
  | [] => []

/-- The characters of a text with unified line breaks, each with the bytes after which it is known. A return
at the very end is not. -/
def known : Nat → List Char → List (Char × Nat)
  | pos, '\r' :: '\n' :: cs => ('\n', pos + 2) :: known (pos + 2) cs
  | pos, '\r' :: c :: cs => ('\n', pos + 1 + c.utf8Size) :: known (pos + 1) (c :: cs)
  | _, ['\r'] => []
  | pos, c :: cs => (c, pos + c.utf8Size) :: known (pos + c.utf8Size) cs
  | _, [] => []

/-- How many characters are handed on at a time. -/
def blockSize : Nat := 4096

/-- The first two blocks are handed on together. -/
def handedOn (blocks : Nat) : Nat := if blocks < 2 then 0 else blocks * blockSize

def leastPortion : Nat := 8192

/-- How many whole blocks come of the bytes before the portion in which they turn out to be no text, and its
start. The next portion is measured by the last one, with `ratio` bytes a character. -/
def blocksBefore (due : List Nat) (limit total : Nat) : Nat → Nat → Rat → Nat → Nat × Nat
  | 0, taken, _, blocks => (blocks, taken)
  | fuel + 1, taken, ratio, blocks =>
    let ready := (due.takeWhile (· ≤ taken)).length
    let wanted := (blocks + 1) * blockSize
    if wanted ≤ ready then blocksBefore due limit total fuel taken ratio (blocks + 1)
    else
      let portion := max leastPortion (roundRat (ratio * (wanted - ready : Nat))).floor.toNat
      let later := if taken == total then total + 1 else min total (taken + portion)
      if limit ≤ later then (blocks, taken)
      else
        let more := (due.takeWhile (· ≤ later)).length - ready
        let ratio := if more == 0 then 0 else roundRat (mkRat (later - taken : Nat) more)
        blocksBefore due limit total fuel later ratio blocks

/-- How many bytes must be there until they turn out to be no text. Two bytes of a half are not enough. -/
def bytesToTell (bytes : ByteArray) (cause : Text.Undecodable) : Nat :=
  match cause.fault with
  | .start => cause.pos + 1
  | .unfinished => bytes.size + 1
  | _ =>
    if cause.first == 0xed && Text.Utf8.isTail (bytes.get! (cause.pos + 1)) then cause.pos + 3
    else cause.pos + cause.size + 1

/-- The last end of a character up to a limit. -/
def lastEnd (limit : Nat) : Nat → List Char → Nat
  | pos, c :: cs => if pos + c.utf8Size ≤ limit then lastEnd limit (pos + c.utf8Size) cs else pos
  | pos, [] => pos

/-- A text that is handed on up to the block with a character that may not stand in a document. -/
def checked (points : List Nat) (pending : Option Fault) : Cursor :=
  match points.findIdx? fun n => !(Text.ofPoint n).all isAllowed with
  | none => { rest := Text.ofPoints points, pending }
  | some i => { rest := Text.ofPoints (points.take (handedOn (i / blockSize))), pending := some .malformed }

/-- The start of a file. The position of what is no text is in its portion, with the unfinished character
before it. -/
def start (bytes : ByteArray) : Cursor :=
  match Text.Utf8.decode bytes with
  | .ok s => checked (Text.points (unifyBreaks s.toList)) none
  | .error cause =>
    let before := ((String.fromUTF8? (bytes.extract 0 cause.pos)).getD "").toList
    let text := known 0 before
    let (blocks, taken) :=
      blocksBefore (text.map (·.2)) (bytesToTell bytes cause) bytes.size (bytes.size + 1) 0 0 0
    checked ((text.take (handedOn blocks)).map (·.1.toNat))
      (some (.failure (.undecodable { cause with pos := cause.pos - lastEnd taken 0 before })))

def load (bytes : ByteArray) : Except Fault Value := valueFrom (start bytes)

end TriStore.Yaml
