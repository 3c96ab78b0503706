import TriStore.Failure
import TriStore.Text.Lower
import TriStore.Value.Basic

/-!
The identity of an element: its kind, whose label is the name of a folder, and its normal name, which is
in lower case, with single hyphens between words and no file extension.
-/
namespace TriStore

inductive Kind where
  | persona
  | skill
  | template
  | agent
  | memory
  | ensemble
  deriving DecidableEq, Repr, Inhabited

namespace Kind

def all : List Kind := [.persona, .skill, .template, .agent, .memory, .ensemble]

def label : Kind → String
  | .persona => "personas"
  | .skill => "skills"
  | .template => "templates"
  | .agent => "agents"
  | .memory => "memories"
  | .ensemble => "ensembles"

def stem (k : Kind) : String := String.ofList k.label.toList.dropLast

def word : Kind → String
  | .persona => "persona"
  | .skill => "skill"
  | .template => "template"
  | .agent => "agent"
  | .memory => "memory"
  | .ensemble => "ensemble"

def constantName (k : Kind) : String := String.ofList (k.word.toList.map Char.toUpper)

/-- The kind a text names in the singular or the plural, without regard to case. -/
def ofText? (s : String) : Option Kind :=
  let token := Text.lower (Text.strip s)
  all.find? fun k => token == k.label || token == k.stem || token == k.word

def ofLabel? (s : String) : Option Kind := all.find? (·.label == s)

theorem ofLabel?_label (k : Kind) : ofLabel? k.label = some k := by
  cases k <;> decide

theorem label_inj {a b : Kind} (h : a.label = b.label) : a = b := by
  have found := ofLabel?_label a
  rw [h, ofLabel?_label] at found
  exact (Option.some.inj found).symm

end Kind

namespace Name

def dropExtension (cs : List Char) : List Char :=
  match cs.reverse with
  | d :: m :: '.' :: rest =>
    if (d == 'd' || d == 'D') && (m == 'm' || m == 'M') then rest.reverse else cs
  | _ => cs

def hyphenated (c : Char) : Char := if Text.isBlank c || c == '_' then '-' else c

def squeeze : List Char → List Char
  | '-' :: '-' :: cs => squeeze ('-' :: cs)
  | c :: cs => c :: squeeze cs
  | [] => []

def normalizeChars (cs : List Char) : List Char :=
  let body := Text.lowerChars (dropExtension (Text.trim Text.isBlank cs))
  Text.trim (· == '-') (squeeze (body.map hyphenated))

def normalize (s : String) : String := String.ofList (normalizeChars s.toList)

end Name

structure Key where
  kind : Kind
  name : String
  deriving DecidableEq, Repr, Inhabited

namespace Key

def of (kind : Kind) (name : String) : Key := ⟨kind, Name.normalize name⟩

def filename (k : Key) : String := k.name ++ ".md"

def path (k : Key) : String := k.kind.label ++ "/" ++ k.filename

def label (k : Key) : String := k.kind.label ++ "/" ++ k.name

def le (a b : Key) : Bool :=
  a.kind.label < b.kind.label || (a.kind.label == b.kind.label && Text.le a.name b.name)

end Key

def nameOfValue : Value → Except Failure String
  | .text s => .ok s
  | v => if v.isGiven then .error .unsuited else .ok ""

def Kind.ofText (s : String) : Except Failure Kind :=
  match Kind.ofText? s with
  | some k => .ok k
  | none => .error (.unknownKind s)

def Kind.ofValue : Value → Except Failure Kind
  | .text s => Kind.ofText s
  | _ => .error .unsuited

def Key.ofValues (kind name : Value) : Except Failure Key := do
  let kind ← Kind.ofValue kind
  let name ← nameOfValue name
  .ok (Key.of kind name)

end TriStore
