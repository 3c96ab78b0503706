import TriStore.Calendar.Basic
import TriStore.Number.Written
import TriStore.Source
import TriStore.Text.Quoted

/-!
Why an operation fails. Every cause carries what its message needs; the wording is in one place.
-/
namespace TriStore

inductive FileFault where
  | absent
  | occupied
  | isFolder
  | notFolder
  | notEmpty
  | nameTooLong
  | busy
  deriving DecidableEq, Repr, Inhabited

def FileFault.number : FileFault → Nat
  | .absent => 2
  | .occupied => 17
  | .isFolder => 21
  | .notFolder => 20
  | .notEmpty => 39
  | .nameTooLong => 36
  | .busy => 16

def FileFault.reason : FileFault → String
  | .absent => "No such file or directory"
  | .occupied => "File exists"
  | .isFolder => "Is a directory"
  | .notFolder => "Not a directory"
  | .notEmpty => "Directory not empty"
  | .nameTooLong => "File name too long"
  | .busy => "Device or resource busy"

inductive Choice where
  | direction
  | mode
  | sorting
  | source
  | operation
  deriving DecidableEq, Repr, Inhabited

def Choice.name : Choice → String
  | .direction => "SyncDirection"
  | .mode => "SyncMode"
  | .sorting => "SortBy"
  | .source => "BackendSource"
  | .operation => "ElementOperation"

inductive LabelFault where
  | malformed
  | character
  | context
  | direction
  deriving DecidableEq, Repr, Inhabited

def LabelFault.message : LabelFault → String
  | .malformed => "malformed label"
  | .character => "character that stands in no label"
  | .context => "character beside the wrong neighbours"
  | .direction => "directions that do not go together"

inductive TemplateFault where
  | open
  | stray
  | single
  | nested
  | conversion
  | afterConversion
  | unmatched
  | positional
  | tooManyDigits
  | emptyStep
  | openKey
  | afterKey
  | unknownConversion (point : Nat)
  | tooDeep
  | tooFine
  deriving DecidableEq, Repr, Inhabited

def TemplateFault.message : TemplateFault → String
  | .open => "expected '\x7d' before end of string"
  | .stray => "Single '\x7d' encountered in format string"
  | .single => "Single '\x7b' encountered in format string"
  | .nested => "unexpected '\x7b' in field name"
  | .conversion => "end of string while looking for conversion specifier"
  | .afterConversion => "expected ':' after conversion specifier"
  | .unmatched => "unmatched '\x7b' in format spec"
  | .positional => "Format string contains positional fields"
  | .tooManyDigits => "Too many decimal digits in format string"
  | .emptyStep => "Empty attribute in format string"
  | .openKey => "Missing ']' in format string"
  | .afterKey => "Only '.' or '[' may follow ']' in format field specifier"
  | .unknownConversion n =>
    "Unknown conversion specifier " ++
      (if 32 < n && n < 127 then String.ofList [Char.ofNat n]
      else "\\x" ++ String.ofList (Nat.toDigits 16 n))
  | .tooDeep => "Max string recursion exceeded"
  | .tooFine =>
    "Invalid time format: the provided format string contains more than six successive 'S' " ++
      "characters. This may be due to an attempt to use nanosecond precision, which is not supported."

def digitsMessage (count : Option Nat) : String :=
  "Exceeds the limit (" ++ Text.ofNat maxDigits ++ " digits) for integer string conversion" ++
    (match count with
      | some n => ": value has " ++ Text.ofNat n ++ " digits"
      | none => "") ++
    "; use sys.set_int_max_str_digits() to increase the limit"

inductive Failure where
  /-- A policy or a settings document that cannot be used. -/
  | configuration (message : String) (details : List String)
  | unavailable (source : Source) (reason : String)
  | notFound (query : String) (place : String)
  | ambiguous (query : String) (candidates : List String)
  | conflict (key : String) (reason : String)
  | lockTimeout (path : String) (seconds : Rat)
  | rejected (message : String)
  | syncDisabled (message : String)
  | readOnly (source : Source)
  | unknownKind (text : String)
  | unknownChoice (choice : Choice) (quoted : String)
  | tooFewEntries
  | tooLittleMemory
  | badDate (cause : DateError)
  | badNumber (message : String)
  /-- A whole number too long to be read or written; its digits are counted when it was read. -/
  | tooManyDigits (count : Option Nat)
  | noCharacter
  | nulInPath
  | nulInLabel
  | noName (path : String)
  | negativeWait
  | undefinedWait
  | negativePause
  /-- No failure of the program: it waits, and never answers. -/
  | endless
  | outside (path folder : String)
  | noScheme (address : String)
  | badTemplate (cause : TemplateFault)
  | file (fault : FileFault) (path : String) (second : Option String)
  | system (message : String)
  | broken (message : String)
  | undecodable (cause : Text.Undecodable)
  | unencodable
  | unreadable
  | irreplaceable
  | tooDeep
  | missingKey
  | nothingThere
  | unsuited
  | wrongKind
  | overflow
  | badAddress
  | badHost (cause : LabelFault)
  | badBrackets
  | noNumber (text : String)
  deriving DecidableEq, Repr, Inhabited

/-- Why a text that keeps to its grammar has no value. -/
inductive Defect where
  | badDate (cause : DateError)
  | badNumber (message : String)
  | tooManyDigits (count : Option Nat)
  | noCharacter
  | tooDeep
  | missingKey
  | nothingThere
  | unsuited
  | wrongKind
  | overflow
  | undecodable (cause : Text.Undecodable)
  deriving DecidableEq, Repr, Inhabited

def Defect.failure : Defect → Failure
  | .badDate cause => .badDate cause
  | .badNumber message => .badNumber message
  | .tooManyDigits count => .tooManyDigits count
  | .noCharacter => .noCharacter
  | .tooDeep => .tooDeep
  | .missingKey => .missingKey
  | .nothingThere => .nothingThere
  | .unsuited => .unsuited
  | .wrongKind => .wrongKind
  | .overflow => .overflow
  | .undecodable cause => .undecodable cause

def Failure.message : Failure → String
  | .configuration message _ => message
  | .unavailable source reason => source.label ++ " backend unavailable: " ++ reason
  | .notFound query place =>
    "No element matching '" ++ query ++ "' found" ++ (if place.isEmpty then "" else " in " ++ place)
  | .ambiguous query candidates =>
    "'" ++ query ++ "' matches " ++ Text.ofNat candidates.length ++ " elements: " ++
      Text.join ", " candidates ++ ". Use the full name to pick one."
  | .conflict key reason => "Conflict on " ++ key ++ ": " ++ reason
  | .lockTimeout path seconds =>
    "Timed out after " ++ fixed 1 seconds ++ "s waiting for lock on " ++ path
  | .rejected message => message
  | .syncDisabled message => message
  | .readOnly source => source.title ++ " is read-only"
  | .unknownKind text =>
    "Unknown element type: " ++ text ++
      ". Valid types: personas, skills, templates, agents, memories, ensembles"
  | .unknownChoice choice quoted => quoted ++ " is not a valid " ++ choice.name
  | .tooFewEntries => "max_entries must be at least 1"
  | .tooLittleMemory => "max_memory_bytes must be positive"
  | .badDate cause => cause.message
  | .badNumber message => message
  | .tooManyDigits count => digitsMessage count
  | .noCharacter => "chr() arg not in range(0x110000)"
  | .nulInPath => "embedded null byte"
  | .nulInLabel => "embedded null character"
  | .noName path => "PosixPath(" ++ Text.quoted path ++ ") has an empty name"
  | .negativeWait => "timeout value must be positive"
  | .undefinedWait => "Invalid value NaN (not a number)"
  | .endless => "wait without end"
  | .negativePause => "sleep length must be non-negative"
  | .outside path folder =>
    Text.quoted path ++ " is not in the subpath of " ++ Text.quoted folder ++
      " OR one path is relative and the other is absolute."
  | .noScheme address => "unknown url type: " ++ Text.quoted address
  | .badTemplate cause => cause.message
  | .file fault path second =>
    "[Errno " ++ Text.ofNat fault.number ++ "] " ++ fault.reason ++ ": " ++ Text.quoted path ++
      (match second with
        | none => ""
        | some other => " -> " ++ Text.quoted other)
  | .system message => message
  | .broken message => message
  | .undecodable cause => cause.message
  | .unencodable => "text that cannot be encoded"
  | .unreadable => "text that cannot be read"
  | .irreplaceable => "encoding without replacements"
  | .tooDeep => "value nested too deep"
  | .missingKey => "missing key"
  | .nothingThere => "nothing to choose from"
  | .unsuited => "unsuited value"
  | .wrongKind => "value of the wrong kind"
  | .overflow => "number out of range"
  | .badAddress => "no address of the web"
  | .badHost cause => cause.message
  | .badBrackets => "Invalid IPv6 URL"
  | .noNumber text => Text.quoted text ++ " does not appear to be an IPv4 or IPv6 address"

end TriStore
