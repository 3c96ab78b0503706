import TriStore.Number.Quantity
import TriStore.Value.Text

/-!
The settings of a portfolio: where its stores are, how large its caches may grow and what a sync may
do.
-/
namespace TriStore

structure RepositorySettings where
  owner : String := ""
  repository : String := "folio-portfolio"
  branch : String := "main"
  apiUrl : String := "https://api.github.com"
  deriving DecidableEq, Repr, Inhabited

structure RegistrySettings where
  indexUrl : String :=
    "https://raw.githubusercontent.com/folio-community/collection/main/public/collection-index.json"
  rawBaseUrl : String := "https://raw.githubusercontent.com/folio-community/collection/main"
  deriving DecidableEq, Repr, Inhabited

structure CacheSettings where
  maxEntries : Quantity := .whole 100
  maxMemoryMb : Quantity := .whole 10
  ttlSeconds : Quantity := .whole 300
  deriving DecidableEq, Repr, Inhabited

structure SyncSettings where
  enabled : Bool := true
  bulkDownload : Bool := true
  bulkUpload : Bool := true
  requireConfirmation : Bool := true
  scanForSecrets : Bool := true
  deriving DecidableEq, Repr, Inhabited

structure Settings where
  portfolioDir : String := ""
  repository : RepositorySettings := {}
  registry : RegistrySettings := {}
  cache : CacheSettings := {}
  sync : SyncSettings := {}
  backendTimeout : Binary64 := Binary64.ofInt 10
  deriving DecidableEq, Repr, Inhabited

namespace Settings

/-- Reading collects the faults it meets, and fails where a fault cannot be put into words. -/
abbrev Reading := StateT (List String) (Except Failure)

def report (fault : String) (v : Value) : Reading Unit := do
  v.checkWritable
  modify (· ++ [fault ++ v.literal])

structure Part where
  name : String
  fields : Value

/-- The value of a key when it is there and of the right kind; a wrong one is reported. -/
def Part.read {α : Type} (p : Part) (key : String) (kind : Value → Option α) (otherwise : α) : Reading α :=
  match p.fields.field? key with
  | none => pure otherwise
  | some v =>
    match kind v with
    | some a => pure a
    | none => do
      report (p.name ++ "." ++ key ++ " has invalid value ") v
      pure otherwise

def text? : Value → Option String
  | .text s => some s
  | _ => none

def switch? : Value → Option Bool
  | .bool b => some b
  | _ => none

def positive? : Value → Option Quantity
  | .bool _ => none
  | v => (Quantity.ofValue? v).bind fun q =>
    if (Magnitude.value 0).lt q.magnitude then some q else none

def part (doc : Value) (name : String) : Reading Part :=
  match doc.field? name with
  | none | some .null => pure ⟨name, .map []⟩
  | some (.map kvs) => pure ⟨name, (Value.map kvs).opened⟩
  | some _ => do
    modify (· ++ ["'" ++ name ++ "' must be a mapping"])
    pure ⟨name, .map []⟩

def readRepository (doc : Value) : Reading RepositorySettings := do
  let p ← part doc "github"
  let d : RepositorySettings := {}
  return {
    owner := ← p.read "owner" text? d.owner
    repository := ← p.read "repository" text? d.repository
    branch := ← p.read "branch" text? d.branch
    apiUrl := ← p.read "api_url" text? d.apiUrl }

def readRegistry (doc : Value) : Reading RegistrySettings := do
  let p ← part doc "registry"
  let d : RegistrySettings := {}
  return {
    indexUrl := ← p.read "index_url" text? d.indexUrl
    rawBaseUrl := ← p.read "raw_base_url" text? d.rawBaseUrl }

def readCache (doc : Value) : Reading CacheSettings := do
  let p ← part doc "cache"
  let d : CacheSettings := {}
  return {
    maxEntries := ← p.read "max_entries" positive? d.maxEntries
    maxMemoryMb := ← p.read "max_memory_mb" positive? d.maxMemoryMb
    ttlSeconds := ← p.read "ttl_seconds" positive? d.ttlSeconds }

def readSync (doc : Value) : Reading SyncSettings := do
  let p ← part doc "sync"
  let d : SyncSettings := {}
  return {
    enabled := ← p.read "enabled" switch? d.enabled
    bulkDownload := ← p.read "bulk_download_enabled" switch? d.bulkDownload
    bulkUpload := ← p.read "bulk_upload_enabled" switch? d.bulkUpload
    requireConfirmation := ← p.read "require_confirmation" switch? d.requireConfirmation
    scanForSecrets := ← p.read "scan_for_secrets" switch? d.scanForSecrets }

/-- A number as a fraction of 64 bits; a whole number may be too great for one. -/
def realOf : Quantity → Except Failure Binary64
  | .real x => .ok x
  | .truth b => .ok (Binary64.ofInt (if b then 1 else 0))
  | .whole n =>
    match Binary64.ofInt n with
    | .infinite _ => .error .overflow
    | x => .ok x

/-- The timeout is a number that is not zero or less; nothing is said of an undefined one. -/
def timeout? : Value → Option Quantity
  | .bool _ => none
  | v => (Quantity.ofValue? v).bind fun q => if q.magnitude.le (0 : Nat) then none else some q

def readTimeout (doc : Value) : Reading Binary64 := do
  let otherwise : Binary64 := Binary64.ofInt 10
  match doc.field? "backend_timeout_seconds" with
  | none => return otherwise
  | some v =>
    match timeout? v with
    | some q => realOf q
    | none =>
      report "backend_timeout_seconds must be a positive number, got " v
      return otherwise

def readFolder (doc : Value) : Except Failure String :=
  match doc.field? "portfolio_dir" with
  | some v => if v.isGiven then v.written else .ok ""
  | none => .ok ""

def readAll (doc : Value) : Reading Settings := do
  let portfolioDir ← readFolder doc
  let repository ← readRepository doc
  let registry ← readRegistry doc
  let cache ← readCache doc
  let sync ← readSync doc
  let backendTimeout ← readTimeout doc
  return { portfolioDir, repository, registry, cache, sync, backendTimeout }

def ofValue (doc : Value) : Except Failure Settings := do
  let .map _ := doc | throw .unsuited
  let (settings, faults) ← (readAll doc).run []
  if faults.isEmpty then return settings else throw (.configuration "Invalid settings" faults)

def toValue (s : Settings) : Value :=
  .record [
    ("portfolio_dir", .text s.portfolioDir),
    ("github", .record [
      ("owner", .text s.repository.owner), ("repository", .text s.repository.repository),
      ("branch", .text s.repository.branch), ("api_url", .text s.repository.apiUrl)]),
    ("registry", .record [
      ("index_url", .text s.registry.indexUrl), ("raw_base_url", .text s.registry.rawBaseUrl)]),
    ("cache", .record [
      ("max_entries", s.cache.maxEntries.toValue), ("max_memory_mb", s.cache.maxMemoryMb.toValue),
      ("ttl_seconds", s.cache.ttlSeconds.toValue)]),
    ("sync", .record [
      ("enabled", .bool s.sync.enabled), ("bulk_download_enabled", .bool s.sync.bulkDownload),
      ("bulk_upload_enabled", .bool s.sync.bulkUpload),
      ("require_confirmation", .bool s.sync.requireConfirmation),
      ("scan_for_secrets", .bool s.sync.scanForSecrets)]),
    ("backend_timeout_seconds", .float s.backendTimeout)]

end Settings

end TriStore
