import TenantAccess.Json.Basic
import TenantAccess.Natural64
import TenantAccess.Text.Ascii
import TenantAccess.Text.Blank
import TenantAccess.Text.Lowercase

/-!
# Configuration

The settings of the access layer, read from named values such as those of a process environment.
A value that is unset or blank takes its default.  Emails of bootstrap administrators are compared
in lower case and without blanks around them.
-/

namespace TenantAccess

/-- The emails of a list in the form in which they are compared, each once; blank ones are left
out. -/
def normalizedEmails (emails : List String) : List String :=
  (emails.filterMap fun email => Text.nonBlank? email |>.map Text.lowercase).eraseDups

/-- The settings of the access layer. -/
structure AccessConfig where
  /-- Seconds a resolved grant is kept. -/
  grantCacheTtl : Nat := 300
  /-- How many resolved grants are kept. -/
  grantCacheCapacity : Nat := 10000
  /-- Seconds the site tree of a client is kept. -/
  siteCacheTtl : Nat := 3600
  /-- Emails, in the form in which they are compared, whose holders may escalate without any
  membership. -/
  bootstrapAdmins : List String := []
  databaseUrl : Option String := none
  redisUrl : Option String := none
deriving DecidableEq, Repr, Inhabited

/-- A named value that its setting does not allow. -/
structure ConfigError where
  key : String
  explanation : String
deriving DecidableEq, Repr

/-- The error as a message. -/
def ConfigError.message (e : ConfigError) : String :=
  "invalid value for " ++ e.key ++ ": " ++ e.explanation

namespace AccessConfig

/-- The settings when nothing is set. -/
def default : AccessConfig := {}

/-- The parts of a list of emails. -/
def emailList (text : String) : List String := normalizedEmails (Text.split ',' text)

/-- Read a number. -/
def number (key : String) (value : Option String) (unset : Nat) : Except ConfigError Nat :=
  match value with
  | none => .ok unset
  | some text =>
    match Natural64.parse text with
    | .ok n => .ok n
    | .error e => .error ⟨key, "'" ++ text ++ "': " ++ e.message⟩

/-- Read the settings from named values. -/
def ofLookup (lookup : String → Option String) : Except ConfigError AccessConfig := do
  let value (key : String) := (lookup key).bind Text.nonBlank?
  let numberOf (key : String) := number key (value key)
  let grantCacheTtl ← numberOf "INSPECTRA_GRANT_CACHE_TTL_SECS" default.grantCacheTtl
  let grantCacheCapacity ← numberOf "INSPECTRA_GRANT_CACHE_CAPACITY" default.grantCacheCapacity
  let siteCacheTtl ← numberOf "INSPECTRA_SITE_CACHE_TTL_SECS" default.siteCacheTtl
  let bootstrapAdmins := ((value "INSPECTRA_BOOTSTRAP_ADMINS").map emailList).getD []
  pure { grantCacheTtl, grantCacheCapacity, siteCacheTtl, bootstrapAdmins,
         databaseUrl := value "DATABASE_URL", redisUrl := value "REDIS_URL" }

/-- The emails of bootstrap administrators in ascending order. -/
def sortedAdmins (config : AccessConfig) : List String :=
  config.bootstrapAdmins.mergeSort fun a b => decide (a ≤ b)

/-- Two configurations hold the same settings; the order of the emails does not matter. -/
def same (a b : AccessConfig) : Bool :=
  { a with bootstrapAdmins := a.sortedAdmins } == { b with bootstrapAdmins := b.sortedAdmins }

/-- The settings as a document. -/
def toJson (config : AccessConfig) : Json := .object [
  ("grant_cache_ttl", .nat config.grantCacheTtl),
  ("grant_cache_capacity", .nat config.grantCacheCapacity),
  ("site_cache_ttl", .nat config.siteCacheTtl),
  ("bootstrap_admins", .strings config.sortedAdmins),
  ("database_url", .ofText? config.databaseUrl),
  ("redis_url", .ofText? config.redisUrl)]

end AccessConfig

/-- How log entries are written. -/
inductive LogFormat where
  | json
  | pretty
deriving DecidableEq, Repr

namespace LogFormat

/-- The format a named value selects: `pretty` in any case of ASCII letters, else JSON. -/
def ofSetting (value : Option String) : LogFormat :=
  match value with
  | some text => if Text.equalIgnoringAsciiCase (Text.trim text) "pretty" then pretty else json
  | none => json

/-- The name of the format. -/
def label : LogFormat → String
  | json => "Json"
  | pretty => "Pretty"

end LogFormat
end TenantAccess
