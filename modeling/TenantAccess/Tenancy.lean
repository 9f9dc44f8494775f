import TenantAccess.Identifier
import TenantAccess.Text.Ascii

/-!
# Tenants

A client is a tenant and a site is a part of one.  Both have a status that decides whether they can
be worked in.  A caller asks for a tenant and states an intent: only an intent other than the normal
one can lead to escalated access.
-/

namespace TenantAccess

/-- Whether a client can be worked in. -/
inductive ClientStatus where
  | active
  | legacy
  | pending
  | inactive
  | suspended
deriving DecidableEq, Repr, Inhabited

namespace ClientStatus

/-- Every status of a client. -/
def all : List ClientStatus := [active, legacy, pending, inactive, suspended]

/-- The written form. -/
def text : ClientStatus → String
  | active => "ACTIVE"
  | legacy => "LEGACY"
  | pending => "PENDING"
  | inactive => "INACTIVE"
  | suspended => "SUSPENDED"

/-- The name shown in messages. -/
def label : ClientStatus → String
  | active => "Active"
  | legacy => "Legacy"
  | pending => "Pending"
  | inactive => "Inactive"
  | suspended => "Suspended"

/-- The client can be worked in; a client kept from an older system still can. -/
def isActive : ClientStatus → Bool
  | active | legacy => true
  | _ => false

/-- Read a status; blanks around it and the case of ASCII letters do not matter. -/
def parse (s : String) : Except DomainError ClientStatus :=
  let wanted := Text.asciiUpper (Text.trim s)
  match all.find? (·.text == wanted) with
  | some status => .ok status
  | none => .error (.validation ("unknown client status '" ++ wanted ++ "'"))

/-- A status in a document is its written form. -/
def decode : Decoder ClientStatus := Decoder.oneOf (all.map fun status => (status.text, status))

/-- The status as a document. -/
def toJson (status : ClientStatus) : Json := .string status.text

end ClientStatus

/-- Whether a site can be worked in. -/
inductive SiteStatus where
  | active
  | inactive
  | archived
deriving DecidableEq, Repr, Inhabited

namespace SiteStatus

/-- Every status of a site. -/
def all : List SiteStatus := [active, inactive, archived]

/-- The written form. -/
def text : SiteStatus → String
  | active => "ACTIVE"
  | inactive => "INACTIVE"
  | archived => "ARCHIVED"

/-- The name shown in messages. -/
def label : SiteStatus → String
  | active => "Active"
  | inactive => "Inactive"
  | archived => "Archived"

/-- The site can be worked in. -/
def isActive : SiteStatus → Bool
  | active => true
  | _ => false

/-- Read a status; blanks around it and the case of ASCII letters do not matter. -/
def parse (s : String) : Except DomainError SiteStatus :=
  let wanted := Text.asciiUpper (Text.trim s)
  match all.find? (·.text == wanted) with
  | some status => .ok status
  | none => .error (.validation ("unknown site status '" ++ wanted ++ "'"))

/-- A status in a document is its written form. -/
def decode : Decoder SiteStatus := Decoder.oneOf (all.map fun status => (status.text, status))

/-- The status as a document. -/
def toJson (status : SiteStatus) : Json := .string status.text

end SiteStatus

/-- How much access a caller asks for. -/
inductive AccessIntent where
  | normal
  | elevated
  | system
deriving DecidableEq, Repr, Inhabited

namespace AccessIntent

/-- Every intent. -/
def all : List AccessIntent := [normal, elevated, system]

/-- The written form. -/
def text : AccessIntent → String
  | normal => "normal"
  | elevated => "elevated"
  | system => "system"

instance : ToString AccessIntent := ⟨text⟩

/-- Read an intent; blanks around it and the case of ASCII letters do not matter, and a blank text
is the normal intent. -/
def parse (s : String) : Except DomainError AccessIntent :=
  let wanted := Text.asciiLower (Text.trim s)
  if wanted = "" then .ok normal
  else match all.find? (·.text == wanted) with
    | some intent => .ok intent
    | none => .error (.validation ("unknown access intent '" ++ wanted ++ "'"))

/-- An intent in a document is its written form. -/
def decode : Decoder AccessIntent := Decoder.oneOf (all.map fun intent => (intent.text, intent))

/-- The intent as a document. -/
def toJson (intent : AccessIntent) : Json := .string intent.text

end AccessIntent

/-- The tenant a caller asks for. -/
structure RequestedTenant where
  clientId : Option ClientId
  siteId : Option SiteId
  intent : AccessIntent
deriving DecidableEq, Inhabited

namespace RequestedTenant

/-- No tenant named: the principal's own default, with the normal intent. -/
def default : RequestedTenant := ⟨none, none, .normal⟩

/-- A client is named. -/
def isExplicit (requested : RequestedTenant) : Bool := requested.clientId.isSome

/-- A request in a document. -/
def decode : Decoder RequestedTenant := fun document => do
  let record ← Record.ofJson ["client_id", "site_id", "intent"] document
  let clientId ← record.optional "client_id" Id.decode
  let siteId ← record.optional "site_id" Id.decode
  let intent ← record.required "intent" AccessIntent.decode
  pure ⟨clientId, siteId, intent⟩

/-- The request as a document. -/
def toJson (requested : RequestedTenant) : Json := .object [
  ("client_id", .ofOption Id.toJson requested.clientId),
  ("site_id", .ofOption Id.toJson requested.siteId),
  ("intent", requested.intent.toJson)]

end RequestedTenant
end TenantAccess
