import TenantAccess.Grant

/-!
# Denials

A denial is an expected outcome: it names a reason, the tenant asked for, and the tenant the
principal could have had.  A missing capability is denied apart.
-/

namespace TenantAccess

/-- Why access was denied. -/
inductive DenialReason where
  | noAccessGrant
  | requestDenied
  | clientInactive
  | siteInactive
deriving DecidableEq, Repr, Inhabited

namespace DenialReason

/-- Every reason. -/
def all : List DenialReason := [noAccessGrant, requestDenied, clientInactive, siteInactive]

/-- The written form. -/
def text : DenialReason → String
  | noAccessGrant => "no_access_grant"
  | requestDenied => "access_grant_request_denied"
  | clientInactive => "client_inactive"
  | siteInactive => "site_inactive"

end DenialReason

/-- The tenant a principal lands in by default. -/
structure PrimaryTenant where
  clientId : ClientId
  siteId : Option SiteId
  role : GrantRole
deriving DecidableEq, Inhabited

namespace PrimaryTenant

/-- The tenant of a membership. -/
def ofRecord (record : RoleGrantRecord) : PrimaryTenant :=
  ⟨record.clientId, record.siteId, .stored record.roleId⟩

/-- The tenant as a document. -/
def toJson (primary : PrimaryTenant) : Json := .object [
  ("client_id", primary.clientId.toJson),
  ("site_id", .ofOption Id.toJson primary.siteId),
  ("role", primary.role.toJson)]

end PrimaryTenant

/-- Access denied to a request. -/
structure Denial where
  reason : DenialReason
  message : String
  requestedClient : Option ClientId
  requestedSite : Option SiteId
  /-- The tenant the principal could have had. -/
  primary : Option PrimaryTenant
deriving DecidableEq, Inhabited

namespace Denial

/-- A denial of a request, without a hint at another tenant. -/
def ofRequest (reason : DenialReason) (message : String) (requested : RequestedTenant) : Denial :=
  ⟨reason, message, requested.clientId, requested.siteId, none⟩

/-- The denial with the given hint in place of the one before. -/
def withPrimary (denial : Denial) (primary : Option PrimaryTenant) : Denial :=
  { denial with primary }

/-- The denial as one line. -/
def display (denial : Denial) : String := denial.reason.text ++ ": " ++ denial.message

/-- The denial as a document, in which an absent hint has no field. -/
def toJson (denial : Denial) : Json := .objectOfSome [
  ("reason", some (.string denial.reason.text)),
  ("message", some (.string denial.message)),
  ("requested_client_id", some (.ofOption Id.toJson denial.requestedClient)),
  ("requested_site_id", some (.ofOption Id.toJson denial.requestedSite)),
  ("primary", denial.primary.map PrimaryTenant.toJson)]

end Denial

/-- A capability that a grant would have needed. -/
structure MissingCapability where
  capability : Capability
deriving DecidableEq, Repr

/-- The lack of a capability as a message. -/
def MissingCapability.message (missing : MissingCapability) : String :=
  "forbidden: missing capability '" ++ missing.capability.name ++ "'"

/-- Check a capability against a grant. -/
def EffectiveGrant.authorize (grant : EffectiveGrant) (required : Capability) :
    Except MissingCapability Unit :=
  if grant.can required then .ok () else .error ⟨required⟩

end TenantAccess
