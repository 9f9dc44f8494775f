import TenantAccess.Tenancy

/-!
# The audit trail

Every escalation of access and every entry into work without row policies leaves an entry.
-/

namespace TenantAccess

/-- An entry of the audit trail. -/
inductive AuditEntry where
  /-- Data access is about to run with row policies disabled; `operation` is the read of the
  membership store that does it, and `idpId` the principal of the unit of work around. -/
  | policyBypass (reason : String) (operation : Option String) (idpId : Option IdpId)
  /-- A privileged principal works in a client, whatever its memberships there. -/
  | escalation (idpId : IdpId) (client : ClientId) (site : SiteId) (intent : AccessIntent)
  /-- A bootstrap administrator works in a client without a membership there. -/
  | bootstrapEscalation (idpId : IdpId) (client : ClientId)
  /-- A bootstrap administrator without any membership works outside all clients. -/
  | bootstrapEscalationWithoutTenant (idpId : IdpId)
deriving DecidableEq

namespace AuditEntry

/-- The reason under which the membership store reads without row policies. -/
def membershipLookup : String := "membership lookup"

/-- What happened. -/
def message : AuditEntry → String
  | policyBypass .. => "data access policy bypass"
  | escalation .. => "ephemeral access escalation"
  | bootstrapEscalation .. => "bootstrap admin escalation"
  | bootstrapEscalationWithoutTenant .. => "bootstrap admin escalation without tenant"

/-- The entry as a document. -/
def toJson (entry : AuditEntry) : Json :=
  let fields : List (String × Option Json) := match entry with
    | policyBypass reason operation idpId => [
      ("reason", some (.string reason)),
      ("operation", operation.map .string),
      ("idp_id", idpId.map IdpId.toJson)]
    | escalation idpId client site intent => [
      ("idp_id", some idpId.toJson),
      ("client_id", some client.toJson),
      ("site_id", some site.toJson),
      ("intent", some intent.toJson)]
    | bootstrapEscalation idpId client => [
      ("idp_id", some idpId.toJson),
      ("client_id", some client.toJson)]
    | bootstrapEscalationWithoutTenant idpId => [("idp_id", some idpId.toJson)]
  .objectOfSome (fields ++ [("message", some (.string entry.message))])

end AuditEntry
end TenantAccess
