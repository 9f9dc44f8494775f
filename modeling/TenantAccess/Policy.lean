import TenantAccess.SiteTrees

/-!
# Data access policies

What one statement may see.  A policy is derived anew for each statement from what surrounds it, and
is enforced by settings of the session: a bypass turns row policies off; otherwise every input of
the row policies is set, so that none is left over from a statement before.
-/

namespace TenantAccess

/-- The inputs of row policies. -/
structure PolicyInputs where
  clientId : Option ClientId
  siteId : Option SiteId
  allowedSites : VisibleSites
  scope : Scope
deriving DecidableEq, Inhabited

/-- What a statement may see. -/
inductive DataAccessPolicy where
  /-- Everything, for a reason. -/
  | bypass (reason : String)
  /-- What the row policies allow. -/
  | restricted (inputs : PolicyInputs)
deriving DecidableEq, Inhabited

namespace DataAccessPolicy

/-- Row policies are off. -/
def isBypass : DataAccessPolicy → Bool
  | bypass _ => true
  | restricted _ => false

/-- The client that writes under the policy belong to. -/
def clientId? : DataAccessPolicy → Option ClientId
  | bypass _ => none
  | restricted inputs => inputs.clientId

/-- The settings that enforce the policy. -/
def settings : DataAccessPolicy → List Setting
  | bypass _ => [⟨"app.bypass_rls", "on"⟩]
  | restricted inputs => [
    ⟨"app.bypass_rls", "off"⟩,
    ⟨"app.current_client_id", (inputs.clientId.map Id.text).getD ""⟩,
    ⟨"app.current_site_id", (inputs.siteId.map Id.text).getD ""⟩,
    ⟨"app.allowed_site_ids", inputs.allowedSites.setting⟩,
    ⟨"app.current_scope", inputs.scope.text⟩]

/-- The policy as a document. -/
def toJson (policy : DataAccessPolicy) : Json :=
  let shown : Json := match policy with
    | bypass reason => .object [("bypass", .string reason)]
    | restricted inputs => .object [("scoped", .object [
      ("client_id", .ofOption Id.toJson inputs.clientId),
      ("site_id", .ofOption Id.toJson inputs.siteId),
      ("allowed_sites", inputs.allowedSites.toJson),
      ("scope", inputs.scope.toJson)])]
  .object [
    ("policy", shown),
    ("is_bypass", .bool policy.isBypass),
    ("client_id", .ofOption Id.toJson policy.clientId?),
    ("settings", .array (policy.settings.map Setting.toJson))]

end DataAccessPolicy

/-- Why data could not be accessed. -/
inductive DataAccessError where
  /-- A statement outside of any unit of work, or before its grant was resolved. -/
  | policyInputsRequired
  /-- The visible sites are not known. -/
  | sites (error : SiteTreeError)
  /-- The database refused. -/
  | session (error : SessionError)
deriving DecidableEq

namespace DataAccessError

/-- The error as a message. -/
def message : DataAccessError → String
  | policyInputsRequired => "data access policy inputs required when not bypassing"
  | sites error => error.message
  | session error => error.message

end DataAccessError

namespace DataAccessPolicy

variable {σ : Type}

/-- The policy of a grant. -/
def ofGrant (platform : Platform σ) (grant : EffectiveGrant) :
    Task σ DataAccessError DataAccessPolicy := do
  let allowedSites ← ExceptT.adapt .sites (SiteTrees.visibleTo platform grant)
  pure (.restricted ⟨grant.clientId, grant.siteId, allowedSites, grant.scope⟩)

/-- The policy of what surrounds the running code: the innermost bypass, else that of a job, else
that of the grant of the unit of work. -/
def current (platform : Platform σ) : Task σ DataAccessError DataAccessPolicy := do
  let around := (← get).around
  match around.bypass, around.work with
  | some reason, _ => pure (bypass reason)
  | none, none => throw .policyInputsRequired
  | none, some work =>
    match work.mode, work.grant with
    | .scheduled job, _ => pure (bypass (scheduledReason job))
    | .interactive, some grant => ofGrant platform grant
    | .interactive, none => throw .policyInputsRequired

end DataAccessPolicy
end TenantAccess
