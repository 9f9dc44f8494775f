import TenantAccess.Grant
import TenantAccess.Principal

/-!
# Units of work

A unit of work is one request of a principal or one run of a background job.  It carries who acts,
the tenant asked for, the grant once it has been resolved, and where the request came from.  Code
runs in surroundings: the innermost unit of work and the reason of the innermost bypass, each of
which may be missing.
-/

namespace TenantAccess

/-- What drives a unit of work. -/
inductive ExecutionMode where
  /-- A request of an authenticated principal. -/
  | interactive
  /-- A background job, which has no principal and works without row policies. -/
  | scheduled (job : String)
deriving DecidableEq, Repr, Inhabited

/-- Where a request came from. -/
structure RequestMetadata where
  requestId : Option Uuid := none
  clientIp : Option String := none
  userAgent : Option String := none
  requestedView : Option String := none
deriving DecidableEq, Inhabited

/-- One request or one run of a job. -/
structure UnitOfWork where
  principal : Option Principal
  requested : RequestedTenant
  /-- The resolved grant; it is set at most once. -/
  grant : Option EffectiveGrant
  mode : ExecutionMode
  metadata : RequestMetadata
deriving DecidableEq, Inhabited

namespace UnitOfWork

/-- A request, before its grant is resolved. -/
def interactive (principal : Principal) (requested : RequestedTenant)
    (metadata : RequestMetadata) : UnitOfWork :=
  ⟨some principal, requested, none, .interactive, metadata⟩

/-- A run of a background job. -/
def scheduled (job : String) : UnitOfWork :=
  ⟨none, .default, none, .scheduled job, {}⟩

/-- The unit of work is a run of a job. -/
def isScheduled (work : UnitOfWork) : Bool :=
  match work.mode with
  | .interactive => false
  | .scheduled _ => true

/-- Attach the resolved grant; nothing when there is one already. -/
def withGrant? (work : UnitOfWork) (grant : EffectiveGrant) : Option UnitOfWork :=
  match work.grant with
  | some _ => none
  | none => some { work with grant := some grant }

/-- The message for a second grant. -/
def grantAlreadySetMessage : String := "access grant already resolved for this unit of work"

end UnitOfWork

/-- The reason under which a job works without row policies. -/
def scheduledReason (job : String) : String := "scheduled job " ++ job

/-- What surrounds running code. -/
structure Surroundings where
  /-- The innermost unit of work. -/
  work : Option UnitOfWork := none
  /-- The reason of the innermost bypass. -/
  bypass : Option String := none
deriving DecidableEq, Inhabited

namespace Surroundings

/-- The principal of the innermost unit of work. -/
def principal (around : Surroundings) : Option Principal := around.work.bind (·.principal)

/-- The grant of the innermost unit of work. -/
def grant (around : Surroundings) : Option EffectiveGrant := around.work.bind (·.grant)

/-- The name of the principal of the innermost unit of work. -/
def actor (around : Surroundings) : Option IdpId := around.principal.map (·.idpId)

end Surroundings
end TenantAccess
