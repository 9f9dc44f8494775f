import TenantAccess.CapabilitySet
import TenantAccess.Scope
import TenantAccess.Tenancy
import TenantAccess.Timestamp

/-!
# Grants

A membership gives a principal a role in a client, possibly only at one of its sites.  The
memberships that apply to a request are reduced to one effective grant: the broadest scope among
them, held by the first membership that has it, and the capabilities of all of them.
-/

namespace TenantAccess

/-- The role a grant is attributed to. -/
inductive GrantRole where
  /-- A role of the membership tables. -/
  | stored (id : RoleId)
  /-- No stored role: the grant was made up for one request. -/
  | ephemeral
deriving DecidableEq, Inhabited

namespace GrantRole

/-- The word that stands for a grant without a stored role. -/
def ephemeralMark : String := "ephemeral"

/-- The written form. -/
def text : GrantRole → String
  | stored id => id.text
  | ephemeral => ephemeralMark

/-- The stored role, if there is one. -/
def roleId? : GrantRole → Option RoleId
  | stored id => some id
  | ephemeral => none

/-- There is no stored role. -/
def isEphemeral : GrantRole → Bool
  | stored _ => false
  | ephemeral => true

/-- A role in a document: the mark, exactly, or an identifier that blanks may surround. -/
def decode : Decoder GrantRole := fun document => do
  let s ← Decoder.text document
  if s = ephemeralMark then pure ephemeral
  else match Id.parse s with
    | .ok id => pure (stored id)
    | .error _ => failure

/-- The role as a document. -/
def toJson (role : GrantRole) : Json := .string role.text

end GrantRole

/-- One membership of a principal. -/
structure RoleGrantRecord where
  membershipId : MembershipId
  clientId : ClientId
  /-- The site the role is held at; nothing when it is held for the client. -/
  siteId : Option SiteId
  roleId : RoleId
  roleName : String
  scope : Scope
  capabilities : CapabilitySet
  isPrimary : Bool
  createdAt : Timestamp
deriving DecidableEq, Inhabited

namespace RoleGrantRecord

/-- A membership in a document. -/
def decode : Decoder RoleGrantRecord := fun document => do
  let record ← Record.ofJson
    ["membership_id", "client_id", "site_id", "role_id", "role_name", "scope", "capabilities",
      "is_primary", "created_at"] document
  let membershipId ← record.required "membership_id" Id.decode
  let clientId ← record.required "client_id" Id.decode
  let siteId ← record.optional "site_id" Id.decode
  let roleId ← record.required "role_id" Id.decode
  let roleName ← record.required "role_name" Decoder.text
  let scope ← record.required "scope" Scope.decode
  let capabilities ← record.required "capabilities" CapabilitySet.decode
  let isPrimary ← record.required "is_primary" Decoder.bool
  let createdAt ← record.required "created_at" fun document => do
    Decoder.ofOption (Timestamp.ofText? (← Decoder.text document))
  pure { membershipId, clientId, siteId, roleId, roleName, scope, capabilities, isPrimary,
         createdAt }

/-- The membership as a document. -/
def toJson (record : RoleGrantRecord) : Json := .object [
  ("membership_id", record.membershipId.toJson),
  ("client_id", record.clientId.toJson),
  ("site_id", .ofOption Id.toJson record.siteId),
  ("role_id", record.roleId.toJson),
  ("role_name", .string record.roleName),
  ("scope", record.scope.toJson),
  ("capabilities", record.capabilities.toJson),
  ("is_primary", .bool record.isPrimary),
  ("created_at", .string record.createdAt.text)]

end RoleGrantRecord

/-- The access a principal has in one unit of work. -/
structure EffectiveGrant where
  scope : Scope
  capabilities : CapabilitySet
  clientId : Option ClientId
  siteId : Option SiteId
  role : GrantRole
deriving DecidableEq, Inhabited

namespace EffectiveGrant

/-- The grant made up for an escalation: everything, in the given tenant. -/
def ephemeral (clientId : Option ClientId) (siteId : Option SiteId) : EffectiveGrant :=
  ⟨.system, .full, clientId, siteId, .ephemeral⟩

/-- The grant was made up for one request. -/
def isEphemeral (grant : EffectiveGrant) : Bool := grant.role.isEphemeral

/-- The grant allows something. -/
def can (grant : EffectiveGrant) (c : Capability) : Bool := grant.capabilities.has c

/-- The grant of one membership. -/
def ofRecord (record : RoleGrantRecord) : EffectiveGrant where
  scope := record.scope
  capabilities := record.capabilities
  clientId := some record.clientId
  siteId := record.siteId
  role := .stored record.roleId

/-- The grant with one more membership taken into account: a strictly broader one takes its place,
and its capabilities are added in any case. -/
def widen (grant : EffectiveGrant) (record : RoleGrantRecord) : EffectiveGrant :=
  let capabilities := grant.capabilities.union record.capabilities
  if record.scope.broader grant.scope then { ofRecord record with capabilities }
  else { grant with capabilities }

/-- The grant of several memberships; none when there are none. -/
def reduce? : List RoleGrantRecord → Option EffectiveGrant
  | [] => none
  | first :: rest => some (rest.foldl widen (ofRecord first))

/-- The message for a reduction of no memberships. -/
def emptyMessage : String := "cannot reduce an empty set of role grants"

/-- A grant in a document. -/
def decode : Decoder EffectiveGrant := fun document => do
  let record ← Record.ofJson ["scope", "capabilities", "client_id", "site_id", "role"] document
  let scope ← record.required "scope" Scope.decode
  let capabilities ← record.required "capabilities" CapabilitySet.decode
  let clientId ← record.optional "client_id" Id.decode
  let siteId ← record.optional "site_id" Id.decode
  let role ← record.required "role" GrantRole.decode
  pure { scope, capabilities, clientId, siteId, role }

/-- The grant as a document. -/
def toJson (grant : EffectiveGrant) : Json := .object [
  ("scope", grant.scope.toJson),
  ("capabilities", grant.capabilities.toJson),
  ("client_id", .ofOption Id.toJson grant.clientId),
  ("site_id", .ofOption Id.toJson grant.siteId),
  ("role", grant.role.toJson)]

end EffectiveGrant
end TenantAccess
