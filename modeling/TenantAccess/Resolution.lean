import TenantAccess.AccessState
import TenantAccess.Config
import TenantAccess.Denial

/-!
# Resolution of access

A principal and the tenant it asks for are turned into one effective grant, or into a denial.  The
grant is that of the memberships that apply to the request, provided that the client and the site it
is for are active.  Privileged principals can get a grant made up for the request instead: with an
intent to escalate in any client that has a site, and as bootstrap administrators where they hold no
membership.
-/

namespace TenantAccess

/-- Why there is no grant. -/
inductive AccessError where
  /-- The principal may not work in the tenant. -/
  | denied (denial : Denial)
  /-- What is stored is inconsistent. -/
  | internal (explanation : String)
  | store (error : StoreError)
deriving DecidableEq

namespace AccessError

/-- The error as a message. -/
def message : AccessError → String
  | denied denial => denial.display
  | internal explanation => "internal access error: " ++ explanation
  | store error => error.message

/-- The kind of the error. -/
def kind : AccessError → String
  | denied _ => "Denied"
  | internal _ => "Internal"
  | store error => error.kind

/-- The denial, if the error is one. -/
def denial? : AccessError → Option Denial
  | denied denial => some denial
  | _ => none

end AccessError

/-! ## Rules -/

/-- The scope that a membership needs for its holder to escalate with an intent. -/
def AccessIntent.escalationScope? : AccessIntent → Option Scope
  | normal => none
  | elevated => some .global
  | system => some .system

/-- One of the memberships, of whichever client, allows escalation with the intent. -/
def mayEscalate (records : List RoleGrantRecord) (intent : AccessIntent) : Bool :=
  match intent.escalationScope? with
  | none => false
  | some scope => records.any (·.scope.atLeast scope)

/-- The membership as it applies to a client and a site asked for, if it applies. One that is held
for the whole client covers each of its sites and counts as held at the site asked for. -/
def RoleGrantRecord.applied? (record : RoleGrantRecord) (client : ClientId) (site : Option SiteId) :
    Option RoleGrantRecord :=
  if record.clientId ≠ client then none
  else match site, record.siteId with
    | none, _ => some record
    | some wanted, some held => if wanted = held then some record else none
    | some wanted, none =>
      if record.scope.atLeast .client then some { record with siteId := some wanted } else none

/-- The denial of a request that the memberships do not cover, with the first of them as the tenant
the principal could have had. -/
def deniedRequest (records : List RoleGrantRecord) (requested : RequestedTenant)
    (message : String) : AccessError :=
  .denied ((Denial.ofRequest .requestDenied message requested).withPrimary
    (records.head?.map PrimaryTenant.ofRecord))

/-- The email is that of a bootstrap administrator. -/
def isBootstrapAdmin (admins : List String) (principal : Principal) : Bool :=
  admins.contains (Text.lowercase principal.email)

/-! ## Resolving -/

/-- Turns requests of principals into grants. -/
structure AccessResolver (σ : Type) where
  platform : Platform σ
  /-- The emails of bootstrap administrators in the form in which they are compared. -/
  admins : List String

namespace AccessResolver

variable {σ : Type}

/-- The resolver with the listed emails as those of bootstrap administrators. -/
def withAdmins (resolver : AccessResolver σ) (emails : List String) : AccessResolver σ :=
  { resolver with admins := normalizedEmails emails }

/-- The resolver a configuration asks for. -/
def ofConfig (platform : Platform σ) (config : AccessConfig) : AccessResolver σ :=
  withAdmins ⟨platform, []⟩ config.bootstrapAdmins

/-- Read the store. -/
def read {α : Type} (resolver : AccessResolver σ)
    (m : MembershipStore σ → StoreRead σ α) : Task σ AccessError α :=
  ExceptT.adapt .store (Work.read (m resolver.platform.store))

/-- Write an entry to the audit trail. -/
def audit (resolver : AccessResolver σ) (entry : AuditEntry) : Task σ AccessError Unit :=
  monadLift (Work.audit resolver.platform entry)

/-- The site that an escalation is for: the one asked for, else the first of the client. -/
def escalationSite (resolver : AccessResolver σ) (client : ClientId) (site : Option SiteId) :
    Task σ AccessError (Option SiteId) :=
  match site with
  | some site => pure (some site)
  | none => do
    let sites ← resolver.read (·.sitesFor client)
    pure (sites.head?.map (·.id))

/-- Check that the client and the site of a grant are active. Grants above clients are for all of
them, and grants above sites for all sites. -/
def checkActive (resolver : AccessResolver σ) (grant : EffectiveGrant)
    (requested : RequestedTenant) : Task σ AccessError Unit := do
  if grant.scope.atLeast .global then pure ()
  else match grant.clientId with
    | none => throw (.internal "stored grant has no client")
    | some client =>
      match ← resolver.read (·.clientStatus client) with
      | none => throw (.internal ("no status for client " ++ client.text))
      | some status =>
        if !status.isActive then
          let message := "client " ++ client.text ++ " is not active (" ++ status.label ++ ")"
          throw (.denied (.ofRequest .clientInactive message requested))
        else if grant.scope.atLeast .client then pure ()
        else match grant.siteId with
          | none => pure ()
          | some site =>
            match ← resolver.read (·.siteStatus client site) with
            | none => throw (.internal ("no status for site " ++ site.text))
            | some status =>
              if !status.isActive then
                let message := "site " ++ site.text ++ " is not active (" ++ status.label ++ ")"
                throw (.denied (.ofRequest .siteInactive message requested))
              else pure ()

/-- The grant of the memberships that apply to a request, if it is for an active tenant. -/
def reduceActive (resolver : AccessResolver σ) (records : List RoleGrantRecord)
    (requested : RequestedTenant) : Task σ AccessError EffectiveGrant :=
  match EffectiveGrant.reduce? records with
  | none => throw (.internal EffectiveGrant.emptyMessage)
  | some grant => do
    resolver.checkActive grant requested
    pure grant

/-- Resolve a request that names no client. -/
def resolveDefault (resolver : AccessResolver σ) (principal : Principal)
    (records : List RoleGrantRecord) (requested : RequestedTenant) :
    Task σ AccessError EffectiveGrant := do
  if !records.isEmpty then resolver.reduceActive records requested
  else if requested.intent ≠ .normal && isBootstrapAdmin resolver.admins principal then
    resolver.audit (.bootstrapEscalationWithoutTenant principal.idpId)
    pure (.ephemeral none none)
  else
    throw (.denied (.ofRequest .noAccessGrant "principal holds no memberships" requested))

/-- Resolve a request for a client from the memberships that apply to it, or for a bootstrap
administrator without any. -/
def resolveMembership (resolver : AccessResolver σ) (principal : Principal)
    (records : List RoleGrantRecord) (client : ClientId) (requested : RequestedTenant) :
    Task σ AccessError EffectiveGrant := do
  let applying := records.filterMap (·.applied? client requested.siteId)
  if !applying.isEmpty then resolver.reduceActive applying requested
  else if isBootstrapAdmin resolver.admins principal then
    let site ← resolver.escalationSite client requested.siteId
    resolver.audit (.bootstrapEscalation principal.idpId client)
    pure (.ephemeral (some client) site)
  else
    throw (deniedRequest records requested "no membership matches the requested client or site")

/-- Resolve a request for a client whose site, if it names one, is known to be the client's:
escalate where the intent and the memberships allow it and there is a site to escalate in. -/
def resolveClient (resolver : AccessResolver σ) (principal : Principal)
    (records : List RoleGrantRecord) (client : ClientId) (requested : RequestedTenant) :
    Task σ AccessError EffectiveGrant := do
  if mayEscalate records requested.intent then
    match ← resolver.escalationSite client requested.siteId with
    | some site =>
      resolver.audit (.escalation principal.idpId client site requested.intent)
      pure (.ephemeral (some client) (some site))
    | none => resolver.resolveMembership principal records client requested
  else resolver.resolveMembership principal records client requested

/-- Resolve a request from the store. -/
def compute (resolver : AccessResolver σ) (principal : Principal) (requested : RequestedTenant) :
    Task σ AccessError EffectiveGrant := do
  let records := RoleGrantRecord.byPrecedence (← resolver.read (·.grantsFor principal.idpId))
  match requested.clientId, requested.siteId with
  | none, _ => resolver.resolveDefault principal records requested
  | some client, none => resolver.resolveClient principal records client requested
  | some client, some site =>
    match ← resolver.read (·.siteStatus client site) with
    | none =>
      throw (deniedRequest records requested
        "requested site does not belong to the requested client")
    | some _ => resolver.resolveClient principal records client requested

/-- Resolve a request: from the cache where it is kept there, else from the store. Grants are kept,
errors are not. -/
def resolve (resolver : AccessResolver σ) (principal : Principal) (requested : RequestedTenant) :
    Work σ (Except AccessError EffectiveGrant) := do
  let key := GrantKey.ofRequest principal.idpId requested
  match (← get).grants.find key with
  | .ok (some grant) => return .ok grant
  | .ok none | .error _ =>
    match ← (resolver.compute principal requested).run with
    | .ok grant =>
      modify fun state => { state with grants := state.grants.insert key grant }
      return .ok grant
    | .error e => return .error e

/-- Forget the grants of a principal that a change of its memberships in a client may affect. -/
def invalidate (principal : IdpId) (client : ClientId) (sites : List SiteId) : Work σ Unit :=
  modify fun state =>
    { state with grants := state.grants.eraseAll (GrantKey.variants principal client sites) }

/-- The resolver shown without its secrets. -/
def display (resolver : AccessResolver σ) : String :=
  "AccessResolver \x7b bootstrap_admins: " ++ toString resolver.admins.length ++ ", .. \x7d"

end AccessResolver
end TenantAccess
