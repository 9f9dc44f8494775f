import TenantAccess.Grant
import TenantAccess.Hierarchy
import TenantAccess.Principal
import TenantAccess.Table
import TenantAccess.UnitOfWork

/-!
# Memberships

What is stored about principals, clients and sites, and the four reads that the resolution of access
needs.  `MembershipStore` is the boundary: a store answers reads and may fail or change in doing so.
`MembershipTables` is a store in memory.
-/

namespace TenantAccess

/-- A stored site. -/
structure SiteRecord where
  id : SiteId
  clientId : ClientId
  parentId : Option SiteId
  isPrimary : Bool
  status : SiteStatus
  createdAt : Timestamp
deriving DecidableEq, Inhabited

/-- The site and its parent. -/
def SiteRecord.node (site : SiteRecord) : SiteNode := ⟨site.id, site.parentId⟩

/-- Why a store did not answer. -/
inductive StoreError where
  | unavailable (explanation : String)
  /-- What is stored does not describe an entity. -/
  | decode (entity explanation : String)
  /-- What is stored does not even have the form in which an entity is stored. -/
  | malformed (entity : String)
deriving DecidableEq, Repr

namespace StoreError

/-- The error as a message. -/
def message : StoreError → String
  | unavailable explanation => "membership store unavailable: " ++ explanation
  | decode entity explanation => "failed to decode " ++ entity ++ ": " ++ explanation
  | malformed entity => "failed to decode " ++ entity

/-- The kind of the error. -/
def kind : StoreError → String
  | unavailable _ => "Store.Unavailable"
  | decode .. => "Store.Decode"
  | malformed _ => "Store.Decode"

end StoreError

/-- A read that a store answers. -/
inductive StoreOperation where
  | grantsFor
  | clientStatus
  | siteStatus
  | sitesFor
deriving DecidableEq, Repr, Inhabited

namespace StoreOperation

/-- Every read. -/
def all : List StoreOperation := [grantsFor, clientStatus, siteStatus, sitesFor]

/-- The name of the read in messages and in the audit trail. -/
def text : StoreOperation → String
  | grantsFor => "grants_for"
  | clientStatus => "client_status"
  | siteStatus => "site_status"
  | sitesFor => "sites_for_client"

end StoreOperation

/-- A read of a store in state `σ`, on behalf of what surrounds the reading code. -/
abbrev StoreRead (σ α : Type) := Surroundings → StateM σ (Except StoreError α)

/-- The reads of a store. -/
structure MembershipStore (σ : Type) where
  /-- Every membership of a principal, primary ones first and then the oldest first. -/
  grantsFor : IdpId → StoreRead σ (List RoleGrantRecord)
  /-- The status of a client, if there is such a client. -/
  clientStatus : ClientId → StoreRead σ (Option ClientStatus)
  /-- The status of a site, if the client has such a site. -/
  siteStatus : ClientId → SiteId → StoreRead σ (Option SiteStatus)
  /-- Every site of a client, primary ones first and then the oldest first. -/
  sitesFor : ClientId → StoreRead σ (List SiteRecord)

/-- The store as part of a larger state. -/
def MembershipStore.lift {τ σ : Type} (embed : {α : Type} → StateM τ α → StateM σ α)
    (store : MembershipStore τ) : MembershipStore σ where
  grantsFor principal around := embed (store.grantsFor principal around)
  clientStatus client around := embed (store.clientStatus client around)
  siteStatus client site around := embed (store.siteStatus client site around)
  sitesFor client around := embed (store.sitesFor client around)

/-- The store with the memberships of a principal in reverse order. -/
def MembershipStore.reversing {σ : Type} (store : MembershipStore σ) : MembershipStore σ :=
  { store with grantsFor := fun principal around => do
      return (← store.grantsFor principal around).map List.reverse }

/-- Primary before others, then older before newer. -/
def precedes (aPrimary : Bool) (aCreated : Timestamp) (bPrimary : Bool) (bCreated : Timestamp) :
    Bool :=
  if aPrimary = bPrimary then aCreated.le bCreated else aPrimary

/-- The memberships by precedence; those that tie keep their order. -/
def RoleGrantRecord.byPrecedence (records : List RoleGrantRecord) : List RoleGrantRecord :=
  records.mergeSort fun a b => precedes a.isPrimary a.createdAt b.isPrimary b.createdAt

/-- The sites by precedence; those that tie are in the order of their identifiers. -/
def SiteRecord.byPrecedence (sites : List SiteRecord) : List SiteRecord :=
  sites.mergeSort fun a b =>
    if a.isPrimary = b.isPrimary ∧ a.createdAt = b.createdAt then decide (a.id ≤ b.id)
    else precedes a.isPrimary a.createdAt b.isPrimary b.createdAt

/-- A store in memory, which counts the reads of memberships and of site lists. -/
structure MembershipTables where
  grants : List (IdpId × RoleGrantRecord) := []
  clients : Table ClientId ClientStatus := {}
  sites : Table SiteId SiteRecord := {}
  grantReads : Nat := 0
  siteReads : Nat := 0

namespace MembershipTables

instance : Inhabited MembershipTables := ⟨{}⟩

/-! ## Changes -/

/-- Store a client, in place of the one before. -/
def upsertClient (tables : MembershipTables) (client : ClientId) (status : ClientStatus) :
    MembershipTables :=
  { tables with clients := tables.clients.insert client status }

/-- Store a site, in place of the one before. -/
def upsertSite (tables : MembershipTables) (site : SiteRecord) : MembershipTables :=
  { tables with sites := tables.sites.insert site.id site }

/-- Change the status of a stored site. -/
def setSiteStatus (tables : MembershipTables) (site : SiteId) (status : SiteStatus) :
    MembershipTables :=
  { tables with sites := tables.sites.adjust site ({ · with status }) }

/-- Change the parent of a stored site. -/
def setSiteParent (tables : MembershipTables) (site : SiteId) (parentId : Option SiteId) :
    MembershipTables :=
  { tables with sites := tables.sites.adjust site ({ · with parentId }) }

/-- Store a membership of a principal. -/
def addGrant (tables : MembershipTables) (principal : IdpId) (record : RoleGrantRecord) :
    MembershipTables :=
  { tables with grants := tables.grants ++ [(principal, record)] }

/-- Remove every membership with an identifier. -/
def removeGrant (tables : MembershipTables) (id : MembershipId) : MembershipTables :=
  { tables with grants := tables.grants.filter fun row => row.2.membershipId != id }

/-! ## What is stored -/

/-- The memberships of a principal by precedence. -/
def grantsOf (tables : MembershipTables) (principal : IdpId) : List RoleGrantRecord :=
  RoleGrantRecord.byPrecedence ((tables.grants.filter (·.1 == principal)).map (·.2))

/-- The status of a site of a client. -/
def statusOfSite (tables : MembershipTables) (client : ClientId) (site : SiteId) :
    Option SiteStatus :=
  ((tables.sites.get? site).filter (·.clientId == client)).map (·.status)

/-- The sites of a client by precedence. -/
def sitesOf (tables : MembershipTables) (client : ClientId) : List SiteRecord :=
  SiteRecord.byPrecedence (tables.sites.values.filter (·.clientId == client))

/-- The tables as a store. It never fails. -/
def store : MembershipStore MembershipTables where
  grantsFor principal _ := fun tables =>
    (.ok (tables.grantsOf principal), { tables with grantReads := tables.grantReads + 1 })
  clientStatus client _ := fun tables => (.ok (tables.clients.get? client), tables)
  siteStatus client site _ := fun tables => (.ok (tables.statusOfSite client site), tables)
  sitesFor client _ := fun tables =>
    (.ok (tables.sitesOf client), { tables with siteReads := tables.siteReads + 1 })

end MembershipTables
end TenantAccess
