import TenantAccess.Audit
import TenantAccess.ChangeEvent
import TenantAccess.Config
import TenantAccess.GrantCache
import TenantAccess.Membership
import TenantAccess.Session

/-!
# The state of the access layer

What the access layer remembers between two calls, and the world it talks to.  The world is a
`Platform` over a state of any type: a membership store, a backend of database sessions, the audit
trail and a listener for change events.  Everything else is in `AccessState`: the caches and what
surrounds the running code.
-/

namespace TenantAccess

/-- The world around the access layer, in state `σ`. -/
structure Platform (σ : Type) where
  store : MembershipStore σ
  sessions : SessionBackend σ
  /-- Write an entry to the audit trail. -/
  audit : AuditEntry → σ → σ
  /-- Tell a change event to whoever listens. -/
  emit : ChangeEvent → σ → σ

/-- The caches of what is known about sites. -/
structure SiteCache where
  /-- Whether anything is kept. -/
  mode : CacheMode := .keeping
  /-- The site tree of each client. -/
  trees : Table ClientId SiteHierarchy := {}
  /-- What lies below a site. -/
  descendants : Table SiteId (List SiteId) := {}

instance : Inhabited SiteCache := ⟨{}⟩

/-- What the access layer remembers, with the state of the world around it. -/
structure AccessState (σ : Type) where
  world : σ
  grants : GrantCache := {}
  sites : SiteCache := {}
  around : Surroundings := {}

namespace AccessConfig

/-- How the grant cache works: without time or room for an entry it keeps nothing. -/
def grantCacheMode (config : AccessConfig) : CacheMode :=
  if config.grantCacheTtl = 0 ∨ config.grantCacheCapacity = 0 then .forgetful else .keeping

/-- How the caches of sites work: without time for an entry they keep nothing. -/
def siteCacheMode (config : AccessConfig) : CacheMode :=
  if config.siteCacheTtl = 0 then .forgetful else .keeping

end AccessConfig

/-- The state in which nothing is remembered yet. -/
def AccessState.initial {σ : Type} (config : AccessConfig) (world : σ) : AccessState σ where
  world
  grants := { mode := config.grantCacheMode }
  sites := { mode := config.siteCacheMode }

/-- A computation of the access layer. -/
abbrev Work (σ : Type) := StateM (AccessState σ)

/-- A computation of the access layer that may fail; what it changed before stays changed. -/
abbrev Task (σ ε : Type) := ExceptT ε (Work σ)

namespace Work

variable {σ α β ε : Type}

/-- A computation that touches the world only. -/
def ofWorld (m : StateM σ α) : Work σ α := fun state =>
  let (a, world) := m state.world
  (a, { state with world })

/-- What surrounds the running code. -/
def around : Work σ Surroundings := do return (← get).around

/-- Write an entry to the audit trail. -/
def audit (platform : Platform σ) (entry : AuditEntry) : Work σ Unit :=
  modify fun state => { state with world := platform.audit entry state.world }

/-- Run inside a unit of work, and return to the one before. A surrounding bypass stays in force. -/
def withWork (work : UnitOfWork) (m : Work σ α) : Work σ α := do
  let before := (← get).around.work
  modify fun state => { state with around := { state.around with work := some work } }
  let a ← m
  modify fun state => { state with around := { state.around with work := before } }
  return a

/-- Run with row policies off for a reason, and return to the bypass before, if there was one. -/
def withBypass (reason : String) (m : Work σ α) : Work σ α := do
  let before := (← get).around.bypass
  modify fun state => { state with around := { state.around with bypass := some reason } }
  let a ← m
  modify fun state => { state with around := { state.around with bypass := before } }
  return a

/-- Read the store on behalf of what surrounds the running code. -/
def read (m : StoreRead σ α) : Task σ StoreError α := ExceptT.mk do
  ofWorld (m (← around))

end Work
end TenantAccess
