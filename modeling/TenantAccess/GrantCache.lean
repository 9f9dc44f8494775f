import TenantAccess.Grant
import TenantAccess.Table

/-!
# The grant cache

Resolved grants are kept under everything a request names: the principal, the client, the site and
the intent.
-/

namespace TenantAccess

/-- What a resolved grant is kept under. -/
structure GrantKey where
  idpId : IdpId
  clientId : Option ClientId
  siteId : Option SiteId
  intent : AccessIntent
deriving DecidableEq, Inhabited

namespace GrantKey

/-- The key of a request of a principal. -/
def ofRequest (idpId : IdpId) (requested : RequestedTenant) : GrantKey :=
  ⟨idpId, requested.clientId, requested.siteId, requested.intent⟩

/-- The keys that a change of the memberships of a principal in a client is taken to affect: for
each intent the default tenant, the client, and the client with each of the sites. -/
def variants (idpId : IdpId) (client : ClientId) (sites : List SiteId) : List GrantKey :=
  let tenants : List (Option ClientId × Option SiteId) :=
    (none, none) :: (some client, none) :: sites.map (some client, some ·)
  AccessIntent.all.flatMap fun intent =>
    tenants.map fun tenant => ⟨idpId, tenant.1, tenant.2, intent⟩

/-- The key as a document. -/
def toJson (key : GrantKey) : Json := .array [
  key.idpId.toJson, .ofOption Id.toJson key.clientId, .ofOption Id.toJson key.siteId,
  key.intent.toJson]

end GrantKey

/-- How a cache treats what is put into it. -/
inductive CacheMode where
  /-- Everything is kept until it is removed. -/
  | keeping
  /-- Nothing is kept, because entries expire at once or there is no room for any. -/
  | forgetful
  /-- Every use of the cache fails. -/
  | broken
deriving DecidableEq, Repr, Inhabited

/-- The cache cannot be used. -/
structure CacheUnavailable where
deriving DecidableEq, Repr

/-- The cache of resolved grants. -/
structure GrantCache where
  mode : CacheMode := .keeping
  entries : Table GrantKey EffectiveGrant := {}
deriving Inhabited

namespace GrantCache

/-- The grant kept under a key. -/
def find (cache : GrantCache) (key : GrantKey) : Except CacheUnavailable (Option EffectiveGrant) :=
  match cache.mode with
  | .keeping => .ok (cache.entries.get? key)
  | .forgetful => .ok none
  | .broken => .error ⟨⟩

/-- The cache after keeping a grant; unchanged if it cannot. -/
def insert (cache : GrantCache) (key : GrantKey) (grant : EffectiveGrant) : GrantCache :=
  match cache.mode with
  | .keeping => { cache with entries := cache.entries.insert key grant }
  | .forgetful | .broken => cache

/-- The cache without the grants kept under the keys. -/
def eraseAll (cache : GrantCache) (keys : List GrantKey) : GrantCache :=
  match cache.mode with
  | .keeping => { cache with entries := keys.foldl Table.erase cache.entries }
  | .forgetful | .broken => cache

end GrantCache
end TenantAccess
