import TenantAccess.AccessState
import TenantAccess.VisibleSites

/-!
# Site trees

The sites a grant makes visible, found in the site tree of its client.  Trees are built from the
store once and kept; so is what lies below a site.  When the tree of a client changes, what is kept
about it has to be forgotten.
-/

namespace TenantAccess

/-- Why the visible sites are not known. -/
inductive SiteTreeError where
  | store (error : StoreError)
  /-- The stored sites of the client are no hierarchy. -/
  | hierarchy (client : ClientId) (error : HierarchyError)
  /-- A grant that reaches below a site belongs to no client. -/
  | missingClient (scope : Scope)
deriving DecidableEq

namespace SiteTreeError

/-- The error as a message. -/
def message : SiteTreeError → String
  | store error => error.message
  | hierarchy client error =>
    "invalid site hierarchy for client " ++ client.text ++ ": " ++ error.message
  | missingClient scope => "grant with scope " ++ scope.text ++ " has no client"

end SiteTreeError

namespace SiteCache

/-- The kept tree of a client. -/
def tree? (cache : SiteCache) (client : ClientId) : Option SiteHierarchy :=
  match cache.mode with
  | .keeping => cache.trees.get? client
  | .forgetful | .broken => none

/-- What is kept about the sites below a site. -/
def descendants? (cache : SiteCache) (site : SiteId) : Option (List SiteId) :=
  match cache.mode with
  | .keeping => cache.descendants.get? site
  | .forgetful | .broken => none

/-- The cache after keeping the tree of a client. -/
def keepTree (cache : SiteCache) (client : ClientId) (tree : SiteHierarchy) : SiteCache :=
  { cache with trees := cache.trees.insert client tree }

/-- The cache after keeping what lies below a site. -/
def keepDescendants (cache : SiteCache) (site : SiteId) (below : List SiteId) : SiteCache :=
  { cache with descendants := cache.descendants.insert site below }

/-- The cache without the tree of a client and what lies below the sites of that tree. -/
def forgetTree (cache : SiteCache) (client : ClientId) : SiteCache :=
  let sites := ((cache.tree? client).map (·.sites)).getD []
  { cache with
    trees := cache.trees.erase client
    descendants := sites.foldl Table.erase cache.descendants }

/-- The cache without what lies below the given sites. -/
def forgetDescendants (cache : SiteCache) (sites : List SiteId) : SiteCache :=
  { cache with descendants := sites.foldl Table.erase cache.descendants }

end SiteCache

namespace SiteTrees

variable {σ : Type}

/-- The site tree of a client, from the cache or else built from the store and kept. -/
def tree (platform : Platform σ) (client : ClientId) : Task σ SiteTreeError SiteHierarchy := do
  match (← get).sites.tree? client with
  | some tree => pure tree
  | none =>
    let sites ← ExceptT.adapt .store (Work.read (platform.store.sitesFor client))
    match SiteHierarchy.build (sites.map (·.node)) with
    | .error e => throw (.hierarchy client e)
    | .ok tree =>
      modify fun state => { state with sites := state.sites.keepTree client tree }
      pure tree

/-- The sites below a site of a client, from the cache or else from the client's tree. -/
def descendantsOf (platform : Platform σ) (client : ClientId) (site : SiteId) :
    Task σ SiteTreeError (List SiteId) := do
  match (← get).sites.descendants? site with
  | some below => pure below
  | none =>
    let tree ← tree platform client
    let below := tree.descendantsOf site
    modify fun state => { state with sites := state.sites.keepDescendants site below }
    pure below

/-- The sites a grant makes visible. Only a grant for a site and what is below it needs the tree. -/
def visibleTo (platform : Platform σ) (grant : EffectiveGrant) :
    Task σ SiteTreeError VisibleSites := do
  match grant.scope, grant.siteId with
  | .siteGroup, some site =>
    match grant.clientId with
    | none => throw (.missingClient grant.scope)
    | some client =>
      let below ← descendantsOf platform client site
      pure (.ofGrant grant fun _ => below)
  | _, _ => pure (.ofGrant grant fun _ => [])

/-- Forget what is kept about the tree of a client: about the sites of the kept tree, and about the
sites stored for the client now, which may have come from elsewhere. -/
def forget (platform : Platform σ) (client : ClientId) : Work σ Unit := do
  modify fun state => { state with sites := state.sites.forgetTree client }
  match ← (Work.read (platform.store.sitesFor client)).run with
  | .error _ => pure ()
  | .ok sites =>
    modify fun state =>
      { state with sites := state.sites.forgetDescendants (sites.map (·.id)) }

end SiteTrees
end TenantAccess
