import TenantAccess.Proofs.Access.Coherence
import TenantAccess.Proofs.Isolation.StoredSites
import TenantAccess.SiteTrees

/-!
# What is kept about sites

Two caches keep what is known about sites: the tree of each client, and what lies below each site.
They are right about a client when its kept tree is the one that its stored sites come to, and what
is kept below each of its sites is what lies below that in this tree.

* `SiteCache.tree?_keepTree`, `SiteCache.descendants?_keepDescendants`,
  `SiteCache.descendants?_forgetDescendants`: what is found after each change of the caches.
* `SiteCache.FaithfulTo`: caches that are right about a client, and what keeps them so.
* `SiteCache.Faithful`: caches that are right about all clients, and of stored sites only.
-/

namespace TenantAccess

/-! ### What a cache keeps about sites -/

namespace SiteCache

/-- The cache without the trees of the clients and what lies below the sites. -/
def expire (cache : SiteCache) (clients : List ClientId) (sites : List SiteId) : SiteCache :=
  { cache.forgetDescendants sites with trees := clients.foldl Table.erase cache.trees }

variable {cache : SiteCache} {client other : ClientId} {site : SiteId} {tree kept : SiteHierarchy}
  {below : List SiteId}

/-- A tree is found when the cache keeps anything and has it. -/
theorem tree?_eq_some :
    cache.tree? client = some tree ↔
      cache.mode = .keeping ∧ cache.trees.get? client = some tree := by
  unfold tree?
  rcases cache.mode with _ | _ | _ <;> simp

/-- What lies below a site is found when the cache keeps anything and has it. -/
theorem descendants?_eq_some :
    cache.descendants? site = some below ↔
      cache.mode = .keeping ∧ cache.descendants.get? site = some below := by
  unfold descendants?
  rcases cache.mode with _ | _ | _ <;> simp

/-- After a tree is kept, that one is found or what was there for another client. -/
theorem tree?_keepTree (h : (cache.keepTree other kept).tree? client = some tree) :
    client = other ∧ tree = kept ∨ client ≠ other ∧ cache.tree? client = some tree := by
  obtain ⟨hmode, hget⟩ := tree?_eq_some.mp h
  rw [tree?_eq_some]
  by_cases hclient : client = other
  · simp only [keepTree, Table.get?_insert, if_pos hclient, Option.some.injEq] at hget
    exact .inl ⟨hclient, hget.symm⟩
  · simp only [keepTree, Table.get?_insert, if_neg hclient] at hget
    exact .inr ⟨hclient, hmode, hget⟩

/-- After something is kept below a site, that is found or what was there for another site. -/
theorem descendants?_keepDescendants {other : SiteId} {kept : List SiteId}
    (h : (cache.keepDescendants other kept).descendants? site = some below) :
    site = other ∧ below = kept ∨ site ≠ other ∧ cache.descendants? site = some below := by
  obtain ⟨hmode, hget⟩ := descendants?_eq_some.mp h
  rw [descendants?_eq_some]
  by_cases hsite : site = other
  · simp only [keepDescendants, Table.get?_insert, if_pos hsite, Option.some.injEq] at hget
    exact .inl ⟨hsite, hget.symm⟩
  · simp only [keepDescendants, Table.get?_insert, if_neg hsite] at hget
    exact .inr ⟨hsite, hmode, hget⟩

/-- Below forgotten sites nothing is kept, and below the others what was. -/
theorem descendants?_forgetDescendants_eq (sites : List SiteId) :
    (cache.forgetDescendants sites).descendants? site =
      if site ∈ sites then none else cache.descendants? site := by
  unfold descendants? forgetDescendants
  rcases cache.mode with _ | _ | _
  · exact Table.get?_foldl_erase sites cache.descendants site
  · exact (ite_self none).symm
  · exact (ite_self none).symm

/-- A forgotten tree is not kept, and the others are. -/
theorem tree?_forgetTree_eq (other : ClientId) :
    (cache.forgetTree other).tree? client =
      if client = other then none else cache.tree? client := by
  unfold tree? forgetTree
  rcases cache.mode with _ | _ | _
  · exact Table.get?_erase cache.trees other client
  · exact (ite_self none).symm
  · exact (ite_self none).symm

/-- No tree is forgotten with what lies below sites. -/
@[simp]
theorem tree?_forgetDescendants (sites : List SiteId) :
    (cache.forgetDescendants sites).tree? client = cache.tree? client := rfl

/-- What is found below a site once some sites are forgotten was found before, and the site is none
of them. -/
theorem descendants?_forgetDescendants {sites : List SiteId}
    (h : (cache.forgetDescendants sites).descendants? site = some below) :
    site ∉ sites ∧ cache.descendants? site = some below := by
  rw [descendants?_forgetDescendants_eq] at h
  split at h
  · cases h
  · exact ⟨‹_›, h⟩

/-- Forgetting a tree forgets what lies below its sites. -/
theorem descendants?_forgetTree_eq (other : ClientId) :
    (cache.forgetTree other).descendants? site =
      (cache.forgetDescendants (((cache.tree? other).map (·.sites)).getD [])).descendants? site :=
  rfl

/-- What is found below a site once a tree is forgotten was found before. -/
theorem descendants?_forgetTree (h : (cache.forgetTree other).descendants? site = some below) :
    cache.descendants? site = some below := by
  rw [descendants?_forgetTree_eq] at h
  exact (descendants?_forgetDescendants h).2

/-- A tree that is found once one is forgotten is another one, which was found before. -/
theorem tree?_forgetTree (h : (cache.forgetTree other).tree? client = some tree) :
    client ≠ other ∧ cache.tree? client = some tree := by
  rw [tree?_forgetTree_eq] at h
  split at h
  · cases h
  · exact ⟨‹_›, h⟩

section expire

variable {clients : List ClientId} {sites : List SiteId}

/-- A tree that is found after entries have expired was found before. -/
theorem tree?_expire (h : (cache.expire clients sites).tree? client = some tree) :
    cache.tree? client = some tree := by
  obtain ⟨hmode, hget⟩ := tree?_eq_some.mp h
  unfold expire at hget
  dsimp only at hget
  rw [Table.get?_foldl_erase] at hget
  split at hget
  · cases hget
  · exact tree?_eq_some.mpr ⟨hmode, hget⟩

/-- What is found below a site after entries have expired was found before. -/
theorem descendants?_expire (h : (cache.expire clients sites).descendants? site = some below) :
    cache.descendants? site = some below := by
  have hforgotten : (cache.forgetDescendants sites).descendants? site = some below := h
  exact (descendants?_forgetDescendants hforgotten).2

end expire

end SiteCache

/-! ### Faithful caches -/

/-- What is kept about the sites of a client is what the tables say. -/
structure SiteCache.FaithfulTo (tables : MembershipTables) (client : ClientId)
    (cache : SiteCache) : Prop where
  tree : ∀ {tree}, cache.tree? client = some tree →
    SiteHierarchy.build (tables.nodesOf client) = .ok tree
  descendants : ∀ {site below}, tables.Owns client site → cache.descendants? site = some below →
    ∃ tree, SiteHierarchy.build (tables.nodesOf client) = .ok tree ∧
      tree.descendantsOf site = below

namespace SiteCache.FaithfulTo

variable {tables tables' : MembershipTables} {cache : SiteCache} {client other : ClientId}
  {site : SiteId}

/-- A cache that keeps less is as faithful. -/
theorem of_less {less : SiteCache} (h : cache.FaithfulTo tables client)
    (htree : ∀ {tree}, less.tree? client = some tree → cache.tree? client = some tree)
    (hbelow : ∀ {site below}, less.descendants? site = some below →
      cache.descendants? site = some below) : less.FaithfulTo tables client where
  tree hkept := h.tree (htree hkept)
  descendants howns hkept := h.descendants howns (hbelow hkept)

/-- A cache without entries is faithful to every client. -/
theorem of_empty (htrees : cache.trees = {}) (hbelow : cache.descendants = {}) :
    cache.FaithfulTo tables client where
  tree := by
    intro tree htree
    simp [tree?_eq_some, htrees] at htree
  descendants := by
    intro site below _ hkept
    simp [descendants?_eq_some, hbelow] at hkept

/-- It is as faithful to tables in which the client has the same tree and no further site. -/
theorem of_tables (h : cache.FaithfulTo tables client)
    (hbuild : SiteHierarchy.build (tables'.nodesOf client) =
      SiteHierarchy.build (tables.nodesOf client))
    (howns : ∀ {site}, tables'.Owns client site → tables.Owns client site) :
    cache.FaithfulTo tables' client where
  tree := by
    intro tree htree
    rw [hbuild]
    exact h.tree htree
  descendants := by
    intro site below howns' hkept
    rw [hbuild]
    exact h.descendants (howns howns') hkept

/-- Keeping a tree preserves it, provided that a tree kept for the client is right. -/
theorem keepTree (h : cache.FaithfulTo tables client) {kept : SiteHierarchy}
    (htree : client = other → SiteHierarchy.build (tables.nodesOf client) = .ok kept) :
    (cache.keepTree other kept).FaithfulTo tables client where
  tree := by
    intro tree hfound
    rcases tree?_keepTree hfound with ⟨hclient, rfl⟩ | ⟨-, hbefore⟩
    · exact htree hclient
    · exact h.tree hbefore
  descendants howns hkept := h.descendants howns hkept

/-- Keeping what lies below a site does, provided that it is right if the site is the client's. -/
theorem keepDescendants (h : cache.FaithfulTo tables client) {kept : List SiteId}
    (hkept : tables.Owns client site → ∃ tree,
      SiteHierarchy.build (tables.nodesOf client) = .ok tree ∧ tree.descendantsOf site = kept) :
    (cache.keepDescendants site kept).FaithfulTo tables client where
  tree hfound := h.tree hfound
  descendants := by
    intro other below howns hfound
    rcases descendants?_keepDescendants hfound with ⟨rfl, rfl⟩ | ⟨-, hbefore⟩
    · exact hkept howns
    · exact h.descendants howns hbefore

end SiteCache.FaithfulTo

/-- What is kept about sites is what the tables say. -/
structure SiteCache.Faithful (tables : MembershipTables) (cache : SiteCache) : Prop where
  trees : ∀ {client tree}, cache.tree? client = some tree →
    SiteHierarchy.build (tables.nodesOf client) = .ok tree
  descendants : ∀ {site below}, cache.descendants? site = some below →
    ∃ client tree, tables.Owns client site ∧
      SiteHierarchy.build (tables.nodesOf client) = .ok tree ∧ tree.descendantsOf site = below

namespace SiteCache.Faithful

variable {tables : MembershipTables} {cache : SiteCache} {client : ClientId}
  {tree : SiteHierarchy} {site : SiteId}

/-- That is, what is kept about each client is, and only of stored sites it is kept what lies
below them. -/
theorem iff_faithfulTo :
    cache.Faithful tables ↔ (∀ client, cache.FaithfulTo tables client) ∧
      ∀ {site below}, cache.descendants? site = some below → ∃ client, tables.Owns client site := by
  constructor
  · intro h
    refine ⟨?_, ?_⟩
    · intro client
      refine ⟨h.trees, ?_⟩
      intro site below howns hkept
      obtain ⟨other, tree, hother, hbuild, hbelow⟩ := h.descendants hkept
      obtain rfl := howns.unique hother
      exact ⟨tree, hbuild, hbelow⟩
    · intro site below hkept
      obtain ⟨client, -, howns, -⟩ := h.descendants hkept
      exact ⟨client, howns⟩
  · rintro ⟨hall, howned⟩
    refine ⟨(hall _).tree, ?_⟩
    intro site below hkept
    obtain ⟨client, howns⟩ := howned hkept
    obtain ⟨tree, hbuild, hbelow⟩ := (hall client).descendants howns hkept
    exact ⟨client, tree, howns, hbuild, hbelow⟩

/-- A cache without entries is faithful. -/
theorem of_empty (htrees : cache.trees = {}) (hbelow : cache.descendants = {}) :
    cache.Faithful tables := by
  refine iff_faithfulTo.mpr ⟨fun client => .of_empty htrees hbelow, ?_⟩
  intro site below hkept
  simp [descendants?_eq_some, hbelow] at hkept

/-- The expiry of entries leaves the others. -/
theorem expire (h : cache.Faithful tables) (clients : List ClientId) (sites : List SiteId) :
    (cache.expire clients sites).Faithful tables where
  trees htree := h.trees (tree?_expire htree)
  descendants hkept := h.descendants (descendants?_expire hkept)

end SiteCache.Faithful

end TenantAccess
