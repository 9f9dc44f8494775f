import TenantAccess.Http.Service
import TenantAccess.Proofs.Isolation.KeptSites
import TenantAccess.World

/-!
# Invalidations from outside

A message that is posted to the service makes the caches forget, and never makes them keep anything
else than before.  Who posts it has to manage users, in the client that the message is about or in
all clients; and what is forgotten is confined to the principal or to the client in the message.

* `Forgets`: what the caches may forget for a message.
* `Forgotten`: what they do forget when the tree of a client has changed.
* `InvalidationChannel.announce_forgets`: they forget nothing else.
* `SparesOthers`: what stays of what is kept about other clients.  That is all of it where what is
  kept about the client is right; but the list below a site that has moved to another client goes as
  long as the site is in the tree that is kept for its former client.
* `InvalidationChannel.announce_siteTree`: both, for the message that a tree has changed.
* `MayInvalidate`: who may post a message about a client.
* `serve_invalidation`: a message from anybody else is refused, and one from them forgets no more
  than it may.
* `serve_invalidation_moved_site`: a list of another client that goes.
-/

namespace TenantAccess

variable {σ : Type} {platform : Platform σ} {s : AccessState σ}

/-! ### What may be forgotten -/

/-- What the store lists for a client now, if it lists anything, are the client's sites in the
tables. -/
def AccessState.Lists (platform : Platform σ) (s : AccessState σ) (tables : MembershipTables) :
    Prop :=
  ∀ client rows, (platform.store.sitesFor client s.around s.world).1 = .ok rows →
    rows = tables.sitesOf client

/-- The site is one of the client's: it is in the tree that is kept for the client, or the store
lists it for the client now. -/
def AccessState.KnowsSite (platform : Platform σ) (s : AccessState σ) (client : ClientId)
    (site : SiteId) : Prop :=
  (∃ tree, s.sites.tree? client = some tree ∧ site ∈ tree.sites) ∨
    ∃ rows, (platform.store.sitesFor client s.around s.world).1 = .ok rows ∧
      site ∈ rows.map (·.id)

/-- The second state keeps nothing that the first one does not, and keeps all of it but what the
message tells to forget. -/
structure Forgets (platform : Platform σ) (message : InvalidationMessage) (s t : AccessState σ) :
    Prop where
  grant : ∀ {key grant}, t.grants.find key = .ok (some grant) →
    s.grants.find key = .ok (some grant)
  tree : ∀ {client tree}, t.sites.tree? client = some tree → s.sites.tree? client = some tree
  below : ∀ {site below}, t.sites.descendants? site = some below →
    s.sites.descendants? site = some below
  /-- Grants of other principals stay, and so do those for other clients. -/
  ofGrants : ∀ {principal client sites}, message = .grants principal client sites →
    t.sites = s.sites ∧
      ∀ key, ¬(key.idpId = principal ∧ (key.clientId = none ∨ key.clientId = some client)) →
        t.grants.find key = s.grants.find key
  /-- All grants stay, the trees of other clients, and what lies below sites that are not the
  client's. -/
  ofSiteTree : ∀ {client}, message = .siteTree client →
    t.grants = s.grants ∧
      (∀ other, other ≠ client → t.sites.tree? other = s.sites.tree? other) ∧
      ∀ site, ¬s.KnowsSite platform client site →
        t.sites.descendants? site = s.sites.descendants? site

/-- Of what is kept about the client, its tree is gone and all that lies below its sites. -/
structure Forgotten (platform : Platform σ) (client : ClientId) (s t : AccessState σ) : Prop where
  tree : t.sites.tree? client = none
  below : ∀ {site}, s.KnowsSite platform client site → t.sites.descendants? site = none

/-- Of what is kept about clients other than this one, the second state has all that may not be
mistaken for this one's. -/
structure SparesOthers (tables : MembershipTables) (client : ClientId) (s t : AccessState σ) :
    Prop where
  tree : ∀ {other}, other ≠ client → t.sites.tree? other = s.sites.tree? other
  /-- A list stays if its site is not in the tree that is kept for this client. -/
  below : ∀ {other site}, other ≠ client → tables.Owns other site →
    (∀ tree, s.sites.tree? client = some tree → site ∉ tree.sites) →
      t.sites.descendants? site = s.sites.descendants? site
  /-- If what is kept about this client is right, every list stays. -/
  faithful : s.sites.FaithfulTo tables client → ∀ {other site}, other ≠ client →
    tables.Owns other site → t.sites.descendants? site = s.sites.descendants? site

/-- Where nothing changes, nothing is forgotten. -/
theorem Forgets.refl (platform : Platform σ) (message : InvalidationMessage) (s : AccessState σ) :
    Forgets platform message s s where
  grant h := h
  tree h := h
  below h := h
  ofGrants _ := ⟨rfl, fun _ _ => rfl⟩
  ofSiteTree _ := ⟨rfl, fun _ _ => rfl, fun _ _ => rfl⟩

/-! ### What is forgotten -/

/-- Invalidating grants forgets those of the principal that were asked for in the client or in
none. -/
theorem AccessResolver.invalidate_forgets (platform : Platform σ) (principal : IdpId)
    (client : ClientId) (sites : List SiteId) (s : AccessState σ) :
    Forgets platform (.grants principal client sites) s
      (AccessResolver.invalidate principal client sites s).2 where
  grant h := ((GrantCache.find_eraseAll _).mp h).2
  tree h := h
  below h := h
  ofGrants := by
    intro principal' client' sites' hmessage
    obtain ⟨rfl, rfl, rfl⟩ := InvalidationMessage.grants.inj hmessage
    refine ⟨rfl, ?_⟩
    intro key hother
    apply GrantCache.find_eraseAll_of_not_mem
    intro hkey
    obtain ⟨hprincipal, ⟨hnone, -⟩ | ⟨hclient, -⟩⟩ := GrantKey.mem_variants.mp hkey
    · exact hother ⟨hprincipal, .inl hnone⟩
    · exact hother ⟨hprincipal, .inr hclient⟩
  ofSiteTree hmessage := by cases hmessage

/-- The tree of a client is forgotten with what lies below its sites, and then what lies below the
sites that the store lists. -/
theorem SiteTrees.forget_apply (platform : Platform σ) (client : ClientId) (s : AccessState σ) :
    SiteTrees.forget platform client s =
      match platform.store.sitesFor client s.around s.world with
      | (.error _, world) => ((), { s with world, sites := s.sites.forgetTree client })
      | (.ok rows, world) => ((), { s with
          world, sites := (s.sites.forgetTree client).forgetDescendants (rows.map (·.id)) }) := by
  unfold SiteTrees.forget Work.read Work.ofWorld Work.around
  simp only [bind, StateT.bind, modify, modifyGet, MonadStateOf.modifyGet, StateT.modifyGet, get,
    getThe, MonadStateOf.get, StateT.get, pure, StateT.pure, ExceptT.run, ExceptT.mk]
  rcases hread : platform.store.sitesFor client s.around s.world with ⟨e | rows, world⟩
  · rfl
  · rfl

/-- A cache without the tree of a client and what lies below some of its sites has forgotten no more
than it may. -/
theorem AccessState.forgets_siteTree {client : ClientId} {sites : List SiteId} {world : σ}
    (hsites : ∀ site ∈ sites, s.KnowsSite platform client site) :
    Forgets platform (.siteTree client) s { s with
      world, sites := (s.sites.forgetTree client).forgetDescendants sites } where
  grant h := h
  tree := by
    intro other tree hfound
    rw [SiteCache.tree?_forgetDescendants] at hfound
    exact (SiteCache.tree?_forgetTree hfound).2
  below h := SiteCache.descendants?_forgetTree (SiteCache.descendants?_forgetDescendants h).2
  ofGrants hmessage := by cases hmessage
  ofSiteTree := by
    intro client' hmessage
    obtain rfl := InvalidationMessage.siteTree.inj hmessage
    refine ⟨rfl, ?_, ?_⟩
    · intro other hother
      rw [SiteCache.tree?_forgetDescendants, SiteCache.tree?_forgetTree_eq, if_neg hother]
    · intro site hforeign
      have hlisted : site ∉ sites := fun hmem => hforeign (hsites site hmem)
      have hkept : site ∉ ((s.sites.tree? client).map (·.sites)).getD [] := by
        rcases htree : s.sites.tree? client with _ | tree
        · simp
        · exact fun hmem => hforeign (.inl ⟨tree, htree, hmem⟩)
      rw [SiteCache.descendants?_forgetDescendants_eq, if_neg hlisted,
        SiteCache.descendants?_forgetTree_eq, SiteCache.descendants?_forgetDescendants_eq,
        if_neg hkept]

/-- Forgetting the tree of a client forgets no more than it may. -/
theorem SiteTrees.forget_forgets (platform : Platform σ) (client : ClientId) (s : AccessState σ) :
    Forgets platform (.siteTree client) s (SiteTrees.forget platform client s).2 := by
  rw [SiteTrees.forget_apply]
  rcases hread : platform.store.sitesFor client s.around s.world with ⟨e | rows, world⟩
  · have hnone : ∀ site ∈ ([] : List SiteId), s.KnowsSite platform client site := by simp
    exact AccessState.forgets_siteTree hnone
  · apply AccessState.forgets_siteTree
    intro site hsite
    exact .inr ⟨rows, by rw [hread], hsite⟩

/-- What is kept of the client's tree after that, and below its sites, is nothing. -/
theorem SiteTrees.forget_forgotten (platform : Platform σ) (client : ClientId) (s : AccessState σ) :
    Forgotten platform client s (SiteTrees.forget platform client s).2 := by
  have htree : (s.sites.forgetTree client).tree? client = none := by
    rw [SiteCache.tree?_forgetTree_eq, if_pos rfl]
  have hbelow : ∀ {tree site}, s.sites.tree? client = some tree → site ∈ tree.sites →
      (s.sites.forgetTree client).descendants? site = none := by
    intro tree site hkept hsite
    have hmem : site ∈ ((s.sites.tree? client).map (·.sites)).getD [] := by
      rw [hkept]
      exact hsite
    rw [SiteCache.descendants?_forgetTree_eq, SiteCache.descendants?_forgetDescendants_eq,
      if_pos hmem]
  rw [SiteTrees.forget_apply]
  rcases hread : platform.store.sitesFor client s.around s.world with ⟨e | rows, world⟩
  · refine ⟨htree, ?_⟩
    rintro site (⟨tree, hkept, hsite⟩ | ⟨rows, hrows, -⟩)
    · exact hbelow hkept hsite
    · rw [hread] at hrows
      cases hrows
  · refine ⟨htree, ?_⟩
    intro site hknown
    dsimp only
    rw [SiteCache.descendants?_forgetDescendants_eq]
    obtain ⟨tree, hkept, hsite⟩ | ⟨listed, hlisted, hsite⟩ := hknown
    · rw [hbelow hkept hsite, ite_self]
    · rw [hread] at hlisted
      obtain rfl := Except.ok.inj hlisted
      rw [if_pos hsite]

/-- A message that goes to the caches gets through. -/
theorem InvalidationChannel.announce_caches (platform : Platform σ) (message : InvalidationMessage)
    (s : AccessState σ) :
    InvalidationChannel.caches.announce platform message s =
      (.ok (), (InvalidationChannel.caches.announce platform message s).2) := by
  rcases message with ⟨principal, client, sites⟩ | client
  · rfl
  · rfl

/-- Whatever becomes of a message, the caches forget no more for it than they may. -/
theorem InvalidationChannel.announce_forgets (channel : InvalidationChannel)
    (platform : Platform σ) (message : InvalidationMessage) (s : AccessState σ) :
    Forgets platform message s (channel.announce platform message s).2 := by
  rcases channel with _ | e
  · rcases message with ⟨principal, client, sites⟩ | client
    · exact AccessResolver.invalidate_forgets platform principal client sites s
    · exact SiteTrees.forget_forgets platform client s
  · exact .refl platform message s

/-! ### What other clients keep -/

section tables

variable {tables : MembershipTables} {client : ClientId} {site : SiteId} {t : AccessState σ}

/-- The sites of a tree that is kept for a client, and is right, are the client's. -/
theorem SiteCache.FaithfulTo.owns_of_mem {cache : SiteCache} {tree : SiteHierarchy}
    (h : cache.FaithfulTo tables client) (hkeyed : tables.SitesKeyed)
    (htree : cache.tree? client = some tree) (hsite : site ∈ tree.sites) :
    tables.Owns client site := by
  have hindexes := SiteHierarchy.indexes_of_build
    (MembershipTables.nodup_nodesOf hkeyed client) (h.tree htree)
  exact (MembershipTables.mem_map_id_nodesOf hkeyed).mp ((hindexes.mem_sites site).mp hsite)

/-- The sites that the store lists for a client are the client's. -/
theorem AccessState.Lists.owns_of_mem {rows : List SiteRecord} (h : s.Lists platform tables)
    (hkeyed : tables.SitesKeyed)
    (hrows : (platform.store.sitesFor client s.around s.world).1 = .ok rows)
    (hsite : site ∈ rows.map (·.id)) : tables.Owns client site := by
  rw [h client rows hrows] at hsite
  rw [← MembershipTables.mem_map_id_nodesOf hkeyed]
  unfold MembershipTables.nodesOf
  rw [List.map_map]
  exact hsite

/-- So what may be forgotten of another client's is at most the lists below sites that are in the
tree kept for this client. -/
theorem Forgets.sparesOthers (hkeyed : tables.SitesKeyed) (hlists : s.Lists platform tables)
    (h : Forgets platform (.siteTree client) s t) : SparesOthers tables client s t := by
  obtain ⟨-, htrees, hlost⟩ := h.ofSiteTree rfl
  have hbelow : ∀ {other site}, other ≠ client → tables.Owns other site →
      (∀ tree, s.sites.tree? client = some tree → site ∉ tree.sites) →
        t.sites.descendants? site = s.sites.descendants? site := by
    intro other site hother howns hmoved
    apply hlost
    rintro (⟨tree, htree, hsite⟩ | ⟨rows, hrows, hsite⟩)
    · exact hmoved tree htree hsite
    · exact hother ((hlists.owns_of_mem hkeyed hrows hsite).unique howns)
  refine ⟨htrees _, hbelow, ?_⟩
  intro hfaithful other site hother howns
  apply hbelow hother howns
  intro tree htree hsite
  exact hother ((hfaithful.owns_of_mem hkeyed htree hsite).unique howns)

end tables

/-- Where the message that the tree of a client has changed goes to the caches, what is kept about
the client is forgotten; wherever it goes, the other clients are spared. -/
theorem InvalidationChannel.announce_siteTree (channel : InvalidationChannel)
    (platform : Platform σ) (client : ClientId) (s : AccessState σ) :
    let t := (channel.announce platform (.siteTree client) s).2
    (channel = .caches → Forgotten platform client s t) ∧
      ∀ tables : MembershipTables, tables.SitesKeyed → s.Lists platform tables →
        SparesOthers tables client s t := by
  intro t
  constructor
  · rintro rfl
    exact SiteTrees.forget_forgotten platform client s
  · intro tables hkeyed hlists
    exact (channel.announce_forgets platform (.siteTree client) s).sparesOthers hkeyed hlists

namespace Http

/-! ### Who may invalidate -/

/-- The grant allows to manage users, in the client or in all clients. -/
def MayInvalidate (grant : EffectiveGrant) (client : ClientId) : Prop :=
  grant.can .manageUsers = true ∧
    (grant.scope.atLeast .global = true ∨ grant.clientId = some client)

/-- The check lets those through who may invalidate, and nobody else. -/
theorem checkInvalidation_eq_ok {grant : EffectiveGrant} {client : ClientId} :
    Service.checkInvalidation grant client = .ok () ↔ MayInvalidate grant client := by
  unfold Service.checkInvalidation MayInvalidate EffectiveGrant.authorize
  by_cases hcan : grant.can .manageUsers = true
  · by_cases hscope : grant.scope.atLeast .global = true
    · simp [hcan, hscope]
    · simp [hcan, hscope]
  · simp [hcan]

/-! ### The endpoint -/

/-- The request posts the message to the endpoint for invalidations. -/
structure Posts (request : Request) (message : InvalidationMessage) : Prop where
  path : request.path = "/access/invalidations"
  method : request.method = "POST"
  json : request.bringsJson = true
  size : request.body.utf8ByteSize ≤ Service.bodyLimit
  body : Body.readMessage request.body = .ok message

variable {service : Service σ} {request : Request} {message : InvalidationMessage}
  {grant : EffectiveGrant}

/-- What is posted to the endpoint is taken to the caches. -/
theorem serve_of_posts (h : Posts request message) :
    serve service.endpoints request = service.invalidate message := by
  have hendpoint : service.endpoints.lookup request.path =
      some ⟨"POST", service.invalidateAsAsked⟩ := by
    rw [h.path]
    rfl
  have hmethod : request.has "POST" = true := by
    unfold Request.has
    rw [h.method]
    rfl
  unfold serve
  rw [hendpoint]
  dsimp only
  rw [if_pos hmethod]
  unfold Service.invalidateAsAsked
  rw [h.json, if_neg (by simp), if_neg (Nat.not_lt.mpr h.size), h.body]

/-- A message from somebody who may not is refused, and nothing changes. -/
theorem Service.invalidate_of_refused (hgrant : s.around.grant = some grant)
    (hmay : ¬MayInvalidate grant message.client) :
    ∃ explanation, service.invalidate message s = (.forbidden explanation, s) := by
  rcases hcheck : checkInvalidation grant message.client with explanation | ⟨⟩
  · refine ⟨explanation, ?_⟩
    unfold Service.invalidate Work.around
    simp only [bind, StateT.bind, get, getThe, MonadStateOf.get, StateT.get, pure, StateT.pure,
      hgrant, hcheck]
  · exact absurd (checkInvalidation_eq_ok.mp hcheck) hmay

/-- A message from somebody who may goes where messages go, and is answered with what becomes of it
there. -/
theorem Service.invalidate_of_allowed (hgrant : s.around.grant = some grant)
    (hmay : MayInvalidate grant message.client) :
    service.invalidate message s =
      match service.channel.announce service.resolver.platform message s with
      | (.ok (), t) => ({ status := 204 }, t)
      | (.error _, t) => (.internalError, t) := by
  have hcheck : checkInvalidation grant message.client = .ok () :=
    checkInvalidation_eq_ok.mpr hmay
  unfold Service.invalidate Work.around
  simp only [bind, StateT.bind, get, getThe, MonadStateOf.get, StateT.get, pure, StateT.pure,
    hgrant, hcheck]
  rcases service.channel.announce service.resolver.platform message s with ⟨e | ⟨⟩, t⟩ <;> rfl

/-- A message that is posted by somebody who may not is refused and changes nothing.  One from
somebody who may makes the caches forget no more than what it is about, and is answered with 204
when it goes to the caches.  What is kept about the tree of a client is then forgotten, and what is
kept about the others stays; only the list below a site that has moved elsewhere counts as the
client's as long as the site is in the tree that is kept for the client. -/
theorem serve_invalidation (service : Service σ) (hposts : Posts request message)
    (hgrant : s.around.grant = some grant) :
    (¬MayInvalidate grant message.client → ∃ explanation,
      serve service.endpoints request s = (.error 403 "forbidden" explanation, s)) ∧
    (MayInvalidate grant message.client →
      ∃ response t, serve service.endpoints request s = (response, t) ∧
        Forgets service.resolver.platform message s t ∧
        (service.channel = .caches → response = { status := 204 }) ∧
        ∀ client, message = .siteTree client →
          (service.channel = .caches → Forgotten service.resolver.platform client s t) ∧
          ∀ tables : MembershipTables, tables.SitesKeyed →
            s.Lists service.resolver.platform tables → SparesOthers tables client s t) := by
  rw [serve_of_posts hposts]
  refine ⟨fun hmay => Service.invalidate_of_refused hgrant hmay, ?_⟩
  intro hmay
  rw [Service.invalidate_of_allowed hgrant hmay]
  have hforgets := service.channel.announce_forgets service.resolver.platform message s
  rcases hannounce : service.channel.announce service.resolver.platform message s with
    ⟨outcome, t⟩
  rw [hannounce] at hforgets
  have htaken : ∀ client, message = .siteTree client →
      (service.channel = .caches → Forgotten service.resolver.platform client s t) ∧
        ∀ tables : MembershipTables, tables.SitesKeyed →
          s.Lists service.resolver.platform tables → SparesOthers tables client s t := by
    rintro client rfl
    have hspared := service.channel.announce_siteTree service.resolver.platform client s
    rw [hannounce] at hspared
    exact hspared
  have hanswered : service.channel = .caches → outcome = .ok () := by
    intro hcaches
    rw [hcaches, InvalidationChannel.announce_caches] at hannounce
    exact (congrArg Prod.fst hannounce).symm
  rcases outcome with e | ⟨⟩
  · refine ⟨.internalError, t, rfl, hforgets, ?_, htaken⟩
    intro hcaches
    cases hanswered hcaches
  · exact ⟨{ status := 204 }, t, rfl, hforgets, fun _ => rfl, htaken⟩

/-- A message that the site tree of client 1 has changed. -/
def treeChange : Request where
  method := "POST"
  target := "/access/invalidations"
  headers := ⟨[("Content-Type", "application/json")]⟩
  body := "[\"site_tree\", \"00000000-0000-0000-0000-000000000001\"]"

/-- The request posts this message. -/
theorem posts_treeChange : Posts treeChange (.siteTree (.ofNat 1)) :=
  ⟨by decide, rfl, by decide, by decide, by decide +kernel⟩

/-- A site of a client, below another one or not. -/
def siteOf (client site : Nat) (parent : Option Nat) : SiteRecord :=
  { (default : SiteRecord) with
    id := .ofNat site, clientId := .ofNat client, parentId := parent.map .ofNat }

/-- A manager of the client is at work, and nothing is kept yet. -/
def managing (client : ClientId) (tables : MembershipTables) : AccessState World where
  world := { tables, listener := default }
  around := { work := some { (default : UnitOfWork) with
    grant := some ⟨.client, .full, some client, none, .stored default⟩ } }

/-- The state after somebody has asked what lies below a site of a client. -/
def asked (client site : Nat) (s : AccessState World) : AccessState World :=
  (SiteTrees.descendantsOf World.inMemory (.ofNat client) (.ofNat site) s).2

/-- The service over data in memory, whose messages go to its caches. -/
def Service.inMemory : Service World :=
  ⟨⟨⟨World.inMemory, []⟩, fun _ _ => .error .missingToken⟩, .caches⟩

/-- Two clients, each with a site below another one. -/
def twoTrees : MembershipTables :=
  ({} : MembershipTables)
    |>.upsertSite (siteOf 1 11 none)
    |>.upsertSite (siteOf 1 12 (some 11))
    |>.upsertSite (siteOf 2 21 none)
    |>.upsertSite (siteOf 2 22 (some 21))

/-- A manager of the client is at work, and what lies below the upper sites of both clients is
kept. -/
def twoTreesKept (client : ClientId) : AccessState World :=
  managing client twoTrees |> asked 1 11 |> asked 2 21

/-- The store in memory lists what its tables hold, or fails. -/
theorem lists_inMemory {s : AccessState World} {tables : MembershipTables}
    (hsame : s.world.tables.Same tables) : s.Lists World.inMemory tables := by
  intro client rows hrows
  change (unlessFault (fun world : World => world.storeFaults.get? .sitesFor) _ s.world).1 = _
    at hrows
  unfold unlessFault at hrows
  dsimp only at hrows
  rcases hfault : s.world.storeFaults.get? .sitesFor with _ | e <;> rw [hfault] at hrows
  · exact (Except.ok.inj hrows).symm.trans (hsame.sitesOf_eq client)
  · cases hrows

/-- What a manager of client 1 makes be forgotten is what is kept about the tree of that client; all
that is kept about client 2 stays.  A manager of client 2 is refused. -/
theorem serve_invalidation_managers :
    Posts treeChange (.siteTree (.ofNat 1)) ∧
      (twoTreesKept (.ofNat 1)).sites.descendants? (.ofNat 11) = some [.ofNat 12] ∧
      (∃ t, serve Service.inMemory.endpoints treeChange (twoTreesKept (.ofNat 1)) =
          ({ status := 204 }, t) ∧
        t.sites.tree? (.ofNat 1) = none ∧ t.sites.descendants? (.ofNat 11) = none ∧
        (t.sites.tree? (.ofNat 2)).map (·.sites) = some [.ofNat 21, .ofNat 22] ∧
        t.sites.descendants? (.ofNat 21) = some [.ofNat 22]) ∧
      ∃ explanation, serve Service.inMemory.endpoints treeChange (twoTreesKept (.ofNat 2)) =
        (.error 403 "forbidden" explanation, twoTreesKept (.ofNat 2)) := by
  have hkeyed : twoTrees.SitesKeyed :=
    (MembershipTables.Built.empty.upsertSite _ |>.upsertSite _ |>.upsertSite _
      |>.upsertSite _).sitesKeyed
  have hlists : (twoTreesKept (.ofNat 1)).Lists World.inMemory twoTrees :=
    lists_inMemory ⟨by cbv, by cbv, by cbv⟩
  obtain ⟨tree, htree, hsites⟩ : ∃ tree,
      (twoTreesKept (.ofNat 1)).sites.tree? (.ofNat 1) = some tree ∧
        tree.sites = [.ofNat 11, .ofNat 12] := by
    apply Option.map_eq_some_iff.mp
    cbv
  have hlisted : (twoTreesKept (.ofNat 1)).KnowsSite World.inMemory (.ofNat 1) (.ofNat 11) :=
    .inl ⟨tree, htree, by rw [hsites]; decide⟩
  have hapart : ∀ other, (twoTreesKept (.ofNat 1)).sites.tree? (.ofNat 1) = some other →
      .ofNat 21 ∉ other.sites := by
    intro other hfound
    obtain rfl := Option.some.inj (htree.symm.trans hfound)
    rw [hsites]
    decide
  have hother : (.ofNat 2 : ClientId) ≠ .ofNat 1 := by decide
  refine ⟨posts_treeChange, by cbv, ?_, ?_⟩
  · obtain ⟨response, t, hserve, -, hanswer, htaken⟩ :=
      (serve_invalidation Service.inMemory (s := twoTreesKept (.ofNat 1)) posts_treeChange
        (by cbv)).2 ⟨by decide, .inr rfl⟩
    obtain rfl := hanswer rfl
    obtain ⟨hforgotten, hspares⟩ := htaken (.ofNat 1) rfl
    obtain ⟨hnone, hbelow⟩ := hforgotten rfl
    obtain ⟨hsame, hstays, -⟩ := hspares twoTrees hkeyed hlists
    refine ⟨t, hserve, hnone, hbelow hlisted, ?_, ?_⟩
    · rw [hsame hother]
      cbv
    · rw [hstays hother ⟨siteOf 2 21 none, by cbv, rfl⟩ hapart]
      cbv
  · refine (serve_invalidation Service.inMemory (s := twoTreesKept (.ofNat 2)) posts_treeChange
      (by cbv)).1 ?_
    rintro ⟨-, hglobal | hclient⟩
    · exact absurd hglobal (by decide)
    · exact absurd hclient (by decide)

/-- Two sites of client 1, and what lies below one of them is kept; then the other one has moved to
client 2 with a new site below it, and what lies below it there is kept. -/
def siteMoved : AccessState World :=
  let before := managing (.ofNat 1) (({} : MembershipTables)
    |>.upsertSite (siteOf 1 11 none)
    |>.upsertSite (siteOf 1 13 none)) |> asked 1 13
  { before with world := before.world.changeTables fun tables => tables
    |>.upsertSite (siteOf 2 11 none)
    |>.upsertSite (siteOf 2 12 (some 11)) } |> asked 2 11

/-- The tree of client 1 that is kept still has the site that is client 2's now.  So a message about
client 1 makes the list below that site be forgotten, though it is the right one and all that is
stored for client 1 lies elsewhere. -/
theorem serve_invalidation_moved_site :
    Posts treeChange (.siteTree (.ofNat 1)) ∧
      siteMoved.world.tables.Owns (.ofNat 2) (.ofNat 11) ∧
      (SiteHierarchy.build (siteMoved.world.tables.nodesOf (.ofNat 2))).map
        (·.descendantsOf (.ofNat 11)) = .ok [.ofNat 12] ∧
      siteMoved.sites.descendants? (.ofNat 11) = some [.ofNat 12] ∧
      ∃ t, serve Service.inMemory.endpoints treeChange siteMoved = ({ status := 204 }, t) ∧
        t.sites.descendants? (.ofNat 11) = none := by
  refine ⟨posts_treeChange, ⟨siteOf 2 11 none, by cbv, rfl⟩, by cbv, by cbv, ?_⟩
  obtain ⟨tree, htree, hsites⟩ : ∃ tree, siteMoved.sites.tree? (.ofNat 1) = some tree ∧
      tree.sites = [.ofNat 11, .ofNat 13] := by
    apply Option.map_eq_some_iff.mp
    cbv
  have hlisted : siteMoved.KnowsSite World.inMemory (.ofNat 1) (.ofNat 11) :=
    .inl ⟨tree, htree, by rw [hsites]; decide⟩
  have hforgotten := SiteTrees.forget_forgotten World.inMemory (.ofNat 1) siteMoved
  refine ⟨_, ?_, hforgotten.below hlisted⟩
  rw [serve_of_posts posts_treeChange, Service.invalidate_of_allowed (by cbv) ⟨by decide, .inr rfl⟩]
  rfl

end Http
end TenantAccess
