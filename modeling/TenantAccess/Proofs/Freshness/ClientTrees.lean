import TenantAccess.Proofs.Freshness.Changes
import TenantAccess.Proofs.Isolation.Isolated

/-!
# Fresh site trees

Sites are stored, moved between clients and put below other ones, while trees, what lies below sites
and visible sites are asked for and kept.  Once the tree of a client is forgotten after the last
change that reshapes it, everything that is asked for about the client is as if nothing were kept.

* `SiteQuery`, `SiteEvent`: what is asked for, and what happens.
* `SiteEvent.Reshapes`: the changes after which a tree has to be forgotten.
* `faithfulTo_next`: the caches stay right about a client while its tree keeps its shape.
* `faithfulTo_forget`: they are right about it once its tree is forgotten.
* `faithfulTo_run`: so they are after any history in which it was forgotten in time.
* `ask_eq_of_refreshed`: what is asked for then is what is found with nothing kept.
-/

namespace TenantAccess

/-! ### What is asked for -/

/-- A question about the sites of clients. -/
inductive SiteQuery where
  | tree (client : ClientId)
  | below (client : ClientId) (site : SiteId)
  | visible (grant : EffectiveGrant)

/-- What is found out. -/
inductive SiteAnswer where
  | tree (found : Except SiteTreeError SiteHierarchy)
  | below (found : Except SiteTreeError (List SiteId))
  | visible (found : Except SiteTreeError VisibleSites)

namespace SiteQuery

/-- Find it out. -/
def ask {σ : Type} (platform : Platform σ) : SiteQuery → Work σ SiteAnswer
  | tree client => .tree <$> (SiteTrees.tree platform client).run
  | below client site => .below <$> (SiteTrees.descendantsOf platform client site).run
  | visible grant => .visible <$> (SiteTrees.visibleTo platform grant).run

/-- The client that is asked about. -/
def client? : SiteQuery → Option ClientId
  | tree client => some client
  | below client _ => some client
  | visible grant => grant.clientId

/-- The site that is asked about is the client's. -/
def Proper (tables : MembershipTables) : SiteQuery → Prop
  | tree _ => True
  | below client site => tables.Owns client site
  | visible grant => ∀ client site, grant.scope = .siteGroup → grant.clientId = some client →
      grant.siteId = some site → tables.Owns client site

/-- What the tables say. -/
def answer (tables : MembershipTables) : SiteQuery → SiteAnswer
  | tree client => .tree (tables.treeOf client)
  | below client site => .below ((tables.treeOf client).map (·.descendantsOf site))
  | visible grant => .visible (tables.visible grant)

variable {ρ : Type} (rest : Platform ρ) {tables : MembershipTables} {client : ClientId}
  {s : AccessState (MembershipTables × ρ)}

/-- Whatever is asked for properly, what is kept about the client stays right, and what is found out
about it is what the tables say. -/
theorem ask_servedTo (query : SiteQuery) (h : SitesServedTo tables client s)
    (hproper : query.Proper tables) :
    SitesServedTo tables client (query.ask rest.withTables s).2 ∧
      (query.client? = some client → (query.ask rest.withTables s).1 = query.answer tables) := by
  rcases query with asked | ⟨asked, site⟩ | grant
  · obtain ⟨hserved, houtcome⟩ := tree_servedTo rest h asked
    refine ⟨hserved, ?_⟩
    intro hasked
    obtain rfl := Option.some.inj hasked
    exact congrArg SiteAnswer.tree (houtcome rfl)
  · obtain ⟨hserved, houtcome⟩ := descendantsOf_servedTo rest h hproper
    refine ⟨hserved, ?_⟩
    intro hasked
    obtain rfl := Option.some.inj hasked
    exact congrArg SiteAnswer.below (houtcome rfl)
  · obtain ⟨hserved, houtcome⟩ := visibleTo_servedTo rest h hproper
    refine ⟨hserved, ?_⟩
    intro hasked
    refine congrArg SiteAnswer.visible (houtcome ?_)
    intro asked hclient
    exact Option.some.inj (hclient.symm.trans hasked)

/-- A question about no client is answered from no cache. -/
theorem ask_of_no_client (tables : MembershipTables) {query : SiteQuery}
    (h : query.client? = none) (s : AccessState (MembershipTables × ρ)) :
    (query.ask rest.withTables s).1 = query.answer tables := by
  rcases query with asked | ⟨asked, site⟩ | grant
  · cases h
  · cases h
  · have hfound := visibleTo_of_no_client rest tables h s
    exact congrArg SiteAnswer.visible (congrArg Prod.fst hfound)

end SiteQuery

/-! ### What happens -/

/-- The state without anything kept about sites. -/
def AccessState.withoutSites {σ : Type} (s : AccessState σ) : AccessState σ :=
  { s with sites := { s.sites with trees := {}, descendants := {} } }

/-- The place of a site in the tree of a client: none if it is not the client's, else below the
parent it has, if any. -/
def MembershipTables.placeIn (tables : MembershipTables) (client : ClientId) (site : SiteId) :
    Option (Option SiteId) :=
  ((tables.sites.get? site).filter (·.clientId == client)).map (·.parentId)

/-- What happens to the tables or to the caches of sites. -/
inductive SiteEvent where
  | change (made : TableChange)
  | ask (query : SiteQuery)
  | forget (client : ClientId)
  /-- Entries of the caches expire. -/
  | expire (clients : List ClientId) (sites : List SiteId)

namespace SiteEvent

/-- A change of the tables that stores a site for the client, takes one away from it, or puts one of
its sites below another parent. -/
def Reshapes (tables : MembershipTables) (client : ClientId) : SiteEvent → Prop
  | change made =>
    ∃ site, (tables.changed made).placeIn client site ≠ tables.placeIn client site
  | ask _ | forget _ | expire _ _ => False

/-- What is asked for, if anything is, is asked for properly. -/
def Proper (tables : MembershipTables) : SiteEvent → Prop
  | ask query => query.Proper tables
  | change _ | forget _ | expire _ _ => True

variable {ρ : Type} (rest : Platform ρ)

/-- The state after an event. -/
def next (s : AccessState (MembershipTables × ρ)) : SiteEvent → AccessState (MembershipTables × ρ)
  | change made => s.changed made
  | ask query => (query.ask rest.withTables s).2
  | forget client => (SiteTrees.forget rest.withTables client s).2
  | expire clients sites => { s with sites := s.sites.expire clients sites }

/-- The state after a list of events. -/
def run (s : AccessState (MembershipTables × ρ)) (events : List SiteEvent) :
    AccessState (MembershipTables × ρ) :=
  events.foldl (next rest) s

/-- Whatever is asked for is asked for properly at that moment. -/
def AllProper (s : AccessState (MembershipTables × ρ)) : List SiteEvent → Prop
  | [] => True
  | event :: later => event.Proper s.world.1 ∧ AllProper (event.next rest s) later

/-- Each event that reshapes the tree of the client is followed by one that forgets it. -/
def Refreshed (client : ClientId) (s : AccessState (MembershipTables × ρ)) :
    List SiteEvent → Prop
  | [] => True
  | event :: later => (event.Reshapes s.world.1 client → forget client ∈ later) ∧
      Refreshed client (event.next rest s) later

end SiteEvent

/-! ### The shape of a tree -/

namespace MembershipTables

variable {tables tables' : MembershipTables} {client : ClientId} {site : SiteId}

/-- A site has a place in the tree of a client when it is stored for the client, below the parent
that is stored with it. -/
theorem placeIn_eq_some {parentId : Option SiteId} :
    tables.placeIn client site = some parentId ↔
      ∃ row, tables.sites.get? site = some row ∧ row.clientId = client ∧
        row.parentId = parentId := by
  unfold placeIn
  simp only [Option.map_eq_some_iff, Option.filter_eq_some_iff, beq_iff_eq, and_assoc]

/-- The sites that have a place are those of the client. -/
theorem owns_iff_placeIn : tables.Owns client site ↔ (tables.placeIn client site).isSome := by
  rw [Option.isSome_iff_exists]
  simp only [placeIn_eq_some]
  unfold Owns
  constructor
  · rintro ⟨row, hrow, hclient⟩
    exact ⟨_, row, hrow, hclient, rfl⟩
  · rintro ⟨_, row, hrow, hclient, -⟩
    exact ⟨row, hrow, hclient⟩

/-- The listed sites and parents are the places. -/
theorem mem_nodesOf (h : tables.SitesKeyed) {node : SiteNode} :
    node ∈ tables.nodesOf client ↔ tables.placeIn client node.id = some node.parentId := by
  rw [placeIn_eq_some]
  unfold nodesOf SiteRecord.node
  rw [List.mem_map]
  constructor
  · rintro ⟨row, hrow, rfl⟩
    obtain ⟨hget, hclient⟩ := (mem_sitesOf_iff h).mp hrow
    exact ⟨row, hget, hclient, rfl⟩
  · rintro ⟨row, hget, hclient, hparent⟩
    have hid := id_of_get? h hget
    refine ⟨row, (mem_sitesOf_iff h).mpr ⟨by rwa [hid], hclient⟩, ?_⟩
    rw [hid, hparent]

/-- The tree of a client is a matter of the places in it. -/
theorem build_nodesOf_congr (h : tables.SitesKeyed) (h' : tables'.SitesKeyed)
    (hplaces : ∀ site, tables'.placeIn client site = tables.placeIn client site) :
    SiteHierarchy.build (tables'.nodesOf client) =
      SiteHierarchy.build (tables.nodesOf client) := by
  apply SiteHierarchy.build_perm (nodup_nodesOf h client)
  rw [List.perm_ext_iff_of_nodup ((nodup_nodesOf h' client).of_map _)
    ((nodup_nodesOf h client).of_map _)]
  intro node
  rw [mem_nodesOf h, mem_nodesOf h', hplaces]

end MembershipTables

/-! ### What one event does -/

section event

variable {ρ : Type} (rest : Platform ρ) {s : AccessState (MembershipTables × ρ)}
  {client : ClientId} {tables : MembershipTables}

/-- What is right about the tables that the store agrees with is right about what it holds. -/
theorem SitesServedTo.faithfulTo (h : SitesServedTo tables client s) :
    s.sites.FaithfulTo s.world.1 client := by
  apply h.kept.of_tables
  · rw [h.stored.nodesOf_eq]
  · intro site howns
    unfold MembershipTables.Owns at howns ⊢
    rwa [← h.stored.sites]

/-- Forgetting the tree of another client leaves less about this one. -/
theorem faithfulTo_forget_other (other : ClientId) (h : s.sites.FaithfulTo s.world.1 client) :
    SitesServedTo s.world.1 client (SiteTrees.forget rest.withTables other s).2 := by
  refine ⟨⟨rfl, rfl, rfl⟩, h.of_less ?_ ?_⟩
  · intro tree htree
    have hforgotten : (s.sites.forgetTree other).tree? client = some tree := htree
    exact (SiteCache.tree?_forgetTree hforgotten).2
  · intro site below hkept
    exact SiteCache.descendants?_forgetTree (SiteCache.descendants?_forgetDescendants hkept).2

/-- Once the tree of a client is forgotten nothing is kept about it: neither its tree, nor what lies
below any site that is the client's by now. -/
theorem faithfulTo_forget (hkeyed : s.world.1.SitesKeyed) :
    SitesServedTo s.world.1 client (SiteTrees.forget rest.withTables client s).2 := by
  refine ⟨⟨rfl, rfl, rfl⟩, ?_, ?_⟩
  · intro tree htree
    have hforgotten : (s.sites.forgetTree client).tree? client = some tree := htree
    exact absurd rfl (SiteCache.tree?_forgetTree hforgotten).1
  · rintro site below ⟨row, hrow, hclient⟩ hkept
    have hid := MembershipTables.id_of_get? hkeyed hrow
    subst hid
    have hmem := (MembershipTables.mem_sitesOf_iff hkeyed).mpr ⟨hrow, hclient⟩
    have hlisted : row.id ∈ (s.world.1.sitesOf client).map (·.id) := List.mem_map_of_mem hmem
    exact absurd hlisted (SiteCache.descendants?_forgetDescendants hkept).1

/-- While the tree of a client keeps its shape, the caches stay right about it. -/
theorem faithfulTo_next (event : SiteEvent) (hbuilt : s.world.1.Built)
    (hproper : event.Proper s.world.1) (hshape : ¬event.Reshapes s.world.1 client)
    (h : s.sites.FaithfulTo s.world.1 client) :
    (event.next rest s).sites.FaithfulTo (event.next rest s).world.1 client := by
  have hserved : SitesServedTo s.world.1 client s := ⟨.refl _, h⟩
  cases event with
  | change made =>
    have hplaces : ∀ site, (s.world.1.changed made).placeIn client site =
        s.world.1.placeIn client site := by
      simpa [SiteEvent.Reshapes] using hshape
    apply h.of_tables
    · exact MembershipTables.build_nodesOf_congr hbuilt.sitesKeyed
        (hbuilt.changed made).sitesKeyed hplaces
    · intro site howns
      rw [MembershipTables.owns_iff_placeIn] at howns ⊢
      rwa [← hplaces]
  | ask query => exact (query.ask_servedTo rest hserved hproper).1.faithfulTo
  | forget other => exact (faithfulTo_forget_other rest other h).faithfulTo
  | expire clients sites => exact h.of_less SiteCache.tree?_expire SiteCache.descendants?_expire

/-- Finding out about sites changes nothing that the tables hold. -/
theorem ReadsSites.same {t : AccessState (MembershipTables × ρ)}
    (h : ReadsSites rest.withTables s t) : t.world.1.Same s.world.1 := by
  have hworlds : ∀ world, Relation.ReflTransGen (fun before after => ∃ client around,
      after = (rest.withTables.store.sitesFor client around before).2) s.world world →
      world.1.Same s.world.1 := by
    intro world hreads
    induction hreads with
    | refl => exact .refl _
    | @tail before _ _ hlast ih =>
      obtain ⟨client, around, rfl⟩ := hlast
      have hread : (rest.withTables.store.sitesFor client around before).2.1.Same before.1 :=
        ⟨rfl, rfl, rfl⟩
      exact hread.trans ih
  exact hworlds t.world h.world

/-- The tables stay built up by changes. -/
theorem built_next (event : SiteEvent) (h : s.world.1.Built) :
    (event.next rest s).world.1.Built := by
  cases event with
  | change made => exact h.changed made
  | ask query =>
    rcases query with client | ⟨client, site⟩ | grant
    · exact .read (tree_reads rest.withTables client s).same h
    · exact .read (descendantsOf_reads rest.withTables client site s).same h
    · exact .read (visibleTo_reads rest.withTables grant s).same h
  | forget client =>
    have hsame : (SiteTrees.forget rest.withTables client s).2.world.1.Same s.world.1 :=
      ⟨rfl, rfl, rfl⟩
    exact .read hsame h
  | expire clients sites => exact h

end event

/-! ### What a history does -/

section history

variable {ρ : Type} (rest : Platform ρ) {client : ClientId}

/-- The caches are right about a client after a history in which each change that reshapes its tree is
followed by forgetting it, if they were right before or its tree is forgotten anyway. -/
theorem faithfulTo_run {events : List SiteEvent} {s : AccessState (MembershipTables × ρ)}
    (hbuilt : s.world.1.Built) (hproper : SiteEvent.AllProper rest s events)
    (hrefreshed : SiteEvent.Refreshed rest client s events)
    (h : s.sites.FaithfulTo s.world.1 client ∨ .forget client ∈ events) :
    (SiteEvent.run rest s events).sites.FaithfulTo
      (SiteEvent.run rest s events).world.1 client := by
  induction events generalizing s with
  | nil => exact h.resolve_right List.not_mem_nil
  | cons event later ih =>
    obtain ⟨hevent, hlater⟩ := hproper
    obtain ⟨hshape, hrest⟩ := hrefreshed
    apply ih (built_next rest event hbuilt) hlater hrest
    by_cases hforgotten : .forget client ∈ later
    · exact .inr hforgotten
    · left
      by_cases hnow : event = .forget client
      · rw [hnow]
        exact (faithfulTo_forget rest hbuilt.sitesKeyed).faithfulTo
      · have hkept : s.sites.FaithfulTo s.world.1 client := by
          apply h.resolve_right
          rw [List.mem_cons, not_or]
          exact ⟨fun heq => hnow heq.symm, hforgotten⟩
        exact faithfulTo_next rest event hbuilt hevent (fun hreshapes => hforgotten (hshape hreshapes))
          hkept

/-- Whatever has happened since nothing was kept about sites, with everything asked for properly: what
is asked for about a client whose tree was forgotten after each change that reshaped it is what is
found with nothing kept. -/
theorem ask_eq_of_refreshed (s : AccessState (MembershipTables × ρ)) (events : List SiteEvent)
    (query : SiteQuery) (hbuilt : s.world.1.Built)
    (hproper : SiteEvent.AllProper rest s.withoutSites events)
    (hquery : query.Proper (SiteEvent.run rest s.withoutSites events).world.1)
    (hrefreshed : ∀ client, query.client? = some client →
      SiteEvent.Refreshed rest client s.withoutSites events) :
    (query.ask rest.withTables (SiteEvent.run rest s.withoutSites events)).1 =
      (query.ask rest.withTables (SiteEvent.run rest s.withoutSites events).withoutSites).1 := by
  rcases hclient : query.client? with _ | client
  · rw [SiteQuery.ask_of_no_client rest s.world.1 hclient,
      SiteQuery.ask_of_no_client rest s.world.1 hclient]
  · let now := SiteEvent.run rest s.withoutSites events
    have hkept : SitesServedTo now.world.1 client now :=
      ⟨.refl _, faithfulTo_run rest hbuilt hproper (hrefreshed client hclient)
        (.inl (.of_empty rfl rfl))⟩
    have hempty : SitesServedTo now.world.1 client now.withoutSites :=
      ⟨.refl _, .of_empty rfl rfl⟩
    rw [(query.ask_servedTo rest hkept hquery).2 hclient,
      (query.ask_servedTo rest hempty hquery).2 hclient]

end history

/-! ### A site that moves -/

/-- A site is asked about in both clients before and after it moves from one to the other, and only
the tree of the second one is forgotten. -/
def moved : List SiteEvent := [
  .ask (.below (.ofNat 1) (.ofNat 11)),
  .ask (.below (.ofNat 2) (.ofNat 21)),
  .change (.upsertSite (openSite 12 2 (some 21))),
  .ask (.tree (.ofNat 1)),
  .ask (.below (.ofNat 2) (.ofNat 12)),
  .ask (.below (.ofNat 2) (.ofNat 21)),
  .forget (.ofNat 2)]

/-- Where nothing is kept about sites yet. -/
def beforeMove : AccessState (MembershipTables × World) where
  world := (twoClients, { listener := default })

/-- In the client it has moved to, the site is found at its place. -/
theorem ask_eq_of_refreshed_moved :
    let query : SiteQuery := .below (.ofNat 2) (.ofNat 21)
    let now := SiteEvent.run World.inMemory beforeMove.withoutSites moved
    twoClients.Built ∧ SiteEvent.AllProper World.inMemory beforeMove.withoutSites moved ∧
      query.Proper now.world.1 ∧
      SiteEvent.Refreshed World.inMemory (.ofNat 2) beforeMove.withoutSites moved ∧
      (query.ask World.inMemory.withTables now).1 = .below (.ok [.ofNat 12]) ∧
      (query.ask World.inMemory.withTables now).1 =
        (query.ask World.inMemory.withTables now.withoutSites).1 := by
  intro query now
  have hbuilt : twoClients.Built :=
    .addGrant _ _ <| .addGrant _ _ <| .upsertSite _ <| .upsertSite _ <| .upsertSite _ <|
      .upsertSite _ <| .upsertClient _ _ <| .upsertClient _ _ .empty
  have hproper : SiteEvent.AllProper World.inMemory beforeMove.withoutSites moved :=
    ⟨⟨openSite 11 1 none, by cbv, rfl⟩, ⟨openSite 21 2 none, by cbv, rfl⟩, trivial, trivial,
      ⟨openSite 12 2 (some 21), by cbv, rfl⟩, ⟨openSite 21 2 none, by cbv, rfl⟩, trivial, trivial⟩
  have hquery : query.Proper now.world.1 := ⟨openSite 21 2 none, by cbv, rfl⟩
  have hrefreshed : SiteEvent.Refreshed World.inMemory (.ofNat 2) beforeMove.withoutSites moved :=
    ⟨False.elim, False.elim, fun _ => by simp, False.elim, False.elim, False.elim, False.elim,
      trivial⟩
  refine ⟨hbuilt, hproper, hquery, hrefreshed, by cbv, ?_⟩
  apply ask_eq_of_refreshed World.inMemory beforeMove moved query hbuilt hproper hquery
  intro client hclient
  obtain rfl := Option.some.inj hclient
  exact hrefreshed

end TenantAccess
