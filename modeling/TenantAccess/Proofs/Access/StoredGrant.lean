import TenantAccess.Proofs.Access.Applying
import TenantAccess.Proofs.Access.Reduction
import TenantAccess.World

/-!
# Stored grants stay within the principal's memberships

A grant that is attributed to a stored role comes from one of the principal's own memberships that
apply to the request, and never reaches beyond what those memberships and the states of the client
and the site allow.

* `StoredGrant`: all that such a grant is bound to.
* `resolveFresh_stored`: every grant with a stored role is bound to it.
-/

namespace TenantAccess

/-! ### What a grant is bound to -/

/-- The grant is that of the membership, which is one of the principal's own that apply to the
request. -/
structure StoredGrant (tables : MembershipTables) (principal : IdpId) (requested : RequestedTenant)
    (record : RoleGrantRecord) (grant : EffectiveGrant) : Prop where
  /-- Of the considered memberships with the scope of the grant it is the first: primary before
  others, then the oldest, then the first one stored. -/
  leads : RoleGrantRecord.Leads (tables.considered principal requested)
    (fun other => other.scope = grant.scope) record
  /-- No considered membership is broader. -/
  broadest : ∀ other ∈ tables.considered principal requested,
    grant.scope.atLeast other.scope = true
  role : grant.role = .stored record.roleId
  clientId : grant.clientId = some record.clientId
  /-- The capabilities of all considered memberships and no other ones. -/
  capabilities : grant.capabilities =
    .unionOf ((tables.considered principal requested).map (·.capabilities))
  /-- The client is the one asked for. -/
  requestedClient : ∀ client, requested.clientId = some client → grant.clientId = some client
  /-- So is the site, and it is a stored site of the client. -/
  requestedSite : ∀ client site, requested.clientId = some client →
    requested.siteId = some site → grant.siteId = some site ∧
      ∃ row, tables.sites.get? site = some row ∧ row.clientId = client
  /-- Otherwise the site is that of the membership. -/
  ownSite : requested.clientId = none ∨ requested.siteId = none → grant.siteId = record.siteId
  /-- Below the scope that spans clients, the client can be worked in. -/
  clientActive : grant.scope.atLeast .global = false →
    tables.clients.get? record.clientId = some .active ∨
      tables.clients.get? record.clientId = some .legacy
  /-- Below the scope that spans sites, so can the site. -/
  siteActive : grant.scope.atLeast .client = false → ∀ site, grant.siteId = some site →
    ∃ row, tables.sites.get? site = some row ∧ row.clientId = record.clientId ∧
      row.status = .active

/-! ### Active tenants -/

namespace MembershipTables

variable {tables : MembershipTables} {grant : EffectiveGrant} {requested : RequestedTenant}

/-- Below the scope that spans clients, an active grant is for a client that can be worked in. -/
theorem client_of_activation {client : ClientId} (h : tables.activation grant requested = .ok ())
    (hscope : grant.scope.atLeast .global = false) (hclient : grant.clientId = some client) :
    tables.clients.get? client = some .active ∨ tables.clients.get? client = some .legacy := by
  unfold activation at h
  rw [if_neg (by simp [hscope]), hclient] at h
  dsimp only at h
  rcases hstatus : tables.clients.get? client with _ | status
  · simp [hstatus] at h
  · rcases status with _ | _ | _ | _ | _ <;> simp [hstatus, ClientStatus.isActive] at h ⊢

/-- A scope that does not reach a whole client does not reach all clients. -/
theorem atLeast_global_of_client {scope : Scope} (h : scope.atLeast .client = false) :
    scope.atLeast .global = false := by
  rcases scope with _ | _ | _ | _ | _ | _ <;> first | rfl | exact absurd h (by decide)

/-- Below the scope that spans sites, an active grant for a site is for one that can be worked
in. -/
theorem site_of_activation {client : ClientId} {site : SiteId}
    (h : tables.activation grant requested = .ok ()) (hscope : grant.scope.atLeast .client = false)
    (hclient : grant.clientId = some client) (hsite : grant.siteId = some site) :
    ∃ row, tables.sites.get? site = some row ∧ row.clientId = client ∧ row.status = .active := by
  have hactive := client_of_activation h (atLeast_global_of_client hscope) hclient
  unfold activation at h
  rw [if_neg (by simp [atLeast_global_of_client hscope]), hclient] at h
  dsimp only at h
  rw [← statusOfSite_eq_some]
  rcases hstatus : tables.statusOfSite client site with _ | status
  · rcases hactive with hactive | hactive <;>
      simp [hactive, ClientStatus.isActive, hscope, hsite, hstatus] at h
  · rcases hactive with hactive | hactive <;> rcases status with _ | _ | _ <;>
      simp [hactive, ClientStatus.isActive, SiteStatus.isActive, hscope, hsite, hstatus] at h ⊢

end MembershipTables

/-! ### The membership behind a grant -/

namespace RoleGrantRecord

variable {records : List RoleGrantRecord} {requested : RequestedTenant} {record : RoleGrantRecord}

/-- The first of the broadest among the pinned memberships is the first of the broadest among the
memberships, pinned. -/
theorem FirstBroadest.of_pinned (h : FirstBroadest (records.map (·.pinned requested)) record) :
    ∃ record', record = record'.pinned requested ∧ FirstBroadest records record' := by
  obtain ⟨earlier, later, heq, hearlier, hlater⟩ := h
  obtain ⟨earlier', rest, rfl, rfl, hrest⟩ := List.map_eq_append_iff.mp heq
  obtain ⟨record', later', rfl, rfl, rfl⟩ := List.map_eq_cons_iff.mp hrest
  refine ⟨record', rfl, earlier', later', rfl, ?_, ?_⟩
  · intro other hother
    simpa using hearlier _ (List.mem_map_of_mem hother)
  · intro other hother
    simpa using hlater _ (List.mem_map_of_mem hother)

/-- The first of the broadest by precedence leads those of its scope. -/
theorem FirstBroadest.leads (h : FirstBroadest (byPrecedence records) record) :
    Leads records (fun other => other.scope = record.scope) record := by
  obtain ⟨earlier, later, heq, hearlier, -⟩ := h
  refine first_of_byPrecedence heq rfl ?_
  intro other hother hscope
  have hbroader := hearlier other hother
  rw [Scope.broader_iff, hscope] at hbroader
  exact absurd hbroader (Nat.lt_irrefl _)

end RoleGrantRecord

/-- The order and the pinning of the memberships do not matter for their capabilities. -/
theorem unionOf_taken (tables : MembershipTables) (principal : IdpId)
    (requested : RequestedTenant) :
    CapabilitySet.unionOf ((tables.taken principal requested).map (·.capabilities)) =
      .unionOf ((tables.considered principal requested).map (·.capabilities)) := by
  apply CapabilitySet.unionOf_congr
  intro set
  unfold MembershipTables.taken
  simp only [List.map_map, List.mem_map, RoleGrantRecord.mem_byPrecedence, Function.comp_apply,
    RoleGrantRecord.pinned_capabilities]

/-- An active grant of what is taken is bound to the memberships. -/
theorem storedGrant_of_activeGrant {tables : MembershipTables} {principal : IdpId}
    {requested : RequestedTenant} {grant : EffectiveGrant} (hsites : tables.SiteOwned requested)
    (h : tables.activeGrant (tables.taken principal requested) requested = .ok grant) :
    ∃ record, StoredGrant tables principal requested record grant := by
  obtain ⟨hreduce, hactive⟩ := MembershipTables.activeGrant_ok h
  obtain ⟨pinned, hgrant⟩ := reduces_of_reduce? hreduce
  obtain ⟨record, rfl, hfirst⟩ := hgrant.first.of_pinned
  have hscope : grant.scope = record.scope := by rw [hgrant.scope, RoleGrantRecord.pinned_scope]
  have hclient : grant.clientId = some record.clientId := by
    rw [hgrant.clientId, RoleGrantRecord.pinned_clientId]
  have hleads := hfirst.leads
  have happlies : record.appliesTo requested = true := (List.mem_filter.mp hleads.mem).2
  refine ⟨record, { leads := ?_, broadest := ?_, role := ?_, clientId := hclient,
                    capabilities := ?_, requestedClient := ?_, requestedSite := ?_, ownSite := ?_,
                    clientActive := ?_, siteActive := ?_ }⟩
  · rw [hscope]
    exact hleads
  · intro other hother
    rw [hscope]
    exact hfirst.atLeast (RoleGrantRecord.mem_byPrecedence.mpr hother)
  · rw [hgrant.role, RoleGrantRecord.pinned_roleId]
  · rw [hgrant.capabilities, unionOf_taken]
  · intro client hrequested
    rw [hclient, RoleGrantRecord.clientId_of_appliesTo happlies hrequested]
  · intro client site hrequested hsite
    refine ⟨?_, hsites client site hrequested hsite⟩
    rw [hgrant.siteId, RoleGrantRecord.pinned_siteId_of_some _ _ hrequested hsite]
  · intro hnone
    rw [hgrant.siteId, RoleGrantRecord.pinned_siteId_of_none _ _ hnone]
  · intro hbelow
    exact MembershipTables.client_of_activation hactive hbelow hclient
  · intro hbelow site hsite
    exact MembershipTables.site_of_activation hactive hbelow hclient hsite

/-- An answer attributed to a stored role is an active grant of what is taken. -/
theorem activeGrant_of_answer {tables : MembershipTables} {admins : List String}
    {principal : Principal} {requested : RequestedTenant} {grant : EffectiveGrant}
    (hsites : tables.SiteOwned requested)
    (h : tables.answer admins principal requested = .ok grant)
    (hstored : grant.isEphemeral = false) :
    tables.activeGrant (tables.taken principal.idpId requested) requested = .ok grant := by
  rw [tables.answer_of_siteOwned admins principal hsites] at h
  rcases hintent : tables.byIntent principal.idpId requested with _ | escalation
  · rw [hintent] at h
    dsimp only at h
    unfold MembershipTables.answerTaken at h
    split at h
    · exact h
    split at h
    · obtain rfl := Except.ok.inj h
      rw [MembershipTables.asBootstrap_isEphemeral] at hstored
      cases hstored
    · cases h
  · rw [hintent] at h
    obtain rfl := Except.ok.inj h
    rw [MembershipTables.byIntent_isEphemeral hintent] at hstored
    cases hstored

/-- Whatever the tables hold, a grant with a stored role is that of a membership of the principal
that applies to the request, for a client and a site that are active as far as its scope asks for
it. -/
theorem resolveFresh_stored {ρ : Type} (rest : Platform ρ) (admins : List String)
    (principal : Principal) (requested : RequestedTenant)
    (s : AccessState (MembershipTables × ρ)) (grant : EffectiveGrant)
    (h : (MembershipTables.resolver rest admins).resolveFresh principal requested s = .ok grant)
    (hstored : grant.isEphemeral = false) :
    ∃ record, StoredGrant s.world.1 principal.idpId requested record grant := by
  rw [resolveFresh_eq_answer] at h
  have hsites := s.world.1.siteOwned_of_answer admins principal h
  exact storedGrant_of_activeGrant hsites (activeGrant_of_answer hsites h hstored)

/-- The manager of a client who is primarily a member of one of its sites. -/
def managerAndMember : MembershipTables where
  grants := [
    (⟨"ann"⟩, { (default : RoleGrantRecord) with
      clientId := .ofNat 1, roleId := .ofNat 21, scope := .client, capabilities := ⟨1⟩ }),
    (⟨"ann"⟩, { (default : RoleGrantRecord) with
      clientId := .ofNat 1, siteId := some (.ofNat 11), roleId := .ofNat 22, scope := .site,
      capabilities := ⟨2⟩, isPrimary := true })]
  clients := ⟨[(.ofNat 1, .legacy)]⟩
  sites := ⟨[(.ofNat 11, { (default : SiteRecord) with
    id := .ofNat 11, clientId := .ofNat 1, status := .active })]⟩

/-- At the site the manager is the broader one, and the member's capabilities are added. -/
theorem resolveFresh_stored_manager :
    let resolver := MembershipTables.resolver World.inMemory []
    let ann := Principal.unnamed ⟨"ann"⟩ "ann@example.org" "ann"
    let requested : RequestedTenant := ⟨some (.ofNat 1), some (.ofNat 11), .normal⟩
    let s : AccessState (MembershipTables × World) :=
      { world := (managerAndMember, { listener := default }) }
    let grant : EffectiveGrant :=
      ⟨.client, ⟨3⟩, some (.ofNat 1), some (.ofNat 11), .stored (.ofNat 21)⟩
    resolver.resolveFresh ann requested s = .ok grant ∧ grant.isEphemeral = false ∧
      ∃ record, StoredGrant managerAndMember ann.idpId requested record grant := by
  intro resolver ann requested s grant
  have hgrant : resolver.resolveFresh ann requested s = .ok grant := by cbv
  have hstored : grant.isEphemeral = false := rfl
  exact ⟨hgrant, hstored,
    resolveFresh_stored World.inMemory [] ann requested s grant hgrant hstored⟩

end TenantAccess
