import TenantAccess.Proofs.Access.Coherence
import TenantAccess.Proofs.Access.Escalation
import TenantAccess.World

/-!
# Caches after a change of memberships

When a membership of a principal in a client changes, the grants that are kept for the principal
without a tenant and in that client are forgotten.  What is kept for other clients stays, although
the right to escalate in them may come from the changed membership.

* `MembershipChange`: a membership is stored or removed.
* `EscalationTurns`: the change gives or takes the right to escalate in another client.
* `coherent_afterChange_iff`: forgetting leaves a coherent cache exactly when no request with a kept
  grant is one for which escalation turns.
-/

namespace TenantAccess

/-- A membership of the principal in the client is stored, or those with an identifier are removed,
which if they are the principal's are in the client. -/
inductive MembershipChange (tables : MembershipTables) (principal : IdpId) (client : ClientId) :
    MembershipTables → Prop where
  | add (record : RoleGrantRecord) (h : record.clientId = client) :
    MembershipChange tables principal client (tables.addGrant principal record)
  | remove (id : MembershipId)
    (h : ∀ record ∈ tables.own principal, record.membershipId = id → record.clientId = client) :
    MembershipChange tables principal client (tables.removeGrant id)

/-! ### What a change leaves as it is -/

namespace MembershipChange

variable {tables tables' : MembershipTables} {principal : IdpId} {client other : ClientId}
  {requested : RequestedTenant}

/-- The clients stay as they are. -/
theorem clients_eq (h : MembershipChange tables principal client tables') :
    tables'.clients = tables.clients := by
  cases h <;> rfl

/-- The sites stay as they are. -/
theorem sites_eq (h : MembershipChange tables principal client tables') :
    tables'.sites = tables.sites := by
  cases h <;> rfl

/-- The memberships that apply in another client are the same ones as before. -/
theorem considered_eq (h : MembershipChange tables principal client tables')
    (hclient : requested.clientId = some other) (hne : other ≠ client) :
    tables'.considered principal requested = tables.considered principal requested := by
  have hother : ∀ record : RoleGrantRecord, record.clientId = client →
      record.appliesTo requested = false := by
    intro record hrecord
    apply Bool.eq_false_iff.mpr
    intro happlies
    exact hne ((RoleGrantRecord.clientId_of_appliesTo happlies hclient).symm.trans hrecord)
  cases h with
  | add record h =>
    unfold MembershipTables.considered MembershipTables.own MembershipTables.addGrant
    simp [hother record h]
  | remove id h =>
    unfold MembershipTables.considered MembershipTables.own MembershipTables.removeGrant
    rw [List.filter_map, List.filter_map, List.filter_filter, List.filter_filter,
      List.filter_filter]
    congr 1
    apply List.filter_congr
    rintro ⟨holder, record⟩ hmem
    rcases hholder : holder == principal with _ | _
    · simp
    · obtain rfl := eq_of_beq hholder
      by_cases hid : record.membershipId = id
      · have := hother record (h record (MembershipTables.mem_own.mpr hmem) hid)
        simp [this]
      · simp [hid]

/-- What is taken for a request in another client stays as it is. -/
theorem taken_eq (h : MembershipChange tables principal client tables')
    (hclient : requested.clientId = some other) (hne : other ≠ client) :
    tables'.taken principal requested = tables.taken principal requested := by
  unfold MembershipTables.taken
  rw [h.considered_eq hclient hne]

/-- The site to escalate in stays the same. -/
theorem escalationSite_eq (h : MembershipChange tables principal client tables')
    (site : Option SiteId) :
    tables'.escalationSite other site = tables.escalationSite other site := by
  unfold MembershipTables.escalationSite MembershipTables.sitesOf
  rw [h.sites_eq]

/-- The same memberships come to the same grant, as active as before. -/
theorem activeGrant_eq (h : MembershipChange tables principal client tables')
    (records : List RoleGrantRecord) :
    tables'.activeGrant records requested = tables.activeGrant records requested := by
  unfold MembershipTables.activeGrant MembershipTables.activation MembershipTables.statusOfSite
  rw [h.clients_eq, h.sites_eq]

/-- The site asked for is the client's after the change if it was before. -/
theorem siteOwned_iff (h : MembershipChange tables principal client tables') :
    tables'.SiteOwned requested ↔ tables.SiteOwned requested := by
  unfold MembershipTables.SiteOwned
  rw [h.sites_eq]

end MembershipChange

/-! ### Where escalation turns -/

/-- The change gives or takes the right to escalate in another client with the intent of the
request, there is a site to escalate in, and the principal is not one who gets the same grant as a
bootstrap administrator. -/
def EscalationTurns (tables tables' : MembershipTables) (admins : List String)
    (principal : Principal) (client : ClientId) (requested : RequestedTenant) : Prop :=
  ∃ other, requested.clientId = some other ∧ other ≠ client ∧
    mayEscalate (tables.own principal.idpId) requested.intent ≠
      mayEscalate (tables'.own principal.idpId) requested.intent ∧
    (requested.siteId ≠ none ∨ ∃ row, tables.HasSite other row) ∧
    ¬(tables.considered principal.idpId requested = [] ∧ OnBootstrapList admins principal)

section turns

variable {tables tables' : MembershipTables} {admins : List String} {principal : Principal}
  {client other : ClientId} {requested : RequestedTenant}

/-- For a request in another client, escalation turns when the right to it does. -/
theorem escalationTurns_iff (hclient : requested.clientId = some other) (hne : other ≠ client) :
    EscalationTurns tables tables' admins principal client requested ↔
      mayEscalate (tables.own principal.idpId) requested.intent ≠
          mayEscalate (tables'.own principal.idpId) requested.intent ∧
        (tables.escalationSite other requested.siteId).isSome ∧
        ¬(tables.considered principal.idpId requested = [] ∧ OnBootstrapList admins principal) := by
  unfold EscalationTurns
  rw [hclient, MembershipTables.escalationSite_isSome]
  simp [hne]

/-- Without an escalation by intent, its grant is given to bootstrap administrators without applying
memberships only. -/
theorem answerTaken_eq_escalation {site : SiteId} (hclient : requested.clientId = some other)
    (hsite : tables.escalationSite other requested.siteId = some site) :
    tables.answerTaken admins principal requested = .ok (.ephemeral (some other) (some site)) ↔
      tables.considered principal.idpId requested = [] ∧ OnBootstrapList admins principal := by
  have hgrant : tables.asBootstrap requested = .ephemeral (some other) (some site) := by
    unfold MembershipTables.asBootstrap
    rw [hclient]
    dsimp only
    rw [hsite]
  have hadmin : MembershipTables.bootstraps admins principal requested = true ↔
      OnBootstrapList admins principal := by
    unfold MembershipTables.bootstraps
    rw [hclient, ← isBootstrapAdmin_iff]
    simp
  rw [← hadmin, ← MembershipTables.taken_eq_nil]
  constructor
  · intro h
    obtain ⟨htaken, hboot, -⟩ := MembershipTables.answerTaken_ephemeral.mp ⟨h, rfl⟩
    exact ⟨htaken, hboot⟩
  · rintro ⟨htaken, hboot⟩
    exact (MembershipTables.answerTaken_ephemeral.mpr ⟨htaken, hboot, hgrant⟩).1

/-- Without an escalation by intent, grants in another client are what they were. -/
theorem MembershipChange.answerTaken_ok_iff {grant : EffectiveGrant}
    (h : MembershipChange tables principal.idpId client tables')
    (hclient : requested.clientId = some other) (hne : other ≠ client) :
    tables'.answerTaken admins principal requested = .ok grant ↔
      tables.answerTaken admins principal requested = .ok grant := by
  have hboot : tables'.asBootstrap requested = tables.asBootstrap requested := by
    unfold MembershipTables.asBootstrap
    simp only [h.escalationSite_eq]
  unfold MembershipTables.answerTaken
  rw [h.taken_eq hclient hne, h.activeGrant_eq, hboot]
  split
  · exact Iff.rfl
  split
  · exact Iff.rfl
  · simp

/-- A grant given in another client is still given after the change exactly when escalation does not
turn. -/
theorem MembershipChange.answer_ok_iff {grant : EffectiveGrant}
    (h : MembershipChange tables principal.idpId client tables')
    (hclient : requested.clientId = some other) (hne : other ≠ client)
    (hgrant : tables.answer admins principal requested = .ok grant) :
    tables'.answer admins principal requested = .ok grant ↔
      ¬EscalationTurns tables tables' admins principal client requested := by
  rw [escalationTurns_iff hclient hne]
  have hsites : tables.SiteOwned requested := tables.siteOwned_of_answer admins principal hgrant
  rw [tables.answer_of_siteOwned admins principal hsites] at hgrant
  rw [tables'.answer_of_siteOwned admins principal (h.siteOwned_iff.mpr hsites)]
  have htaken : tables'.answerTaken admins principal requested = .ok grant ↔
      tables.answerTaken admins principal requested = .ok grant :=
    h.answerTaken_ok_iff hclient hne
  rw [MembershipTables.byIntent_of_some hclient] at hgrant ⊢
  rw [h.escalationSite_eq]
  rcases hsite : tables.escalationSite other requested.siteId with _ | site
  · -- without a site there is no escalation, neither before nor after
    simp only [hsite, Option.map_none, ite_self] at hgrant ⊢
    simpa [htaken] using hgrant
  have hescalation : tables.answerTaken admins principal requested =
      .ok (.ephemeral (some other) (some site)) ↔ _ := answerTaken_eq_escalation hclient hsite
  rcases hmay : mayEscalate (tables.own principal.idpId) requested.intent with _ | _ <;>
    rcases hmay' : mayEscalate (tables'.own principal.idpId) requested.intent with _ | _
  · simpa [hmay, htaken] using hgrant
  · -- the change gives the right
    replace hgrant : tables.answerTaken admins principal requested = .ok grant := by
      simpa [hmay] using hgrant
    rw [← hescalation, hgrant]
    simp [eq_comm]
  · -- the change takes the right
    obtain rfl : EffectiveGrant.ephemeral (some other) (some site) = grant := by
      simpa [hmay, hsite] using hgrant
    rw [← hescalation, ← htaken]
    simp
  · simpa [hmay, hsite] using hgrant

end turns

/-! ### Caches after a change -/

/-- The state after a change of the memberships of a principal in a client, once the grants that it
is taken to affect are forgotten. -/
def AccessState.afterChange {ρ : Type} (s : AccessState (MembershipTables × ρ))
    (tables' : MembershipTables) (principal : IdpId) (client : ClientId) (sites : List SiteId) :
    AccessState (MembershipTables × ρ) :=
  (AccessResolver.invalidate principal client sites { s with world := (tables', s.world.2) }).2

/-- The requests of the principal for which a grant is kept. -/
def Kept {σ : Type} (principal : Principal) (s : AccessState σ) (requested : RequestedTenant) :
    Prop :=
  ∃ grant, s.grants.find (.ofRequest principal.idpId requested) = .ok (some grant)

section caches

variable {ρ : Type} (rest : Platform ρ) (admins : List String) {principal : Principal}
  {client : ClientId} {sites : List SiteId} {tables' : MembershipTables}
  {s : AccessState (MembershipTables × ρ)}

/-- What is kept after the change was kept before and is for another client. -/
theorem find_afterChange {requested : RequestedTenant} {grant : EffectiveGrant}
    (htenant : ∀ requested, Kept principal s requested → requested.clientId = none →
      requested.siteId = none)
    (hsites : ∀ requested site, Kept principal s requested → requested.clientId = some client →
      requested.siteId = some site → site ∈ sites) :
    (s.afterChange tables' principal.idpId client sites).grants.find
        (.ofRequest principal.idpId requested) = .ok (some grant) ↔
      s.grants.find (.ofRequest principal.idpId requested) = .ok (some grant) ∧
        ∃ other, requested.clientId = some other ∧ other ≠ client := by
  show (s.grants.eraseAll _).find _ = _ ↔ _
  rw [GrantCache.find_eraseAll, GrantKey.mem_variants, and_comm, and_congr_right_iff]
  intro hfind
  have hkept : Kept principal s requested := ⟨grant, hfind⟩
  unfold GrantKey.ofRequest
  dsimp only
  constructor
  · intro hnot
    rcases hclient : requested.clientId with _ | other
    · exact absurd ⟨rfl, .inl ⟨hclient, htenant _ hkept hclient⟩⟩ hnot
    · refine ⟨other, rfl, ?_⟩
      rintro rfl
      exact hnot ⟨rfl, .inr ⟨hclient, fun site hsite => hsites _ site hkept hclient hsite⟩⟩
  · rintro ⟨other, hclient, hne⟩ ⟨-, ⟨hnone, -⟩ | ⟨hsome, -⟩⟩
    · rw [hclient] at hnone
      cases hnone
    · rw [hclient] at hsome
      exact hne (Option.some.inj hsome)

/-- After a change of a membership in a client, with every kept site of the client listed, the cache
of the principal is coherent, so that every request resolves to what the store says, exactly when
the change turns escalation for no request with a kept grant. -/
theorem coherent_afterChange_iff
    (hchange : MembershipChange s.world.1 principal.idpId client tables')
    (hcoherent : Coherent rest admins principal s)
    (htenant : ∀ requested, Kept principal s requested → requested.clientId = none →
      requested.siteId = none)
    (hsites : ∀ requested site, Kept principal s requested → requested.clientId = some client →
      requested.siteId = some site → site ∈ sites) :
    (Coherent rest admins principal (s.afterChange tables' principal.idpId client sites) ↔
        ∀ requested, Kept principal s requested →
          ¬EscalationTurns s.world.1 tables' admins principal client requested) ∧
      ((∀ requested, ((MembershipTables.resolver rest admins).resolve principal requested
            (s.afterChange tables' principal.idpId client sites)).1 =
          (MembershipTables.resolver rest admins).resolveFresh principal requested
            (s.afterChange tables' principal.idpId client sites)) ↔
        ∀ requested, Kept principal s requested →
          ¬EscalationTurns s.world.1 tables' admins principal client requested) := by
  rw [← coherent_iff_resolve, and_self]
  constructor
  · intro hafter requested hkept hturns
    obtain ⟨grant, hfind⟩ := hkept
    obtain ⟨other, hclient, hne, -⟩ := id hturns
    have hbefore := hcoherent requested grant hfind
    have hnow := hafter requested grant
      ((find_afterChange htenant hsites).mpr ⟨hfind, other, hclient, hne⟩)
    rw [resolveFresh_eq_answer] at hbefore hnow
    exact (hchange.answer_ok_iff hclient hne hbefore).mp hnow hturns
  · intro hnot requested grant hfind
    obtain ⟨hfind, other, hclient, hne⟩ := (find_afterChange htenant hsites).mp hfind
    have hbefore := hcoherent requested grant hfind
    rw [resolveFresh_eq_answer] at hbefore ⊢
    exact (hchange.answer_ok_iff hclient hne hbefore).mpr (hnot requested ⟨grant, hfind⟩)

end caches

/-! ### Forgetting can leave an escalation behind -/

/-- A cache that keeps one grant keeps none for another request. -/
theorem eq_of_kept {σ : Type} {principal : Principal} {s : AccessState σ}
    {requested other : RequestedTenant} {grant : EffectiveGrant}
    (h : s.grants.entries.rows = [(.ofRequest principal.idpId requested, grant)])
    (hkept : Kept principal s other) : other = requested := by
  obtain ⟨kept, hfind⟩ := hkept
  unfold GrantCache.find Table.get? at hfind
  rw [h] at hfind
  obtain ⟨client, site, intent⟩ := requested
  obtain ⟨client', site', intent'⟩ := other
  rcases hmode : s.grants.mode with _ | _ | _ <;>
    simp [hmode, List.lookup_cons, GrantKey.ofRequest] at hfind
  split at hfind
  · rename_i hkey
    simpa using hkey
  · cases hfind

/-- The principal of the examples. -/
def ann : Principal := .unnamed ⟨"ann"⟩ "ann@example.org" "ann"

/-- A membership of one client that spans clients, and a site of another client. -/
def spanningMember : MembershipTables where
  grants := [(ann.idpId, { (default : RoleGrantRecord) with
    membershipId := .ofNat 31, clientId := .ofNat 1, scope := .global })]
  sites := ⟨[(.ofNat 12, { (default : SiteRecord) with id := .ofNat 12, clientId := .ofNat 2 })]⟩

/-- The other client is asked for with the intent to escalate. -/
def escalating : RequestedTenant := ⟨some (.ofNat 2), none, .elevated⟩

/-- The state after the escalation, which is kept. -/
def afterEscalation : AccessState (MembershipTables × World) :=
  ((MembershipTables.resolver World.inMemory []).resolve ann escalating
    { world := (spanningMember, { listener := default }) }).2

/-- The grant that is kept after the escalation is the one that the tables answer with. -/
theorem afterEscalation_coherent : Coherent World.inMemory [] ann afterEscalation :=
  resolve_coherent _ _ (coherent_of_empty _ _ _ rfl) _

/-- No grant is kept but that of the escalation. -/
theorem eq_escalating_of_kept {requested : RequestedTenant}
    (h : Kept ann afterEscalation requested) : requested = escalating := by
  have hrows : afterEscalation.grants.entries.rows =
      [(.ofRequest ann.idpId escalating, .ephemeral (some (.ofNat 2)) (some (.ofNat 12)))] := by
    cbv
  exact eq_of_kept hrows h

/-- Storing a membership that spans only the client leaves the cache coherent. -/
theorem coherent_afterChange_member :
    let record : RoleGrantRecord :=
      { (default : RoleGrantRecord) with clientId := .ofNat 1, scope := .client }
    Coherent World.inMemory [] ann afterEscalation ∧
      Coherent World.inMemory [] ann (afterEscalation.afterChange
        (afterEscalation.world.1.addGrant ann.idpId record) ann.idpId (.ofNat 1) []) := by
  intro record
  refine ⟨afterEscalation_coherent, ?_⟩
  refine (coherent_afterChange_iff World.inMemory [] (.add record rfl) afterEscalation_coherent
    ?_ ?_).1.mpr ?_
  · intro requested hkept hnone
    rw [eq_escalating_of_kept hkept] at hnone
    cases hnone
  · intro requested site hkept _ hsite
    rw [eq_escalating_of_kept hkept] at hsite
    cases hsite
  · rintro requested hkept ⟨other, -, -, hturns, -⟩
    rw [eq_escalating_of_kept hkept] at hturns
    apply hturns
    cbv

/-- Removing the one that spans clients does not: the grant of the other client is still there. -/
theorem not_coherent_afterChange_revoked :
    let tables' := afterEscalation.world.1.removeGrant (.ofNat 31)
    let s := afterEscalation.afterChange tables' ann.idpId (.ofNat 1) []
    let resolver := MembershipTables.resolver World.inMemory []
    MembershipChange afterEscalation.world.1 ann.idpId (.ofNat 1) tables' ∧
      Coherent World.inMemory [] ann afterEscalation ∧
      (∀ requested, Kept ann afterEscalation requested →
        requested.clientId ≠ some (.ofNat 1) ∧ requested.clientId ≠ none) ∧
      (resolver.resolve ann escalating s).1 =
        .ok (.ephemeral (some (.ofNat 2)) (some (.ofNat 12))) ∧
      resolver.resolveFresh ann escalating s =
        .error (.denied (.ofRequest .requestDenied
          "no membership matches the requested client or site" escalating)) ∧
      ¬Coherent World.inMemory [] ann s := by
  intro tables' s resolver
  have hkept : (resolver.resolve ann escalating s).1 =
      .ok (.ephemeral (some (.ofNat 2)) (some (.ofNat 12))) := by cbv
  have hfresh : resolver.resolveFresh ann escalating s =
      .error (.denied (.ofRequest .requestDenied
        "no membership matches the requested client or site" escalating)) := by cbv
  refine ⟨.remove _ ?_, afterEscalation_coherent, ?_, hkept, hfresh, ?_⟩
  · intro record hrecord _
    obtain rfl : record = { (default : RoleGrantRecord) with
        membershipId := .ofNat 31, clientId := .ofNat 1, scope := .global } := by
      have hown : afterEscalation.world.1.own ann.idpId = [{ (default : RoleGrantRecord) with
          membershipId := .ofNat 31, clientId := .ofNat 1, scope := .global }] := by cbv
      rw [hown] at hrecord
      exact List.mem_singleton.mp hrecord
    rfl
  · intro requested h
    rw [eq_escalating_of_kept h]
    decide
  · rw [coherent_iff_resolve]
    intro h
    have := h escalating
    rw [hkept, hfresh] at this
    cases this

end TenantAccess
