import TenantAccess.Proofs.Access.Applying
import TenantAccess.Proofs.Access.Reduction

/-!
# When access is escalated

A grant made up for a request gives everything in a tenant, so the conditions for one are stated in
full: there are three, and each is read off the request, the bootstrap list and the tables alone.

* `EscalatesByIntent`, `EscalatesAsBootstrap`, `EscalatesWithoutTenant`: the conditions.
* `EscalationGrant`: what is granted.
* `resolveFresh_ephemeral`: a grant is made up exactly under these conditions, and it is this one.
-/

namespace TenantAccess

/-! ### The conditions -/

/-- A site of a client is stored. -/
def MembershipTables.HasSite (tables : MembershipTables) (client : ClientId)
    (row : SiteRecord) : Prop :=
  row ∈ tables.sites.values ∧ row.clientId = client

/-- The email is on the bootstrap list, written in lower case. -/
def OnBootstrapList (admins : List String) (principal : Principal) : Prop :=
  Text.lowercase principal.email ∈ admins

/-- A membership of any client allows the intent, and there is a site to escalate in. -/
def EscalatesByIntent (tables : MembershipTables) (principal : Principal)
    (requested : RequestedTenant) : Prop :=
  ∃ client, requested.clientId = some client ∧ tables.SiteOwned requested ∧
    (requested.intent = .elevated ∧
        (∃ record ∈ tables.own principal.idpId, record.scope.atLeast .global = true) ∨
      requested.intent = .system ∧
        ∃ record ∈ tables.own principal.idpId, record.scope = .system) ∧
    (requested.siteId ≠ none ∨ ∃ row, tables.HasSite client row)

/-- A bootstrap administrator asks for a client in which no membership applies. -/
def EscalatesAsBootstrap (tables : MembershipTables) (admins : List String)
    (principal : Principal) (requested : RequestedTenant) : Prop :=
  ∃ client, requested.clientId = some client ∧ tables.SiteOwned requested ∧
    tables.considered principal.idpId requested = [] ∧ OnBootstrapList admins principal

/-- A bootstrap administrator without memberships asks for no client, but with an intent. -/
def EscalatesWithoutTenant (tables : MembershipTables) (admins : List String)
    (principal : Principal) (requested : RequestedTenant) : Prop :=
  requested.clientId = none ∧ tables.own principal.idpId = [] ∧ requested.intent ≠ .normal ∧
    OnBootstrapList admins principal

/-- The grant is for everything in the client asked for, at the site asked for or else at the first
one of the client: primary before others, then the oldest, then the smallest identifier. -/
structure EscalationGrant (tables : MembershipTables) (requested : RequestedTenant)
    (grant : EffectiveGrant) : Prop where
  scope : grant.scope = .system
  can : ∀ c, grant.can c = true
  clientId : grant.clientId = requested.clientId
  noClient : requested.clientId = none → grant.siteId = none
  requestedSite : ∀ client site, requested.clientId = some client →
    requested.siteId = some site → grant.siteId = some site
  firstSite : ∀ client, requested.clientId = some client → requested.siteId = none →
    (∃ first, tables.HasSite client first ∧ grant.siteId = some first.id ∧
      ∀ other, tables.HasSite client other → first.NotAfter other) ∨
    (¬∃ row, tables.HasSite client row) ∧ grant.siteId = none

/-! ### Parts of the answer -/

/-- A grant that is made up allows everything. -/
theorem EffectiveGrant.ephemeral_can (client : Option ClientId) (site : Option SiteId)
    (c : Capability) : (ephemeral client site).can c = true := by
  show CapabilitySet.full.has c = true
  rcases c <;> decide

/-- The check for bootstrap administrators looks their email up on the list, in lower case. -/
theorem isBootstrapAdmin_iff (admins : List String) (principal : Principal) :
    isBootstrapAdmin admins principal = true ↔ OnBootstrapList admins principal := by
  unfold isBootstrapAdmin OnBootstrapList
  exact List.contains_iff_mem

/-- An intent allows to escalate when a membership reaches as far: to all clients for the elevated
one, to the whole system for the system one. -/
theorem mayEscalate_iff (records : List RoleGrantRecord) (intent : AccessIntent) :
    mayEscalate records intent = true ↔
      intent = .elevated ∧ (∃ record ∈ records, record.scope.atLeast .global = true) ∨
        intent = .system ∧ ∃ record ∈ records, record.scope = .system := by
  have hsystem : ∀ scope : Scope, scope.atLeast .system = true ↔ scope = .system := by
    intro scope
    rcases scope with _ | _ | _ | _ | _ | _ <;> decide
  unfold mayEscalate AccessIntent.escalationScope?
  rcases intent with _ | _ | _ <;> simp [hsystem]

namespace MembershipTables

variable {tables : MembershipTables} {admins : List String} {principal : Principal}
  {requested : RequestedTenant} {client : ClientId}

/-- The list of a client's sites has exactly its stored sites. -/
theorem mem_sitesOf {row : SiteRecord} : row ∈ tables.sitesOf client ↔ tables.HasSite client row := by
  unfold sitesOf HasSite
  rw [SiteRecord.byPrecedence_eq, List.mem_mergeSort, List.mem_filter, beq_iff_eq]

/-- Without a site asked for, it is the first one of the client, if the client has one. -/
theorem escalationSite_none (tables : MembershipTables) (client : ClientId) :
    (∃ first, tables.HasSite client first ∧ tables.escalationSite client none = some first.id ∧
      ∀ other, tables.HasSite client other → first.NotAfter other) ∨
    (¬∃ row, tables.HasSite client row) ∧ tables.escalationSite client none = none := by
  unfold escalationSite
  dsimp only
  rcases hhead : (tables.sitesOf client).head? with _ | first
  · refine .inr ⟨?_, rfl⟩
    rintro ⟨row, hrow⟩
    rw [← mem_sitesOf, List.head?_eq_none_iff.mp hhead] at hrow
    cases hrow
  · refine .inl ⟨first, mem_sitesOf.mp (List.mem_of_head? hhead), rfl, ?_⟩
    obtain ⟨-, hfirst⟩ := SiteRecord.head_byPrecedence hhead
    intro other hother
    apply hfirst other
    rw [List.mem_filter, beq_iff_eq]
    exact hother

/-- There is a site to escalate in when one is asked for or the client has one. -/
theorem escalationSite_isSome {site : Option SiteId} :
    (tables.escalationSite client site).isSome ↔
      site ≠ none ∨ ∃ row, tables.HasSite client row := by
  rcases site with _ | site
  · rcases tables.escalationSite_none client with ⟨first, hfirst, hsite, -⟩ | ⟨hnone, hsite⟩
    · rw [hsite]
      simp only [Option.isSome_some, true_iff]
      exact .inr ⟨first, hfirst⟩
    · rw [hsite]
      simpa using hnone
  · simp [escalationSite]

/-- The grant for a client at the site of an escalation. -/
theorem escalationGrant_of_client {site : Option SiteId}
    (hclient : requested.clientId = some client)
    (hsite : tables.escalationSite client requested.siteId = site) :
    EscalationGrant tables requested (.ephemeral (some client) site) where
  scope := rfl
  can := EffectiveGrant.ephemeral_can _ _
  clientId := hclient.symm
  noClient := by
    intro hnone
    rw [hclient] at hnone
    cases hnone
  requestedSite := by
    intro client' site' _ hrequested
    rw [hrequested] at hsite
    exact hsite.symm
  firstSite := by
    intro client' hclient' hrequested
    obtain rfl := Option.some.inj (hclient.symm.trans hclient')
    rw [hrequested] at hsite
    rw [← hsite]
    exact tables.escalationSite_none client

/-- The grant made up without a client is for no site either. -/
theorem escalationGrant_without_client (hclient : requested.clientId = none) :
    EscalationGrant tables requested (.ephemeral none none) where
  scope := rfl
  can := EffectiveGrant.ephemeral_can _ _
  clientId := hclient.symm
  noClient := fun _ => rfl
  requestedSite := by
    intro client site hsome
    rw [hclient] at hsome
    cases hsome
  firstSite := by
    intro client hsome
    rw [hclient] at hsome
    cases hsome

/-! ### The answer -/

/-- An escalation by intent gives the grant for the client asked for and the site to escalate in. -/
theorem byIntent_eq_some {grant : EffectiveGrant} :
    tables.byIntent principal.idpId requested = some grant ↔
      ∃ client site, requested.clientId = some client ∧
        mayEscalate (tables.own principal.idpId) requested.intent = true ∧
        tables.escalationSite client requested.siteId = some site ∧
        .ephemeral (some client) (some site) = grant := by
  unfold byIntent
  rcases requested.clientId with _ | client
  · simp
  · rcases mayEscalate (tables.own principal.idpId) requested.intent with _ | _ <;>
      simp [Option.map_eq_some_iff]

/-- The grant of an escalation by intent is one for everything in the client. -/
theorem escalationGrant_byIntent {grant : EffectiveGrant}
    (h : tables.byIntent principal.idpId requested = some grant) :
    EscalationGrant tables requested grant := by
  obtain ⟨client, site, hclient, -, hsite, rfl⟩ := byIntent_eq_some.mp h
  exact escalationGrant_of_client hclient hsite

/-- The grant of a bootstrap administrator is one for everything in the client. -/
theorem escalationGrant_asBootstrap :
    EscalationGrant tables requested (tables.asBootstrap requested) := by
  unfold asBootstrap
  rcases hclient : requested.clientId with _ | client
  · exact escalationGrant_without_client hclient
  · exact escalationGrant_of_client hclient rfl

/-- There is an escalation by intent exactly under its condition. -/
theorem escalatesByIntent_iff :
    EscalatesByIntent tables principal requested ↔
      tables.SiteOwned requested ∧ ∃ grant, tables.byIntent principal.idpId requested = some grant := by
  constructor
  · rintro ⟨client, hclient, hsites, hmay, hsite⟩
    rw [← mayEscalate_iff] at hmay
    rw [← escalationSite_isSome, Option.isSome_iff_exists] at hsite
    obtain ⟨site, hsite⟩ := hsite
    exact ⟨hsites, _, byIntent_eq_some.mpr ⟨client, site, hclient, hmay, hsite, rfl⟩⟩
  · rintro ⟨hsites, grant, hgrant⟩
    obtain ⟨client, site, hclient, hmay, hsite, -⟩ := byIntent_eq_some.mp hgrant
    refine ⟨client, hclient, hsites, (mayEscalate_iff _ _).mp hmay, ?_⟩
    rw [← escalationSite_isSome, hsite]
    rfl

/-- A bootstrap administrator gets a grant without applying memberships exactly under the other two
conditions. -/
theorem escalatesAsAdmin_iff :
    EscalatesAsBootstrap tables admins principal requested ∨
        EscalatesWithoutTenant tables admins principal requested ↔
      tables.SiteOwned requested ∧ tables.taken principal.idpId requested = [] ∧
        bootstraps admins principal requested = true := by
  unfold bootstraps
  rw [taken_eq_nil, Bool.and_eq_true, isBootstrapAdmin_iff]
  constructor
  · rintro (⟨client, hclient, hsites, hnone, hlist⟩ | ⟨hclient, hnone, hintent, hlist⟩)
    · exact ⟨hsites, hnone, by simp [hclient], hlist⟩
    · refine ⟨siteOwned_of_none hclient, ?_, by simp [hintent], hlist⟩
      rw [considered_of_none hclient, hnone]
  · rintro ⟨hsites, hnone, htenant, hlist⟩
    rcases hclient : requested.clientId with _ | client
    · rw [considered_of_none hclient] at hnone
      rw [hclient] at htenant
      exact .inr ⟨hclient, hnone, by simpa using htenant, hlist⟩
    · exact .inl ⟨client, hclient, hsites, hnone, hlist⟩

/-- What is taken is never escalated, so only a bootstrap administrator's answer is. -/
theorem answerTaken_ephemeral {grant : EffectiveGrant} :
    tables.answerTaken admins principal requested = .ok grant ∧ grant.isEphemeral = true ↔
      tables.taken principal.idpId requested = [] ∧
        bootstraps admins principal requested = true ∧ tables.asBootstrap requested = grant := by
  unfold answerTaken
  by_cases htaken : tables.taken principal.idpId requested = []
  · rw [if_neg (fun hne => hne htaken)]
    rcases bootstraps admins principal requested with _ | _
    · simp
    · constructor
      · rintro ⟨hgrant, -⟩
        exact ⟨htaken, rfl, Except.ok.inj hgrant⟩
      · rintro ⟨-, -, rfl⟩
        exact ⟨rfl, asBootstrap_isEphemeral requested⟩
  · rw [if_pos htaken]
    constructor
    · rintro ⟨hgrant, hmade⟩
      rw [isEphemeral_of_reduce? (activeGrant_ok hgrant).1] at hmade
      cases hmade
    · rintro ⟨hnone, -⟩
      exact absurd hnone htaken

/-- The answers that escalate. -/
theorem answer_ephemeral {grant : EffectiveGrant} :
    tables.answer admins principal requested = .ok grant ∧ grant.isEphemeral = true ↔
      tables.SiteOwned requested ∧ (tables.byIntent principal.idpId requested = some grant ∨
        tables.byIntent principal.idpId requested = none ∧
          tables.taken principal.idpId requested = [] ∧
          bootstraps admins principal requested = true ∧ tables.asBootstrap requested = grant) := by
  by_cases hsites : tables.SiteOwned requested
  · rw [tables.answer_of_siteOwned admins principal hsites]
    rcases hintent : tables.byIntent principal.idpId requested with _ | escalation
    · dsimp only
      rw [answerTaken_ephemeral]
      simp [hsites]
    · have hmade := byIntent_isEphemeral hintent
      constructor
      · rintro ⟨hgrant, -⟩
        obtain rfl := Except.ok.inj hgrant
        exact ⟨hsites, .inl rfl⟩
      · rintro ⟨-, hgrant | ⟨hnone, -⟩⟩
        · obtain rfl := Option.some.inj hgrant
          exact ⟨rfl, hmade⟩
        · cases hnone
  · rw [tables.answer_of_not_siteOwned admins principal hsites]
    simp [hsites]

end MembershipTables

/-- Whatever the tables hold, a grant is made up for a request exactly under one of the three
conditions, and it is for everything in the client and the site that they name. -/
theorem resolveFresh_ephemeral {ρ : Type} (rest : Platform ρ) (admins : List String)
    (principal : Principal) (requested : RequestedTenant)
    (s : AccessState (MembershipTables × ρ)) :
    ((∃ grant, (MembershipTables.resolver rest admins).resolveFresh principal requested s =
          .ok grant ∧ grant.isEphemeral = true) ↔
        EscalatesByIntent s.world.1 principal requested ∨
          EscalatesAsBootstrap s.world.1 admins principal requested ∨
          EscalatesWithoutTenant s.world.1 admins principal requested) ∧
      ∀ grant, (MembershipTables.resolver rest admins).resolveFresh principal requested s =
          .ok grant → grant.isEphemeral = true → EscalationGrant s.world.1 requested grant := by
  rw [resolveFresh_eq_answer, MembershipTables.escalatesByIntent_iff,
    MembershipTables.escalatesAsAdmin_iff]
  simp only [MembershipTables.answer_ephemeral]
  refine ⟨?_, ?_⟩
  · constructor
    · rintro ⟨grant, hsites, hintent | ⟨-, hnone, hadmin, -⟩⟩
      · exact .inl ⟨hsites, grant, hintent⟩
      · exact .inr ⟨hsites, hnone, hadmin⟩
    · rintro (⟨hsites, grant, hintent⟩ | ⟨hsites, hnone, hadmin⟩)
      · exact ⟨grant, hsites, .inl hintent⟩
      · rcases hintent : s.world.1.byIntent principal.idpId requested with _ | grant
        · exact ⟨_, hsites, .inr ⟨rfl, hnone, hadmin, rfl⟩⟩
        · exact ⟨grant, hsites, .inl rfl⟩
  · intro grant hgrant hmade
    obtain ⟨-, hintent | ⟨-, -, -, rfl⟩⟩ := MembershipTables.answer_ephemeral.mp ⟨hgrant, hmade⟩
    · exact MembershipTables.escalationGrant_byIntent hintent
    · exact MembershipTables.escalationGrant_asBootstrap

end TenantAccess
