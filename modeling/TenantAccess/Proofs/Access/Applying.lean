import TenantAccess.Proofs.Access.Answer
import TenantAccess.Proofs.Access.Precedence

/-!
# The memberships that apply to a request

What a request is answered from are the principal's own memberships (`MembershipTables.own`), and
among them those that apply to it (`MembershipTables.considered`), in the order in which they are
stored.  The answer takes them by precedence and pins them to the site asked for.

* `MembershipTables.mem_own`: what is the principal's own.
* `filterMap_applied?`: the memberships taken for a request are those that apply, pinned to it.
* `MembershipTables.answer_of_siteOwned`: the answer is that of an escalation by intent, or else
  given from what is taken (`MembershipTables.answerTaken`).
-/

namespace TenantAccess

/-! ### One membership -/

namespace RoleGrantRecord

/-- The membership applies to a request: any does when no client is named; otherwise the client
has to be the membership's, and a named site has to be the one it is held at, unless it is held for
the whole client. -/
def appliesTo (record : RoleGrantRecord) (requested : RequestedTenant) : Bool :=
  match requested.clientId, requested.siteId with
  | none, _ => true
  | some client, none => record.clientId == client
  | some client, some site =>
    record.clientId == client && (record.siteId == some site ||
      record.siteId.isNone && record.scope.atLeast .client)

/-- The membership as held at the site that is asked for with a client. -/
def pinned (record : RoleGrantRecord) (requested : RequestedTenant) : RoleGrantRecord :=
  match requested.clientId, requested.siteId with
  | some _, some site => { record with siteId := some site }
  | _, _ => record

section pinned

variable (record : RoleGrantRecord) (requested : RequestedTenant)

/-- Pinning a membership to a site leaves its scope. -/
@[simp] theorem pinned_scope : (record.pinned requested).scope = record.scope := by
  unfold pinned
  split <;> rfl

/-- Pinning a membership to a site leaves its client. -/
@[simp] theorem pinned_clientId : (record.pinned requested).clientId = record.clientId := by
  unfold pinned
  split <;> rfl

/-- Pinning a membership to a site leaves its role. -/
@[simp] theorem pinned_roleId : (record.pinned requested).roleId = record.roleId := by
  unfold pinned
  split <;> rfl

/-- Pinning a membership to a site leaves its capabilities. -/
@[simp] theorem pinned_capabilities :
    (record.pinned requested).capabilities = record.capabilities := by
  unfold pinned
  split <;> rfl

/-- Pinned, the membership is held at the site asked for. -/
theorem pinned_siteId_of_some {client : ClientId} {site : SiteId}
    (hclient : requested.clientId = some client) (hsite : requested.siteId = some site) :
    (record.pinned requested).siteId = some site := by
  unfold pinned
  rw [hclient, hsite]

/-- With no site asked for, or none of a client, it is held where it was. -/
theorem pinned_siteId_of_none (h : requested.clientId = none ∨ requested.siteId = none) :
    (record.pinned requested).siteId = record.siteId := by
  unfold pinned
  rcases h with h | h
  · rw [h]
  · rw [h]
    rcases requested.clientId with _ | client <;> rfl

end pinned

/-- A membership that applies to a request for a client is held in the client. -/
theorem clientId_of_appliesTo {record : RoleGrantRecord} {requested : RequestedTenant}
    {client : ClientId} (h : record.appliesTo requested = true)
    (hclient : requested.clientId = some client) : record.clientId = client := by
  unfold appliesTo at h
  rcases hsite : requested.siteId with _ | site
  · rw [hclient, hsite] at h
    exact eq_of_beq h
  · rw [hclient, hsite] at h
    exact eq_of_beq (Bool.and_eq_true_iff.mp h).1

/-- A membership is taken for a client when it applies to the request, pinned to its site. -/
theorem applied?_eq (record : RoleGrantRecord) {requested : RequestedTenant} {client : ClientId}
    (hclient : requested.clientId = some client) :
    record.applied? client requested.siteId =
      if record.appliesTo requested then some (record.pinned requested) else none := by
  unfold applied? appliesTo pinned
  rw [hclient]
  by_cases hown : record.clientId = client
  · rcases requested.siteId with _ | site
    · simp [hown]
    · rcases hheld : record.siteId with _ | held
      · simp [hown]
      · by_cases hsite : site = held
        · have hpinned : { record with siteId := some site } = record := by rw [hsite, ← hheld]
          simp only [hpinned]
          simp [hown, hsite]
        · simp [hown, hsite, Ne.symm hsite]
  · rcases requested.siteId with _ | site <;> simp [hown]

end RoleGrantRecord

/-! ### All of them -/

/-- The memberships that are taken for a client, pinned to the site asked for. -/
theorem filterMap_applied? (records : List RoleGrantRecord) {requested : RequestedTenant}
    {client : ClientId} (hclient : requested.clientId = some client) :
    records.filterMap (·.applied? client requested.siteId) =
      (records.filter (·.appliesTo requested)).map (·.pinned requested) := by
  induction records with
  | nil => rfl
  | cons record records ih =>
    rw [List.filterMap_cons, record.applied?_eq hclient, ih, List.filter_cons]
    by_cases happlies : record.appliesTo requested = true
    · rw [if_pos happlies, if_pos happlies, List.map_cons]
    · rw [if_neg happlies, if_neg happlies]

namespace MembershipTables

/-- The memberships of a principal in the order in which they are stored. -/
def own (tables : MembershipTables) (principal : IdpId) : List RoleGrantRecord :=
  (tables.grants.filter (·.1 == principal)).map (·.2)

/-- The principal's own memberships that apply to a request. -/
def considered (tables : MembershipTables) (principal : IdpId) (requested : RequestedTenant) :
    List RoleGrantRecord :=
  (tables.own principal).filter (·.appliesTo requested)

variable {tables : MembershipTables} {principal : IdpId}

/-- The principal's own memberships are the stored rows with its identifier. -/
theorem mem_own {record : RoleGrantRecord} :
    record ∈ tables.own principal ↔ (principal, record) ∈ tables.grants := by
  unfold own
  rw [List.mem_map]
  constructor
  · rintro ⟨⟨holder, record'⟩, hmem, rfl⟩
    obtain ⟨hmem, hholder⟩ := List.mem_filter.mp hmem
    rwa [← eq_of_beq hholder]
  · intro hmem
    exact ⟨_, List.mem_filter.mpr ⟨hmem, beq_self_eq_true _⟩, rfl⟩

/-- Sorting what the store has sorted already changes nothing. -/
theorem byPrecedence_grantsOf (tables : MembershipTables) (principal : IdpId) :
    RoleGrantRecord.byPrecedence (tables.grantsOf principal) =
      RoleGrantRecord.byPrecedence (tables.own principal) :=
  RoleGrantRecord.byPrecedence_byPrecedence _

/-- The considered memberships as the answer takes them: by precedence and pinned. -/
def taken (tables : MembershipTables) (principal : IdpId) (requested : RequestedTenant) :
    List RoleGrantRecord :=
  (RoleGrantRecord.byPrecedence (tables.considered principal requested)).map (·.pinned requested)

/-- Nothing is taken when nothing is considered. -/
theorem taken_eq_nil {requested : RequestedTenant} :
    tables.taken principal requested = [] ↔ tables.considered principal requested = [] := by
  unfold taken
  rw [List.map_eq_nil_iff]
  exact RoleGrantRecord.byPrecedence_eq_nil

/-- All of the principal's own memberships are considered when no client is named. -/
theorem considered_of_none {requested : RequestedTenant} (hclient : requested.clientId = none) :
    tables.considered principal requested = tables.own principal := by
  unfold considered
  apply List.filter_eq_self.mpr
  intro record _
  unfold RoleGrantRecord.appliesTo
  rw [hclient]

/-- Without a client all of the principal's own memberships are taken, by precedence and as they
are. -/
theorem taken_of_none {requested : RequestedTenant} (hclient : requested.clientId = none) :
    tables.taken principal requested = RoleGrantRecord.byPrecedence (tables.own principal) := by
  have hsame : (·.pinned requested) = (id : RoleGrantRecord → RoleGrantRecord) := by
    funext record
    unfold RoleGrantRecord.pinned
    rw [hclient]
    rfl
  unfold taken
  rw [hsame, List.map_id, considered_of_none hclient]

/-- For a client those are taken that resolving takes: the ones that apply, by precedence and
pinned. -/
theorem taken_of_some {requested : RequestedTenant} {client : ClientId}
    (hclient : requested.clientId = some client) :
    tables.taken principal requested =
      (RoleGrantRecord.byPrecedence (tables.own principal)).filterMap
        (·.applied? client requested.siteId) := by
  rw [filterMap_applied? _ hclient, RoleGrantRecord.filter_byPrecedence]
  rfl

/-! ### The answer -/

/-- A site that is asked for with a client is a stored site of the client. -/
def SiteOwned (tables : MembershipTables) (requested : RequestedTenant) : Prop :=
  ∀ client site, requested.clientId = some client → requested.siteId = some site →
    ∃ row, tables.sites.get? site = some row ∧ row.clientId = client

/-- Without a client there is no site to be a client's. -/
theorem siteOwned_of_none {requested : RequestedTenant} (hclient : requested.clientId = none) :
    tables.SiteOwned requested := by
  intro client site hsome
  rw [hclient] at hsome
  cases hsome

/-- The status of a site is found for the client that the site is stored for, and for no other. -/
theorem statusOfSite_eq_some {client : ClientId} {site : SiteId} {status : SiteStatus} :
    tables.statusOfSite client site = some status ↔
      ∃ row, tables.sites.get? site = some row ∧ row.clientId = client ∧ row.status = status := by
  unfold statusOfSite
  simp only [Option.map_eq_some_iff, Option.filter_eq_some_iff, beq_iff_eq, and_assoc]

/-- A grant of the memberships is their reduction, and it is active. -/
theorem activeGrant_ok {records : List RoleGrantRecord} {requested : RequestedTenant}
    {grant : EffectiveGrant}
    (h : tables.activeGrant records requested = .ok grant) :
    EffectiveGrant.reduce? records = some grant ∧ tables.activation grant requested = .ok () := by
  unfold activeGrant at h
  rcases hreduce : EffectiveGrant.reduce? records with _ | reduced
  · rw [hreduce] at h
    cases h
  · rw [hreduce] at h
    rcases hactive : tables.activation reduced requested with e | _
    · simp [hactive, Except.map] at h
    · obtain rfl : reduced = grant := by simpa [hactive, Except.map] using h
      exact ⟨rfl, hactive⟩

/-- The grant of an escalation by intent: for the client asked for and a site of it, when one of the
memberships allows the intent. -/
def byIntent (tables : MembershipTables) (principal : IdpId) (requested : RequestedTenant) :
    Option EffectiveGrant :=
  match requested.clientId with
  | none => none
  | some client =>
    if mayEscalate (tables.own principal) requested.intent then
      (tables.escalationSite client requested.siteId).map fun site =>
        .ephemeral (some client) (some site)
    else none

/-- The grant of a bootstrap administrator who has no applying membership. -/
def asBootstrap (tables : MembershipTables) (requested : RequestedTenant) : EffectiveGrant :=
  match requested.clientId with
  | none => .ephemeral none none
  | some client => .ephemeral (some client) (tables.escalationSite client requested.siteId)

/-- For a client there is an escalation by intent when a membership allows the intent and there is a
site to escalate in. -/
theorem byIntent_of_some {requested : RequestedTenant} {client : ClientId}
    (hclient : requested.clientId = some client) :
    tables.byIntent principal requested =
      if mayEscalate (tables.own principal) requested.intent then
        (tables.escalationSite client requested.siteId).map fun site =>
          .ephemeral (some client) (some site)
      else none := by
  unfold byIntent
  rw [hclient]

/-- The grant of an escalation by intent is made up for the request. -/
theorem byIntent_isEphemeral {requested : RequestedTenant} {grant : EffectiveGrant}
    (h : tables.byIntent principal requested = some grant) : grant.isEphemeral = true := by
  unfold byIntent at h
  split at h
  · cases h
  split at h
  · obtain ⟨site, -, rfl⟩ := Option.map_eq_some_iff.mp h
    rfl
  · cases h

/-- The grant of a bootstrap administrator is made up for the request. -/
theorem asBootstrap_isEphemeral (requested : RequestedTenant) :
    (tables.asBootstrap requested).isEphemeral = true := by
  unfold asBootstrap
  split <;> rfl

/-- A bootstrap administrator who has no applying membership gets a grant: in any client, and
without one unless the intent is the normal one. -/
def bootstraps (admins : List String) (principal : Principal) (requested : RequestedTenant) :
    Bool :=
  (requested.clientId.isSome || decide (requested.intent ≠ .normal)) &&
    isBootstrapAdmin admins principal

/-- The denial of a request that nothing allows. -/
def refusal (tables : MembershipTables) (principal : IdpId) (requested : RequestedTenant) :
    AccessError :=
  match requested.clientId with
  | none => .denied (.ofRequest .noAccessGrant "principal holds no memberships" requested)
  | some _ =>
    deniedRequest (RoleGrantRecord.byPrecedence (tables.own principal)) requested
      "no membership matches the requested client or site"

/-- The answer when there is no escalation by intent. -/
def answerTaken (tables : MembershipTables) (admins : List String) (principal : Principal)
    (requested : RequestedTenant) : Except AccessError EffectiveGrant :=
  if tables.taken principal.idpId requested ≠ [] then
    tables.activeGrant (tables.taken principal.idpId requested) requested
  else if bootstraps admins principal requested then .ok (tables.asBootstrap requested)
  else .error (tables.refusal principal.idpId requested)

/-- Escalation looks at the memberships of any client and at none of their order. -/
theorem mayEscalate_byPrecedence (records : List RoleGrantRecord) (intent : AccessIntent) :
    mayEscalate (RoleGrantRecord.byPrecedence records) intent = mayEscalate records intent := by
  unfold mayEscalate
  rcases intent.escalationScope? with _ | scope
  · rfl
  · rw [Bool.eq_iff_iff]
    simp only [List.any_eq_true, RoleGrantRecord.mem_byPrecedence]

variable (tables) (admins : List String) (principal : Principal) {requested : RequestedTenant}

/-- Without an escalation the answer is given from what is taken. -/
theorem answerMembership_eq {client : ClientId} (hclient : requested.clientId = some client) :
    tables.answerMembership admins principal
        (RoleGrantRecord.byPrecedence (tables.own principal.idpId)) client requested =
      tables.answerTaken admins principal requested := by
  unfold answerMembership answerTaken bootstraps asBootstrap refusal
  rw [taken_of_some hclient, hclient]
  simp

/-- For a client an escalation by intent comes first, and then what is taken. -/
theorem answerClient_eq {client : ClientId} (hclient : requested.clientId = some client) :
    tables.answerClient admins principal
        (RoleGrantRecord.byPrecedence (tables.own principal.idpId)) client requested =
      match tables.byIntent principal.idpId requested with
      | some grant => .ok grant
      | none => tables.answerTaken admins principal requested := by
  unfold answerClient byIntent
  rw [mayEscalate_byPrecedence, tables.answerMembership_eq admins principal hclient, hclient]
  rcases mayEscalate (tables.own principal.idpId) requested.intent with _ | _
  · rfl
  · dsimp only
    rcases tables.escalationSite client requested.siteId with _ | site <;> rfl

/-- Without a client the answer is given from what is taken. -/
theorem answerDefault_eq (hclient : requested.clientId = none) :
    tables.answerDefault admins principal
        (RoleGrantRecord.byPrecedence (tables.own principal.idpId)) requested =
      tables.answerTaken admins principal requested := by
  unfold answerDefault answerTaken bootstraps asBootstrap refusal
  rw [taken_of_none hclient, hclient]
  simp

/-- A site that is not the client's is refused. -/
theorem answer_of_not_siteOwned (h : ¬tables.SiteOwned requested) :
    tables.answer admins principal requested =
      .error (deniedRequest (RoleGrantRecord.byPrecedence (tables.own principal.idpId)) requested
        "requested site does not belong to the requested client") := by
  unfold answer
  rw [byPrecedence_grantsOf]
  rcases hclient : requested.clientId with _ | client
  · exact absurd (siteOwned_of_none hclient) h
  rcases hsite : requested.siteId with _ | site
  · exact absurd (fun _ _ _ hs => absurd (hsite.symm.trans hs) (by simp)) h
  rcases hstatus : tables.statusOfSite client site with _ | status
  · dsimp only
    rw [hstatus]
  · obtain ⟨row, hrow, hown, -⟩ := statusOfSite_eq_some.mp hstatus
    refine absurd ?_ h
    intro client' site' hclient' hsite'
    obtain rfl := Option.some.inj (hclient.symm.trans hclient')
    obtain rfl := Option.some.inj (hsite.symm.trans hsite')
    exact ⟨row, hrow, hown⟩

/-- A grant is only given where the site asked for is a stored one of the client. -/
theorem siteOwned_of_answer {grant : EffectiveGrant}
    (h : tables.answer admins principal requested = .ok grant) : tables.SiteOwned requested := by
  apply Classical.byContradiction
  intro hsites
  rw [tables.answer_of_not_siteOwned admins principal hsites] at h
  cases h

/-- Otherwise an escalation by intent comes first, and then what is taken. -/
theorem answer_of_siteOwned (h : tables.SiteOwned requested) :
    tables.answer admins principal requested =
      match tables.byIntent principal.idpId requested with
      | some grant => .ok grant
      | none => tables.answerTaken admins principal requested := by
  unfold answer
  rw [byPrecedence_grantsOf]
  rcases hclient : requested.clientId with _ | client
  · unfold byIntent
    rw [hclient]
    exact tables.answerDefault_eq admins principal hclient
  rcases hsite : requested.siteId with _ | site
  · exact tables.answerClient_eq admins principal hclient
  obtain ⟨row, hrow, hown⟩ := h client site hclient hsite
  dsimp only
  rw [statusOfSite_eq_some.mpr ⟨row, hrow, hown, rfl⟩]
  exact tables.answerClient_eq admins principal hclient

end MembershipTables
end TenantAccess
