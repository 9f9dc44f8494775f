import TenantAccess.Proofs.Isolation.Isolated

/-!
# What a foreign client is told apart by

A principal asks for a client that nothing gives it access to.  It is denied, and what it is told in
the denial are its own request, its own default tenant, and one thing about the client: whether the
site that it named is a stored one of the client.

* `MembershipTables.Foreign`: nothing gives the principal access to the client.
* `MembershipTables.foreignMessage`: the message of the denial.
* `MembershipTables.Foreign.answer_eq`: the tables answer with that denial.
* `resolve_foreign`: so outcomes over two stores are the same exactly when a grant is kept, or when
  the site is a stored one of the client in both or in neither.
-/

namespace TenantAccess

/-- Two scopes are for more than one client. -/
theorem Scope.atLeast_global {scope : Scope} :
    scope.atLeast .global = true ↔ scope = .global ∨ scope = .system := by
  rcases scope with _ | _ | _ | _ | _ | _ <;> decide

namespace MembershipTables

/-! ### Foreign clients -/

/-- Nothing gives the principal access to the client: it is no bootstrap administrator, and its
memberships are all in other clients and none of them reaches beyond its own. -/
structure Foreign (tables : MembershipTables) (admins : List String) (principal : Principal)
    (client : ClientId) : Prop where
  unlisted : ¬OnBootstrapList admins principal
  bounded : ∀ record ∈ tables.own principal.idpId,
    record.scope ≠ .global ∧ record.scope ≠ .system
  elsewhere : ∀ record ∈ tables.own principal.idpId, record.clientId ≠ client

instance (tables : MembershipTables) (requested : RequestedTenant) :
    Decidable (tables.SiteOwned requested) :=
  decidable_of_iff (∀ client ∈ requested.clientId, ∀ site ∈ requested.siteId,
      (tables.statusOfSite client site).isSome = true) <| by
    unfold SiteOwned
    simp only [Option.mem_def, Option.isSome_iff_exists, statusOfSite_eq_some]
    constructor
    · intro h client site hclient hsite
      obtain ⟨_, row, hrow, hown, -⟩ := h client hclient site hsite
      exact ⟨row, hrow, hown⟩
    · intro h client hclient site hsite
      obtain ⟨row, hrow, hown⟩ := h client site hclient hsite
      exact ⟨row.status, row, hrow, hown, rfl⟩

/-- What a denial says to a principal to whom the client is foreign. -/
def foreignMessage (tables : MembershipTables) (requested : RequestedTenant) : String :=
  if tables.SiteOwned requested then "no membership matches the requested client or site"
  else "requested site does not belong to the requested client"

/-- The message tells whether the site is a stored one of the client, and nothing else. -/
theorem foreignMessage_eq_iff {a b : MembershipTables} {requested : RequestedTenant} :
    a.foreignMessage requested = b.foreignMessage requested ↔
      (a.SiteOwned requested ↔ b.SiteOwned requested) := by
  unfold foreignMessage
  by_cases ha : a.SiteOwned requested <;> by_cases hb : b.SiteOwned requested <;> simp [ha, hb]

namespace Foreign

variable {tables tables' : MembershipTables} {admins : List String} {principal : Principal}
  {client : ClientId} {requested : RequestedTenant} (h : tables.Foreign admins principal client)

include h

/-- It is a matter of the memberships of the principal alone. -/
theorem of_own (hown : tables'.own principal.idpId = tables.own principal.idpId) :
    tables'.Foreign admins principal client where
  unlisted := h.unlisted
  bounded := by
    rw [hown]
    exact h.bounded
  elsewhere := by
    rw [hown]
    exact h.elsewhere

/-- No intent helps. -/
theorem mayEscalate (intent : AccessIntent) :
    TenantAccess.mayEscalate (tables.own principal.idpId) intent = false := by
  rw [Bool.eq_false_iff, Ne, mayEscalate_iff]
  rintro (⟨-, record, hrecord, hscope⟩ | ⟨-, record, hrecord, hscope⟩)
  · obtain ⟨hglobal, hsystem⟩ := h.bounded record hrecord
    rcases Scope.atLeast_global.mp hscope with hheld | hheld
    · exact hglobal hheld
    · exact hsystem hheld
  · exact (h.bounded record hrecord).2 hscope

/-- No membership applies. -/
theorem taken_eq_nil (hclient : requested.clientId = some client) :
    tables.taken principal.idpId requested = [] := by
  rw [MembershipTables.taken_eq_nil]
  apply List.filter_eq_nil_iff.mpr
  intro record hrecord happlies
  exact h.elsewhere record hrecord (RoleGrantRecord.clientId_of_appliesTo happlies hclient)

/-- The tables answer with a denial that depends on what they hold of the client in its message
only. -/
theorem answer_eq (hclient : requested.clientId = some client) :
    tables.answer admins principal requested =
      .error (deniedRequest (RoleGrantRecord.byPrecedence (tables.own principal.idpId)) requested
        (tables.foreignMessage requested)) := by
  unfold foreignMessage
  by_cases hsites : tables.SiteOwned requested
  · have hintent : tables.byIntent principal.idpId requested = none := by
      rw [byIntent_of_some hclient, h.mayEscalate]
      rfl
    have hadmin : bootstraps admins principal requested = false := by
      unfold bootstraps
      rw [Bool.eq_false_iff.mpr (mt (isBootstrapAdmin_iff _ _).mp h.unlisted), Bool.and_false]
    have hrefusal : tables.refusal principal.idpId requested =
        deniedRequest (RoleGrantRecord.byPrecedence (tables.own principal.idpId)) requested
          "no membership matches the requested client or site" := by
      unfold refusal
      rw [hclient]
    rw [tables.answer_of_siteOwned admins principal hsites, hintent, if_pos hsites]
    unfold answerTaken
    rw [h.taken_eq_nil hclient, hadmin, hrefusal]
    rfl
  · rw [tables.answer_of_not_siteOwned admins principal hsites, if_neg hsites]

end Foreign
end MembershipTables

/-! ### Two stores -/

/-- Two denials of one request that differ at most in the message. -/
theorem deniedRequest_inj {records : List RoleGrantRecord} {requested : RequestedTenant}
    {message message' : String} :
    deniedRequest records requested message = deniedRequest records requested message' ↔
      message = message' := by
  unfold deniedRequest Denial.ofRequest Denial.withPrimary
  simp

variable {ρ : Type} (rest : Platform ρ) {admins : List String} {principal : Principal}
  {client : ClientId} {requested : RequestedTenant} {s t : AccessState (MembershipTables × ρ)}

/-- With no grant kept, a request for a foreign client is denied. -/
theorem resolve_of_foreign (h : s.world.1.Foreign admins principal client)
    (hclient : requested.clientId = some client)
    (hnone : ∀ grant, s.grants.find (.ofRequest principal.idpId requested) ≠ .ok (some grant)) :
    ((MembershipTables.resolver rest admins).resolve principal requested s).1 =
      .error (deniedRequest (RoleGrantRecord.byPrecedence (s.world.1.own principal.idpId)) requested
        (s.world.1.foreignMessage requested)) := by
  rw [resolve_fst_of_not_find rest admins hnone, resolveFresh_eq_answer]
  exact h.answer_eq hclient

/-- A principal asks for a client that is foreign to it over two stores with the same memberships of
the principal, whatever else they hold, and with the same grants kept.  The outcome is the same on
both exactly when a grant is kept for the request, or when the site that it names, if any, is a stored
one of the client in both or in neither.  When no grant is kept, both outcomes are denials with the
same reason, requested client and site, and default tenant; the message alone says which of the two
it is. -/
theorem resolve_foreign (hforeign : s.world.1.Foreign admins principal client)
    (hclient : requested.clientId = some client)
    (hown : t.world.1.own principal.idpId = s.world.1.own principal.idpId)
    (hkept : t.grants = s.grants) :
    let resolver := MembershipTables.resolver rest admins
    let key := GrantKey.ofRequest principal.idpId requested
    let denial := deniedRequest (RoleGrantRecord.byPrecedence (s.world.1.own principal.idpId))
      requested
    ((resolver.resolve principal requested t).1 = (resolver.resolve principal requested s).1 ↔
      (∃ grant, s.grants.find key = .ok (some grant)) ∨
        (t.world.1.SiteOwned requested ↔ s.world.1.SiteOwned requested)) ∧
    ((∀ grant, s.grants.find key ≠ .ok (some grant)) →
      (resolver.resolve principal requested s).1 =
          .error (denial (s.world.1.foreignMessage requested)) ∧
        (resolver.resolve principal requested t).1 =
          .error (denial (t.world.1.foreignMessage requested))) := by
  intro resolver key denial
  have hrefused : (∀ grant, s.grants.find key ≠ .ok (some grant)) →
      (resolver.resolve principal requested s).1 =
          .error (denial (s.world.1.foreignMessage requested)) ∧
        (resolver.resolve principal requested t).1 =
          .error (denial (t.world.1.foreignMessage requested)) := by
    intro hnone
    refine ⟨resolve_of_foreign rest hforeign hclient hnone, ?_⟩
    have hnone' := hnone
    rw [← hkept] at hnone'
    have hother := resolve_of_foreign rest (hforeign.of_own hown) hclient hnone'
    rwa [hown] at hother
  refine ⟨?_, hrefused⟩
  by_cases hfound : ∃ grant, s.grants.find key = .ok (some grant)
  · obtain ⟨grant, hgrant⟩ := hfound
    have hgrant' := hgrant
    rw [← hkept] at hgrant'
    refine iff_of_true ?_ (.inl ⟨grant, hgrant⟩)
    rw [resolver.resolve_of_find _ _ hgrant, resolver.resolve_of_find _ _ hgrant']
  · have hnone : ∀ grant, s.grants.find key ≠ .ok (some grant) := not_exists.mp hfound
    obtain ⟨hs, ht⟩ := hrefused hnone
    rw [hs, ht, Except.error.injEq, deniedRequest_inj, or_iff_right hfound]
    exact MembershipTables.foreignMessage_eq_iff

/-! ### A site that is guessed -/

/-- A site of a client that Ann holds nothing in. -/
def guess : RequestedTenant := ⟨some (.ofNat 2), some (.ofNat 22), .normal⟩

/-- Two clients, with or without one more site of the second one. -/
def beforeGuess (tables : MembershipTables) : AccessState (MembershipTables × World) where
  world := (tables, { listener := default })

/-- The second client is foreign to Ann. -/
theorem twoClients_foreign :
    twoClients.Foreign [] (.unnamed ⟨"ann"⟩ "ann@example.org" "ann") (.ofNat 2) where
  unlisted := List.not_mem_nil
  bounded := by
    intro record hrecord
    obtain rfl := List.mem_singleton.mp hrecord
    exact ⟨by decide, by decide⟩
  elsewhere := by
    intro record hrecord
    obtain rfl := List.mem_singleton.mp hrecord
    decide

/-- Whether the second client is active makes no difference to what Ann is told. -/
theorem resolve_foreign_guess :
    let ann : Principal := .unnamed ⟨"ann"⟩ "ann@example.org" "ann"
    let resolver := MembershipTables.resolver World.inMemory []
    let s := beforeGuess twoClients
    let t := beforeGuess (twoClients.upsertClient (.ofNat 2) .suspended)
    s.world.1.Foreign [] ann (.ofNat 2) ∧ guess.clientId = some (.ofNat 2) ∧
      t.world.1.own ann.idpId = s.world.1.own ann.idpId ∧ t.grants = s.grants ∧
      (resolver.resolve ann guess t).1 = (resolver.resolve ann guess s).1 := by
  intro ann resolver s t
  have hsites : t.world.1.SiteOwned guess ↔ s.world.1.SiteOwned guess := Iff.rfl
  refine ⟨twoClients_foreign, rfl, rfl, rfl, ?_⟩
  have hclient : guess.clientId = some (.ofNat 2) := rfl
  have hsame := resolve_foreign World.inMemory (s := s) (t := t) twoClients_foreign hclient rfl rfl
  exact hsame.1.mpr (.inr hsites)

/-- Over stores that differ in a site of the second client only, Ann is told by the message of the
denial which of them it is. -/
theorem foreign_site_told :
    let ann : Principal := .unnamed ⟨"ann"⟩ "ann@example.org" "ann"
    let resolver := MembershipTables.resolver World.inMemory []
    let s := beforeGuess twoClients
    let t := beforeGuess (twoClients.upsertSite (openSite 22 2 none))
    twoClients.Foreign [] ann (.ofNat 2) ∧
      (resolver.resolve ann guess s).1 =
        .error (.denied ⟨.requestDenied, "requested site does not belong to the requested client",
          some (.ofNat 2), some (.ofNat 22), some ⟨.ofNat 1, some (.ofNat 11), .stored default⟩⟩) ∧
      (resolver.resolve ann guess t).1 =
        .error (.denied ⟨.requestDenied, "no membership matches the requested client or site",
          some (.ofNat 2), some (.ofNat 22), some ⟨.ofNat 1, some (.ofNat 11), .stored default⟩⟩) ∧
      (resolver.resolve ann guess s).1 ≠ (resolver.resolve ann guess t).1 := by
  intro ann resolver s t
  have hs : (resolver.resolve ann guess s).1 = .error (.denied ⟨.requestDenied,
      "requested site does not belong to the requested client", some (.ofNat 2), some (.ofNat 22),
      some ⟨.ofNat 1, some (.ofNat 11), .stored default⟩⟩) := by cbv
  have ht : (resolver.resolve ann guess t).1 = .error (.denied ⟨.requestDenied,
      "no membership matches the requested client or site", some (.ofNat 2), some (.ofNat 22),
      some ⟨.ofNat 1, some (.ofNat 11), .stored default⟩⟩) := by cbv
  refine ⟨twoClients_foreign, hs, ht, ?_⟩
  rw [hs, ht]
  simp

end TenantAccess
