import TenantAccess.Proofs.Freshness.GrantHistory

/-!
# How old a grant can be

A grant that is resolved may have been kept since the tables were different.  It is never older than
the last time that its key was forgotten; errors are never old at all.

* `GrantKey.Covered`: the keys that an invalidation forgets.
* `resolve_ok_of_history`: a resolved grant was answered after its key was last forgotten.
* `resolve_error`: an error is what the tables say now, and nothing is kept of it.
* `find_invalidate`: an invalidation makes a difference to the keys it covers only.
* `resolve_again`: a grant that is not forgotten is found again without the store.
* `grants_bounded_by_invalidation`: all of this about any history.
-/

namespace TenantAccess

/-- The key is one of the principal's, for no tenant, or for the client and none but the listed
sites, with any intent. -/
def GrantKey.Covered (key : GrantKey) (idpId : IdpId) (client : ClientId) (sites : List SiteId) :
    Prop :=
  key.idpId = idpId ∧
    (key.clientId = none ∧ key.siteId = none ∨
      key.clientId = some client ∧ ∀ site, key.siteId = some site → site ∈ sites)

/-- An invalidation forgets the keys that it covers. -/
theorem GrantKey.mem_forgotten_invalidate {key : GrantKey} {idpId : IdpId} {client : ClientId}
    {sites : List SiteId} :
    key ∈ (GrantEvent.call (.invalidate idpId client sites)).forgotten ↔
      key.Covered idpId client sites :=
  mem_variants

section history

variable {ρ : Type} (rest : Platform ρ) (admins : List String)
  (s : AccessState (MembershipTables × ρ)) (events : List GrantEvent) {principal : Principal}
  {requested : RequestedTenant} {grant : EffectiveGrant}

/-- A grant that is resolved was answered to some principal with the same identity at a moment after
which its key was not forgotten; the moment may be now. -/
theorem resolve_ok_of_history
    (h : ((MembershipTables.resolver rest admins).resolve principal requested
      (s.withoutGrants.afterAll (MembershipTables.resolver rest admins) events)).1 = .ok grant) :
    ∃ earlier later, events = earlier ++ later ∧
      (∀ event ∈ later, GrantKey.ofRequest principal.idpId requested ∉ event.forgotten) ∧
      ∃ other : Principal, other.idpId = principal.idpId ∧
        (MembershipTables.resolver rest admins).resolveFresh other requested
          (s.withoutGrants.afterAll (MembershipTables.resolver rest admins) earlier) =
            .ok grant := by
  rcases resolve_cases rest admins principal requested
      (s.withoutGrants.afterAll (MembershipTables.resolver rest admins) events) with
    ⟨held, hheld, hresolve⟩ | ⟨-, t, -, ⟨e, -, hresolve⟩ | ⟨held, hanswer, hresolve⟩⟩
  · rw [hresolve] at h
    obtain rfl := Except.ok.inj h
    obtain ⟨earlier, other, requested', later, rfl, hkey, hanswer, hlater⟩ :=
      exists_resolved rest admins hheld
    obtain ⟨hidp, rfl⟩ := GrantKey.ofRequest_inj.mp hkey
    refine ⟨earlier, _, rfl, ?_, other, hidp.symm, ?_⟩
    · rw [List.forall_mem_cons]
      exact ⟨List.not_mem_nil, hlater⟩
    · rw [resolveFresh_eq_answer]
      exact hanswer
  · rw [hresolve] at h
    cases h
  · rw [hresolve] at h
    obtain rfl := Except.ok.inj h
    refine ⟨events, [], (List.append_nil _).symm, by simp, principal, rfl, ?_⟩
    rw [resolveFresh_eq_answer]
    exact hanswer

/-- An error is what the tables say now, and the cache stays as it is. -/
theorem resolve_error {e : AccessError}
    (h : ((MembershipTables.resolver rest admins).resolve principal requested s).1 = .error e) :
    (MembershipTables.resolver rest admins).resolveFresh principal requested s = .error e ∧
      ((MembershipTables.resolver rest admins).resolve principal requested s).2.grants =
        s.grants := by
  rw [resolveFresh_eq_answer]
  rcases resolve_cases rest admins principal requested s with
    ⟨held, -, hresolve⟩ | ⟨-, t, hst, ⟨e', hanswer, hresolve⟩ | ⟨held, -, hresolve⟩⟩
  · rw [hresolve] at h
    cases h
  · rw [hresolve] at h ⊢
    obtain rfl := Except.error.inj h
    exact ⟨hanswer, hst.grants⟩
  · rw [hresolve] at h
    cases h

/-- An invalidation leaves nothing under the keys it covers and everything under the others. -/
theorem find_invalidate {σ : Type} (s : AccessState σ) (idpId : IdpId) (client : ClientId)
    (sites : List SiteId) (key : GrantKey) :
    (key.Covered idpId client sites →
      ∀ grant, (AccessResolver.invalidate idpId client sites s).2.grants.find key ≠
        .ok (some grant)) ∧
    (¬key.Covered idpId client sites →
      (AccessResolver.invalidate idpId client sites s).2.grants.find key = s.grants.find key) := by
  unfold GrantKey.Covered
  rw [← GrantKey.mem_variants]
  refine ⟨?_, GrantCache.find_eraseAll_of_not_mem⟩
  intro hcovered grant hfind
  exact ((GrantCache.find_eraseAll _).mp hfind).1 hcovered

/-- A grant that is not forgotten after it was resolved is found again, whatever the store holds by
then and whatever reading it would do. -/
theorem resolve_again (hmode : s.grants.mode = .keeping) {later : List GrantEvent}
    (h : ((MembershipTables.resolver rest admins).resolve principal requested s).1 = .ok grant)
    (hlater : ∀ event ∈ later, GrantKey.ofRequest principal.idpId requested ∉ event.forgotten)
    (any : AccessResolver (MembershipTables × ρ)) :
    any.resolve principal requested
        (((MembershipTables.resolver rest admins).resolve principal requested s).2.afterAll
          (MembershipTables.resolver rest admins) later) =
      (.ok grant,
        ((MembershipTables.resolver rest admins).resolve principal requested s).2.afterAll
          (MembershipTables.resolver rest admins) later) := by
  have hfound := find_resolved rest admins hmode h
  exact any.resolve_of_find _ _ (find_afterAll_of_remembered rest admins hfound hlater)

/-- Whatever has happened since nothing was kept: a grant that is resolved was answered by the tables
to some principal with the same identity, at a moment since the last invalidation that covers its
key; an error is what the tables answer now and leaves the cache as it is; and an invalidation makes
a difference to the keys it covers only, so that a grant is found again without the store until its
key is forgotten. -/
theorem grants_bounded_by_invalidation (principal : Principal) (requested : RequestedTenant) :
    let resolver := MembershipTables.resolver rest admins
    let key := GrantKey.ofRequest principal.idpId requested
    let now := s.withoutGrants.afterAll resolver events
    let resolved := resolver.resolve principal requested now
    (∀ grant, resolved.1 = .ok grant → ∃ earlier later, events = earlier ++ later ∧
      (∀ idpId client sites, .call (.invalidate idpId client sites) ∈ later →
        ¬key.Covered idpId client sites) ∧
      ∃ other : Principal, other.idpId = principal.idpId ∧
        resolver.resolveFresh other requested (s.withoutGrants.afterAll resolver earlier) =
          .ok grant) ∧
    (∀ e, resolved.1 = .error e →
      resolver.resolveFresh principal requested now = .error e ∧
        resolved.2.grants = now.grants) ∧
    (∀ idpId client sites (other : GrantKey),
      (other.Covered idpId client sites →
        ∀ grant, (AccessResolver.invalidate idpId client sites now).2.grants.find other ≠
          .ok (some grant)) ∧
      (¬other.Covered idpId client sites →
        (AccessResolver.invalidate idpId client sites now).2.grants.find other =
          now.grants.find other)) ∧
    ∀ grant later, s.grants.mode = .keeping → resolved.1 = .ok grant →
      (∀ event ∈ later, key ∉ event.forgotten) →
      ∀ any : AccessResolver (MembershipTables × ρ),
        any.resolve principal requested (resolved.2.afterAll resolver later) =
          (.ok grant, resolved.2.afterAll resolver later) := by
  intro resolver key now resolved
  refine ⟨?_, ?_, ?_, ?_⟩
  · intro grant hgrant
    obtain ⟨earlier, later, hevents, hlater, hother⟩ :=
      resolve_ok_of_history rest admins s events hgrant
    refine ⟨earlier, later, hevents, ?_, hother⟩
    intro idpId client sites hmem hcovered
    exact hlater _ hmem (GrantKey.mem_forgotten_invalidate.mpr hcovered)
  · intro e herror
    exact resolve_error rest admins now herror
  · intro idpId client sites other
    exact find_invalidate now idpId client sites other
  · intro grant later hmode hgrant hlater any
    have hnow : now.grants.mode = .keeping := by
      rw [mode_afterAll]
      exact hmode
    exact resolve_again rest admins now hnow hgrant hlater any

end history
end TenantAccess
