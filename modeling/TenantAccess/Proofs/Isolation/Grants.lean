import TenantAccess.Proofs.Access.Coherence
import TenantAccess.Proofs.Access.StoredGrant
import TenantAccess.Proofs.Isolation.StoredSites

/-!
# Grants within the tables

A grant that does not reach a whole client is for one client, and the site that it is for is one of
the client's.  Resolving gives no other grants and keeps no other ones.

* `EffectiveGrant.Within`, `GrantCache.Within`: such a grant, and a cache of such grants.
* `within_of_answer`: what the tables answer is such a grant.
* `resolve_within`: so it is with what is resolved through a cache of such grants, which stays one.
* `resolve_elsewhere`: apart from what it keeps, resolving only counts and writes to the audit trail.
-/

namespace TenantAccess

variable {tables : MembershipTables} {grant : EffectiveGrant}

/-- Where the grant does not reach a whole client, it is for a client, and its site is the
client's. -/
def EffectiveGrant.Within (tables : MembershipTables) (grant : EffectiveGrant) : Prop :=
  grant.scope.atLeast .client = false → ∃ client, grant.clientId = some client ∧
    ∀ site, grant.siteId = some site → tables.Owns client site

/-- Every grant that is kept is within the tables. -/
def GrantCache.Within (tables : MembershipTables) (cache : GrantCache) : Prop :=
  ∀ key grant, cache.find key = .ok (some grant) → grant.Within tables

/-- With nothing kept, nothing else is kept. -/
theorem GrantCache.Within.of_empty {cache : GrantCache} (h : cache.entries = {}) :
    cache.Within tables := by
  intro key grant hfind
  exact absurd hfind (find_of_empty h)

/-- Keeping a grant within the tables leaves such a cache. -/
theorem GrantCache.Within.insert {cache : GrantCache} (h : cache.Within tables) (key : GrantKey)
    (hgrant : grant.Within tables) : (cache.insert key grant).Within tables := by
  intro other kept hfind
  rcases find_insert hfind with ⟨-, rfl⟩ | hbefore
  · exact hgrant
  · exact h other kept hbefore

/-- So does forgetting grants. -/
theorem GrantCache.Within.eraseAll {cache : GrantCache} (h : cache.Within tables)
    (keys : List GrantKey) : (cache.eraseAll keys).Within tables := by
  intro key grant hfind
  have hbefore := ((find_eraseAll keys).mp hfind).2
  exact h key grant hbefore

/-! ### What the tables answer -/

/-- A grant that the tables answer is within them: made up, it reaches everything, and otherwise its
site has been found to be the client's. -/
theorem within_of_answer {admins : List String} {principal : Principal}
    {requested : RequestedTenant}
    (h : tables.answer admins principal requested = .ok grant) : grant.Within tables := by
  intro hscope
  rcases hmade : grant.isEphemeral with _ | _
  · have hsites := tables.siteOwned_of_answer admins principal h
    have hactive := activeGrant_of_answer hsites h hmade
    obtain ⟨record, hstored⟩ := storedGrant_of_activeGrant hsites hactive
    refine ⟨record.clientId, hstored.clientId, ?_⟩
    intro site hsite
    obtain ⟨row, hrow, hclient, -⟩ := hstored.siteActive hscope site hsite
    exact ⟨row, hrow, hclient⟩
  · have hsystem : grant.scope = .system := by
      rcases (MembershipTables.answer_ephemeral.mp ⟨h, hmade⟩).2 with hintent | ⟨-, -, -, rfl⟩
      · exact (MembershipTables.escalationGrant_byIntent hintent).scope
      · exact MembershipTables.escalationGrant_asBootstrap.scope
    rw [hsystem] at hscope
    cases hscope

/-! ### What is resolved -/

section resolve

variable {ρ : Type} (rest : Platform ρ) (admins : List String) (principal : Principal)
  (requested : RequestedTenant) {s : AccessState (MembershipTables × ρ)}

/-- Through a cache of grants within the tables such grants are resolved, and such grants are
kept. -/
theorem resolve_within (htables : s.world.1.Same tables) (hkept : s.grants.Within tables) :
    (∀ grant, ((MembershipTables.resolver rest admins).resolve principal requested s).1 =
        .ok grant → grant.Within tables) ∧
      ((MembershipTables.resolver rest admins).resolve principal requested s).2.grants.Within
        tables := by
  rcases resolve_cases rest admins principal requested s with
    ⟨held, hheld, hresolve⟩ | ⟨-, t, hst, ⟨e, -, hresolve⟩ | ⟨held, hanswer, hresolve⟩⟩
  · rw [hresolve]
    refine ⟨?_, hkept⟩
    rintro grant ⟨⟩
    exact hkept _ _ hheld
  · rw [hresolve]
    refine ⟨nofun, ?_⟩
    rw [hst.grants]
    exact hkept
  · rw [htables.answer_eq] at hanswer
    have hgrant : held.Within tables := within_of_answer hanswer
    rw [hresolve]
    refine ⟨?_, hkept.insert _ hgrant⟩
    rintro grant ⟨⟩
    exact hgrant

/-- Apart from what it keeps, resolving only counts and writes to the audit trail. -/
theorem resolve_elsewhere (s : AccessState (MembershipTables × ρ)) :
    ∃ t, Undisturbed rest s t ∧
      ((MembershipTables.resolver rest admins).resolve principal requested s).2 =
        { t with
          grants := ((MembershipTables.resolver rest admins).resolve principal requested
            s).2.grants } := by
  rcases resolve_cases rest admins principal requested s with
    ⟨held, -, hresolve⟩ | ⟨-, t, hst, ⟨e, -, hresolve⟩ | ⟨held, -, hresolve⟩⟩
  · rw [hresolve]
    exact ⟨s, .refl s, rfl⟩
  · rw [hresolve]
    exact ⟨t, hst, rfl⟩
  · rw [hresolve]
    exact ⟨t, hst, rfl⟩

end resolve
end TenantAccess
