import TenantAccess.Proofs.Isolation.StoredSites

/-!
# Changes of the tables

Tables in memory change while grants and site trees are kept.  `TableChange` is one change of any
kind; `AccessState.changed` is the state afterwards, with everything that is kept still there.
-/

namespace TenantAccess

/-- A change of what is stored. -/
inductive TableChange where
  | upsertClient (client : ClientId) (status : ClientStatus)
  | upsertSite (row : SiteRecord)
  | setSiteStatus (site : SiteId) (status : SiteStatus)
  | setSiteParent (site : SiteId) (parentId : Option SiteId)
  | addGrant (principal : IdpId) (record : RoleGrantRecord)
  | removeGrant (id : MembershipId)

/-- The tables after a change. -/
def MembershipTables.changed (tables : MembershipTables) : TableChange → MembershipTables
  | .upsertClient client status => tables.upsertClient client status
  | .upsertSite row => tables.upsertSite row
  | .setSiteStatus site status => tables.setSiteStatus site status
  | .setSiteParent site parentId => tables.setSiteParent site parentId
  | .addGrant principal record => tables.addGrant principal record
  | .removeGrant id => tables.removeGrant id

/-- Tables built up by changes stay so with one more. -/
theorem MembershipTables.Built.changed {tables : MembershipTables} (h : tables.Built)
    (change : TableChange) : (tables.changed change).Built := by
  rcases change with ⟨client, status⟩ | row | ⟨site, status⟩ | ⟨site, parentId⟩ |
    ⟨principal, record⟩ | id
  · exact h.upsertClient client status
  · exact h.upsertSite row
  · exact h.setSiteStatus site status
  · exact h.setSiteParent site parentId
  · exact h.addGrant principal record
  · exact h.removeGrant id

/-- The state after a change of the tables. -/
def AccessState.changed {ρ : Type} (s : AccessState (MembershipTables × ρ))
    (change : TableChange) : AccessState (MembershipTables × ρ) :=
  { s with world := (s.world.1.changed change, s.world.2) }

end TenantAccess
