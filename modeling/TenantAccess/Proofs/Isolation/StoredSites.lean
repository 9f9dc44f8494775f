import TenantAccess.Proofs.Access.Escalation
import TenantAccess.Proofs.Hierarchy.Forest

/-!
# Stored sites

What tables that were built up by changes say about the sites of a client, and that the list of them
which the store gives says the same.

* `MembershipTables.Built`: the tables come about by changes of empty ones.
* `MembershipTables.Built.sitesKeyed`: then every stored site has the one row with its identifier.
* `MembershipTables.Owns`, `MembershipTables.HasParent`, `MembershipTables.Below`: the sites of a
  client and what lies below them, read off the rows.
* `MembershipTables.below_nodesOf`: in the list of the client's sites the same lies below a site.
-/

namespace TenantAccess

/-! ### Keys of tables -/

namespace Table

variable {κ α : Type} [BEq κ] {table : Table κ α} {key : κ} {value : α}

/-- No two rows of the table have one key. -/
def Keyed (table : Table κ α) : Prop := (table.rows.map Prod.fst).Nodup

/-- Taking out a key leaves the others with one row each. -/
theorem Keyed.erase (h : table.Keyed) (key : κ) : (table.erase key).Keyed := by
  have hsub : (table.erase key).rows.Sublist table.rows := List.filter_sublist
  exact h.sublist (hsub.map Prod.fst)

/-- A key that gets a value has one row, like the others. -/
theorem Keyed.insert [LawfulBEq κ] (h : table.Keyed) (key : κ) (value : α) :
    (table.insert key value).Keyed := by
  have hnew : key ∉ (table.erase key).rows.map Prod.fst := by
    rw [List.mem_map]
    rintro ⟨row, hrow, rfl⟩
    have hne := (List.mem_filter.mp hrow).2
    simp at hne
  exact List.nodup_cons.mpr ⟨hnew, h.erase key⟩

/-- The value of a key is the one of its row. -/
theorem Keyed.get?_eq_some [LawfulBEq κ] (h : table.Keyed) :
    table.get? key = some value ↔ (key, value) ∈ table.rows := by
  obtain ⟨rows⟩ := table
  unfold Keyed at h
  unfold get?
  dsimp only at h ⊢
  induction rows with
  | nil => simp
  | cons row rows ih =>
    obtain ⟨first, held⟩ := row
    obtain ⟨hnew, hrest⟩ := List.nodup_cons.mp h
    rw [List.lookup_cons, List.mem_cons]
    rcases hkey : key == first with _ | _
    · have hne : key ≠ first := by simpa using hkey
      rw [← ih hrest]
      simp [hne]
    · obtain rfl := eq_of_beq hkey
      have hothers : (key, value) ∉ rows := by
        intro hmem
        have hkeys := List.mem_map_of_mem (f := Prod.fst) hmem
        exact hnew hkeys
      simp [hothers, eq_comm]

end Table

namespace MembershipTables

/-! ### Tables built up by changes -/

/-- The tables come about by changes of empty ones; reads only count. -/
inductive Built : MembershipTables → Prop where
  | empty : Built {}
  | upsertClient {tables : MembershipTables} (client : ClientId) (status : ClientStatus)
    (h : Built tables) : Built (tables.upsertClient client status)
  | upsertSite {tables : MembershipTables} (row : SiteRecord) (h : Built tables) :
    Built (tables.upsertSite row)
  | setSiteStatus {tables : MembershipTables} (site : SiteId) (status : SiteStatus)
    (h : Built tables) : Built (tables.setSiteStatus site status)
  | setSiteParent {tables : MembershipTables} (site : SiteId) (parentId : Option SiteId)
    (h : Built tables) : Built (tables.setSiteParent site parentId)
  | addGrant {tables : MembershipTables} (principal : IdpId) (record : RoleGrantRecord)
    (h : Built tables) : Built (tables.addGrant principal record)
  | removeGrant {tables : MembershipTables} (id : MembershipId) (h : Built tables) :
    Built (tables.removeGrant id)
  | read {tables tables' : MembershipTables} (hsame : tables'.Same tables) (h : Built tables) :
    Built tables'

variable {tables : MembershipTables} {client : ClientId} {site parent : SiteId}

/-- Every stored site has one row, under its identifier. -/
structure SitesKeyed (tables : MembershipTables) : Prop where
  keyed : tables.sites.Keyed
  id_eq : ∀ {site row}, (site, row) ∈ tables.sites.rows → row.id = site

/-- A site in place of the one with its identifier keeps that. -/
theorem SitesKeyed.insert (h : tables.SitesKeyed) (row : SiteRecord) :
    SitesKeyed { tables with sites := tables.sites.insert row.id row } where
  keyed := h.keyed.insert row.id row
  id_eq := by
    intro site other hmem
    rcases List.mem_cons.mp hmem with hnew | hold
    · obtain ⟨rfl, rfl⟩ := Prod.mk.inj hnew
      rfl
    · exact h.id_eq (List.mem_filter.mp hold).1

/-- So does a change of a stored site that leaves its identifier. -/
theorem SitesKeyed.adjust (h : tables.SitesKeyed) (site : SiteId) {change : SiteRecord → SiteRecord}
    (hchange : ∀ row, (change row).id = row.id) :
    SitesKeyed { tables with sites := tables.sites.adjust site change } := by
  unfold Table.adjust
  rcases hrow : tables.sites.get? site with _ | row
  · exact h
  · have hid : (change row).id = site := by
      rw [hchange]
      exact h.id_eq (h.keyed.get?_eq_some.mp hrow)
    have hinsert := h.insert (change row)
    rw [hid] at hinsert
    exact hinsert

/-- In tables that come about by changes every stored site has the one row with its identifier. -/
theorem Built.sitesKeyed (h : tables.Built) : tables.SitesKeyed := by
  induction h with
  | empty => exact ⟨List.nodup_nil, fun hmem => by cases hmem⟩
  | upsertClient client status _ ih => exact ⟨ih.keyed, ih.id_eq⟩
  | upsertSite row _ ih => exact ih.insert row
  | setSiteStatus site status _ ih => exact ih.adjust site fun _ => rfl
  | setSiteParent site parentId _ ih => exact ih.adjust site fun _ => rfl
  | addGrant principal record _ ih => exact ⟨ih.keyed, ih.id_eq⟩
  | removeGrant id _ ih => exact ⟨ih.keyed, ih.id_eq⟩
  | read hsame _ ih =>
    constructor
    · rw [hsame.sites]
      exact ih.keyed
    · intro site row hmem
      rw [hsame.sites] at hmem
      exact ih.id_eq hmem

/-! ### The sites of a client -/

/-- The site is a stored site of the client. -/
def Owns (tables : MembershipTables) (client : ClientId) (site : SiteId) : Prop :=
  ∃ row, tables.sites.get? site = some row ∧ row.clientId = client

/-- The site is a stored site of the client with the parent, which is one of the client too. -/
def HasParent (tables : MembershipTables) (client : ClientId) (site parent : SiteId) : Prop :=
  (∃ row, tables.sites.get? site = some row ∧ row.clientId = client ∧
    row.parentId = some parent) ∧ tables.Owns client parent

/-- Following parents inside the client leads from the first site up to the second one in at least
one step. -/
def Below (tables : MembershipTables) (client : ClientId) : SiteId → SiteId → Prop :=
  Relation.TransGen (tables.HasParent client)

/-- A site that lies below another one is the client's. -/
theorem Below.owns {above : SiteId} (h : tables.Below client site above) :
    tables.Owns client site := by
  obtain ⟨_, ⟨⟨row, hrow, hclient, -⟩, -⟩, -⟩ := Relation.TransGen.head'_iff.mp h
  exact ⟨row, hrow, hclient⟩

/-- A site is one client's only. -/
theorem Owns.unique {other : ClientId} (h : tables.Owns client site)
    (h' : tables.Owns other site) : other = client := by
  obtain ⟨row, hrow, rfl⟩ := h
  obtain ⟨row', hrow', rfl⟩ := h'
  obtain rfl := Option.some.inj (hrow.symm.trans hrow')
  rfl

/-! ### The list of a client's sites -/

/-- The sites of the client with their parents, in the order in which the store lists them. -/
def nodesOf (tables : MembershipTables) (client : ClientId) : List SiteNode :=
  (tables.sitesOf client).map SiteRecord.node

section keyed

variable (h : tables.SitesKeyed)
include h

/-- The list of a client's sites has the rows that are stored under their identifiers for the
client. -/
theorem mem_sitesOf_iff {row : SiteRecord} :
    row ∈ tables.sitesOf client ↔
      tables.sites.get? row.id = some row ∧ row.clientId = client := by
  rw [mem_sitesOf, h.keyed.get?_eq_some]
  unfold HasSite Table.values
  rw [List.mem_map]
  constructor
  · rintro ⟨⟨⟨site, row⟩, hmem, rfl⟩, hclient⟩
    obtain rfl := h.id_eq hmem
    exact ⟨hmem, hclient⟩
  · rintro ⟨hmem, hclient⟩
    exact ⟨⟨_, hmem, rfl⟩, hclient⟩

/-- A stored site is found under its own identifier. -/
theorem id_of_get? {row : SiteRecord} (hrow : tables.sites.get? site = some row) :
    row.id = site :=
  h.id_eq (h.keyed.get?_eq_some.mp hrow)

/-- The listed sites are those of the client. -/
theorem mem_map_id_nodesOf : site ∈ (tables.nodesOf client).map SiteNode.id ↔
    tables.Owns client site := by
  unfold nodesOf Owns
  rw [List.map_map, List.mem_map]
  constructor
  · rintro ⟨row, hrow, rfl⟩
    obtain ⟨hget, hclient⟩ := (mem_sitesOf_iff h).mp hrow
    exact ⟨row, hget, hclient⟩
  · rintro ⟨row, hget, hclient⟩
    have hid := id_of_get? h hget
    subst hid
    exact ⟨row, (mem_sitesOf_iff h).mpr ⟨hget, hclient⟩, rfl⟩

/-- No site is listed twice. -/
theorem nodup_nodesOf (client : ClientId) : ((tables.nodesOf client).map SiteNode.id).Nodup := by
  have hids : tables.sites.values.map (·.id) = tables.sites.rows.map Prod.fst := by
    unfold Table.values
    rw [List.map_map]
    apply List.map_congr_left
    rintro ⟨site, row⟩ hmem
    exact h.id_eq hmem
  have hall : (tables.sites.values.map (·.id)).Nodup := by
    rw [hids]
    exact h.keyed
  have hclient := hall.sublist ((List.filter_sublist
    (p := fun row : SiteRecord => row.clientId == client)).map (·.id))
  have hperm : (tables.sitesOf client).Perm (tables.sites.values.filter (·.clientId == client)) :=
    List.mergeSort_perm _ _
  unfold nodesOf
  rw [List.map_map]
  exact (hperm.map (·.id)).nodup_iff.mpr hclient

/-- In the list of a client's sites a site has the parent that it has in the rows. -/
theorem hasParent_nodesOf :
    SiteHierarchy.HasParent (tables.nodesOf client) site parent ↔
      tables.HasParent client site parent := by
  unfold SiteHierarchy.HasParent HasParent
  rw [mem_map_id_nodesOf h]
  apply and_congr_left'
  unfold nodesOf
  rw [List.mem_map]
  constructor
  · rintro ⟨row, hrow, hnode⟩
    obtain ⟨rfl, hparent⟩ := SiteNode.mk.inj hnode
    obtain ⟨hget, hclient⟩ := (mem_sitesOf_iff h).mp hrow
    exact ⟨row, hget, hclient, hparent⟩
  · rintro ⟨row, hget, hclient, hparent⟩
    have hid := id_of_get? h hget
    subst hid
    refine ⟨row, (mem_sitesOf_iff h).mpr ⟨hget, hclient⟩, ?_⟩
    unfold SiteRecord.node
    rw [hparent]

/-- In the list of the client's sites the same lies below a site as in the rows. -/
theorem below_nodesOf (client : ClientId) :
    SiteHierarchy.Below (tables.nodesOf client) = tables.Below client := by
  have hparents : SiteHierarchy.HasParent (tables.nodesOf client) = tables.HasParent client := by
    funext site parent
    exact propext (hasParent_nodesOf h)
  unfold SiteHierarchy.Below Below
  rw [hparents]

end keyed

end MembershipTables
end TenantAccess
