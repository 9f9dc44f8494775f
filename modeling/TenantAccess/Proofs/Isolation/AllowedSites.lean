import TenantAccess.Proofs.Isolation.SiteCaches

/-!
# The sites that a grant allows

Which sites of its client a grant allows, said in terms of the stored rows: a site and all that is
below it, a site alone, or none.  The visible sites that the tables come to are these, except that
there are none at all where the sites of the client have a cycle.

* `MembershipTables.Allows`, `MembershipTables.Tangled`: what the rows say.
* `MembershipTables.Tells`: a setting that tells the allowed sites.
* `visible_of_tangled`, `visible_of_not_tangled`: the two cases, the other one put together from one
  lemma for each kind of grant.
* `tells_of_visible`: the setting made of what is visible is such a one.
-/

namespace TenantAccess
namespace MembershipTables

variable {tables : MembershipTables} {grant : EffectiveGrant} {client : ClientId} {site : SiteId}

/-! ### What the rows say -/

/-- The grant allows the site: it is the one that the grant is for, or in a grant for a site and what
is below it, one that lies below that site in the client of the grant. -/
def Allows (tables : MembershipTables) (grant : EffectiveGrant) (site : SiteId) : Prop :=
  ∃ client root, grant.clientId = some client ∧ grant.siteId = some root ∧
    (grant.scope = .siteGroup ∧ (site = root ∨ tables.Below client site root) ∨
      grant.scope = .site ∧ site = root)

/-- The grant is for a site and what is below it in a client in which some site is below itself. -/
def Tangled (tables : MembershipTables) (grant : EffectiveGrant) : Prop :=
  grant.scope = .siteGroup ∧ grant.siteId ≠ none ∧
    ∃ client cyclic, grant.clientId = some client ∧ tables.Below client cyclic cyclic

/-- The value of a setting tells the sites that the grant allows: a star for all, or the identifiers
of exactly those sites in ascending order, joined by commas; they are stored sites of the client of
the grant. -/
structure Tells (tables : MembershipTables) (grant : EffectiveGrant) (value : String) : Prop where
  all : grant.scope.atLeast .client = true → value = "*"
  listed : grant.scope.atLeast .client = false → ∃ ids : List SiteId,
    value = ",".intercalate (ids.map Id.text) ∧ ids.Pairwise (· < ·) ∧
      (∀ site, site ∈ ids ↔ tables.Allows grant site) ∧
      ∀ site ∈ ids, ∃ client, grant.clientId = some client ∧ tables.Owns client site

/-- What a grant within the tables allows are sites of its client. -/
theorem Allows.owns (h : tables.Allows grant site) (hwithin : grant.Within tables) :
    ∃ client, grant.clientId = some client ∧ tables.Owns client site := by
  obtain ⟨client, root, hclient, hroot, hsite⟩ := h
  have hbelow : grant.scope.atLeast .client = false := by
    rcases hsite with ⟨hscope, -⟩ | ⟨hscope, -⟩ <;> rw [hscope] <;> rfl
  obtain ⟨client', hclient', howns⟩ := hwithin hbelow
  obtain rfl := Option.some.inj (hclient.symm.trans hclient')
  refine ⟨client, hclient, ?_⟩
  rcases hsite with ⟨-, rfl | hsite⟩ | ⟨-, rfl⟩
  · exact howns site hroot
  · exact hsite.owns
  · exact howns site hroot

/-! ### What the tables come to -/

/-- Where the sites of the client have a cycle, that is the error. -/
theorem visible_of_tangled (hkeyed : tables.SitesKeyed) (h : tables.Tangled grant) :
    ∃ client cyclic, grant.clientId = some client ∧ tables.Below client cyclic cyclic ∧
      tables.visible grant = .error (.hierarchy client (.cycle cyclic)) := by
  obtain ⟨hscope, hsome, client, cyclic, hclient, hcyclic⟩ := h
  obtain ⟨site, hsite⟩ := Option.ne_none_iff_exists'.mp hsome
  rw [← below_nodesOf hkeyed] at hcyclic
  obtain ⟨reported, hbuild, hreported⟩ :=
    SiteHierarchy.build_of_below_self (nodup_nodesOf hkeyed client) hcyclic
  rw [below_nodesOf hkeyed] at hreported
  refine ⟨client, reported, hclient, hreported, ?_⟩
  rw [visible_of_group hscope hclient hsite, treeOf_of_build hbuild]
  rfl

/-- From the scope that spans sites up, all of them are visible. -/
theorem visible_of_atLeast (h : grant.scope.atLeast .client = true) :
    tables.visible grant = .ok .all := by
  rw [visible_of_not_group]
  · unfold VisibleSites.ofGrant
    rw [if_pos h]
  · intro hscope
    rw [hscope] at h
    cases h

/-- In a client without a cycle the tree has below a site what lies below it. -/
theorem treeOf_of_forest (hkeyed : tables.SitesKeyed)
    (h : ∀ site, ¬ tables.Below client site site) :
    ∃ tree, tables.treeOf client = .ok tree ∧
      ∀ root site, site ∈ tree.descendantsOf root ↔ site ≠ root ∧ tables.Below client site root := by
  have hforest : ∀ site, ¬ SiteHierarchy.Below (tables.nodesOf client) site site := by
    rw [below_nodesOf hkeyed]
    exact h
  obtain ⟨tree, hbuild, hindexes⟩ :=
    SiteHierarchy.build_of_forest (nodup_nodesOf hkeyed client) hforest
  have hbelow := hindexes.mem_descendantsOf
  rw [below_nodesOf hkeyed] at hbelow
  exact ⟨tree, treeOf_of_build hbuild, hbelow⟩

/-- In such a client a grant for a site and what is below it makes exactly these visible. -/
theorem visible_of_forest {root : SiteId} (hkeyed : tables.SitesKeyed)
    (hscope : grant.scope = .siteGroup) (hclient : grant.clientId = some client)
    (hsite : grant.siteId = some root) (h : ∀ site, ¬ tables.Below client site site) :
    ∃ ids : SiteSet, tables.visible grant = .ok (.sites ids) ∧
      ∀ site, site ∈ ids.toList ↔ site = root ∨ tables.Below client site root := by
  obtain ⟨tree, htree, hbelow⟩ := treeOf_of_forest hkeyed h
  let ids : SiteSet := (SiteSet.ofList (tree.descendantsOf root)).insert root
  have hsites : VisibleSites.ofGrant grant tree.descendantsOf = .sites ids := by
    unfold VisibleSites.ofGrant
    rw [hscope, hsite]
    rfl
  refine ⟨ids, ?_, ?_⟩
  · rw [visible_of_group hscope hclient hsite, htree, Except.map, hsites]
  · intro site
    rw [SiteSet.mem_toList_insert, SiteSet.mem_toList_ofList, hbelow]
    by_cases hroot : site = root <;> simp [hroot]

/-- A grant for a site makes that one visible. -/
theorem visible_of_site {root : SiteId} (hscope : grant.scope = .site)
    (hsite : grant.siteId = some root) :
    tables.visible grant = .ok (.sites (SiteSet.empty.insert root)) := by
  have hgroup : grant.scope = .siteGroup → grant.siteId = none := by
    intro hgroup
    cases hscope.symm.trans hgroup
  rw [visible_of_not_group hgroup]
  unfold VisibleSites.ofGrant
  rw [hscope, hsite]
  rfl

/-- Without a site, or for the principal's own things only, nothing is visible. -/
theorem visible_of_nothing (hscope : grant.scope.atLeast .client = false)
    (h : grant.siteId = none ∨ grant.scope = .self) :
    tables.visible grant = .ok (.sites .empty) := by
  have hgroup : grant.scope = .siteGroup → grant.siteId = none := by
    intro hgroup
    rcases h with hsite | hself
    · exact hsite
    · cases hself.symm.trans hgroup
  rw [visible_of_not_group hgroup]
  unfold VisibleSites.ofGrant
  rw [if_neg (by simp [hscope])]
  rcases h with hsite | hself
  · rw [hsite]
    rcases grant.scope with _ | _ | _ | _ | _ | _ <;> rfl
  · rw [hself]
    rfl

/-- What is visible is what the grant allows, unless there is a cycle. -/
theorem visible_of_not_tangled (hkeyed : tables.SitesKeyed) (hwithin : grant.Within tables)
    (hscope : grant.scope.atLeast .client = false) (h : ¬ tables.Tangled grant) :
    ∃ ids : SiteSet, tables.visible grant = .ok (.sites ids) ∧
      ∀ site, site ∈ ids.toList ↔ tables.Allows grant site := by
  obtain ⟨client, hclient, -⟩ := hwithin hscope
  unfold Allows
  rcases hsite : grant.siteId with _ | root
  · refine ⟨.empty, visible_of_nothing hscope (.inl hsite), ?_⟩
    simp [SiteSet.empty]
  rcases hkind : grant.scope with _ | _ | _ | _ | _ | _
  case siteGroup =>
    have hforest : ∀ site, ¬ tables.Below client site site := by
      intro cyclic hcyclic
      exact h ⟨hkind, by simp [hsite], client, cyclic, hclient, hcyclic⟩
    obtain ⟨ids, hvisible, hids⟩ := visible_of_forest hkeyed hkind hclient hsite hforest
    refine ⟨ids, hvisible, ?_⟩
    simpa [hclient] using hids
  case site =>
    refine ⟨_, visible_of_site hkind hsite, ?_⟩
    intro site
    rw [SiteSet.mem_toList_insert]
    simp [SiteSet.empty, hclient]
  case self =>
    refine ⟨.empty, visible_of_nothing hscope (.inr hkind), ?_⟩
    simp [SiteSet.empty]
  all_goals
    rw [hkind] at hscope
    cases hscope

/-- The setting of what the tables make visible tells the sites that the grant allows. -/
theorem tells_of_visible (hkeyed : tables.SitesKeyed) (hwithin : grant.Within tables)
    {sites : VisibleSites} (h : tables.visible grant = .ok sites) :
    tables.Tells grant sites.setting where
  all := by
    intro hscope
    rw [visible_of_atLeast hscope] at h
    obtain rfl := Except.ok.inj h
    rfl
  listed := by
    intro hscope
    have hforest : ¬ tables.Tangled grant := by
      intro htangled
      obtain ⟨client, cyclic, -, -, herror⟩ := visible_of_tangled hkeyed htangled
      rw [herror] at h
      cases h
    obtain ⟨ids, hvisible, hids⟩ := visible_of_not_tangled hkeyed hwithin hscope hforest
    obtain rfl := Except.ok.inj (hvisible.symm.trans h)
    refine ⟨ids.toList, rfl, ids.ascending, hids, ?_⟩
    intro site hsite
    exact ((hids site).mp hsite).owns hwithin

end MembershipTables
end TenantAccess
