import TenantAccess.Proofs.Access.Escalation
import TenantAccess.Proofs.Freshness.GrantHistory
import TenantAccess.World

/-!
# Grants that principals share

A grant is kept under the identity of its principal and what was asked for.  Whether the principal is
a bootstrap administrator is told by its email, which is not in the key.  Where the answer depends on
that, principals with one identity find each other's grants.

* `OnlyBootstraps`: the requests for which it does.
* `MembershipTables.answer_eq_of_idpId`: any other answer is a matter of the key.
* `resolve_eq_resolveFresh_iff`: over tables that stay as they are, resolving through the cache
  differs from resolving without it exactly when a bootstrap administrator's grant is found.
* `resolve_ne_resolveFresh_renamed`: so it does for a principal whose email has changed.
-/

namespace TenantAccess

/-! ### Answers to one key -/

/-- Nothing stands in the way of what is asked for and nothing is stored that gives it, so that only
bootstrap administrators get it. -/
structure OnlyBootstraps (tables : MembershipTables) (idpId : IdpId)
    (requested : RequestedTenant) : Prop where
  siteOwned : tables.SiteOwned requested
  noIntent : tables.byIntent idpId requested = none
  noneApplies : tables.considered idpId requested = []
  tenant : requested.clientId ≠ none ∨ requested.intent ≠ .normal

namespace MembershipTables

variable {tables : MembershipTables} {admins : List String} {principal other : Principal}
  {requested : RequestedTenant}

/-- For such a request the answer is a matter of the bootstrap list. -/
theorem answer_of_onlyBootstraps (h : OnlyBootstraps tables principal.idpId requested) :
    (OnBootstrapList admins principal →
      tables.answer admins principal requested = .ok (tables.asBootstrap requested)) ∧
    (¬OnBootstrapList admins principal →
      tables.answer admins principal requested =
        .error (tables.refusal principal.idpId requested)) := by
  have htaken : tables.taken principal.idpId requested = [] := taken_eq_nil.mpr h.noneApplies
  have htenant : (requested.clientId.isSome || decide (requested.intent ≠ .normal)) = true := by
    rw [Bool.or_eq_true, Option.isSome_iff_ne_none, decide_eq_true_iff]
    exact h.tenant
  rw [tables.answer_of_siteOwned admins principal h.siteOwned, h.noIntent, ← isBootstrapAdmin_iff]
  unfold answerTaken bootstraps
  rw [htaken, htenant]
  rcases isBootstrapAdmin admins principal with _ | _ <;> simp

/-- Principals with one identity get the same answer, unless only bootstrap administrators get what
is asked for and one of them is one. -/
theorem answer_eq_of_idpId (hidp : other.idpId = principal.idpId)
    (h : OnlyBootstraps tables principal.idpId requested →
      (OnBootstrapList admins other ↔ OnBootstrapList admins principal)) :
    tables.answer admins other requested = tables.answer admins principal requested := by
  by_cases hsites : tables.SiteOwned requested
  · rw [tables.answer_of_siteOwned admins other hsites,
      tables.answer_of_siteOwned admins principal hsites, hidp]
    rcases hintent : tables.byIntent principal.idpId requested with _ | grant
    · unfold answerTaken
      rw [hidp]
      by_cases htaken : tables.taken principal.idpId requested = []
      · have hboots : bootstraps admins other requested =
            bootstraps admins principal requested := by
          unfold bootstraps
          rcases htenant : requested.clientId.isSome || decide (requested.intent ≠ .normal)
          · rfl
          · rw [Bool.or_eq_true, Option.isSome_iff_ne_none, decide_eq_true_iff] at htenant
            have honly := h ⟨hsites, hintent, taken_eq_nil.mp htaken, htenant⟩
            rw [← isBootstrapAdmin_iff, ← isBootstrapAdmin_iff, ← Bool.eq_iff_iff] at honly
            rw [honly]
        rw [hboots]
      · simp only [if_pos htaken]
    · rfl
  · rw [tables.answer_of_not_siteOwned admins other hsites,
      tables.answer_of_not_siteOwned admins principal hsites, hidp]

end MembershipTables

/-! ### Resolving through the cache -/

section shared

variable {ρ : Type} (rest : Platform ρ) (admins : List String)
  (s : AccessState (MembershipTables × ρ))

/-- The principal is no bootstrap administrator and asks for what only those get, and one with the
same identity who is has been given it, and it has been kept and not forgotten since. -/
structure FindsBootstrapGrant (calls : List ResolverCall) (principal : Principal)
    (requested : RequestedTenant) : Prop where
  keeping : s.grants.mode = .keeping
  unlisted : ¬OnBootstrapList admins principal
  onlyBootstraps : OnlyBootstraps s.world.1 principal.idpId requested
  given : ∃ earlier other later, calls = earlier ++ .resolve other requested :: later ∧
    other.idpId = principal.idpId ∧ OnBootstrapList admins other ∧
    ∀ made ∈ later, GrantKey.ofRequest principal.idpId requested ∉ made.forgotten

variable {s} {principal : Principal} {requested : RequestedTenant}

/-- Then the grant is found, although without it the request would be refused. -/
theorem FindsBootstrapGrant.resolve_eq {calls : List ResolverCall}
    (h : FindsBootstrapGrant admins s calls principal requested) :
    (∃ grant, ((MembershipTables.resolver rest admins).resolve principal requested
      (s.withoutGrants.afterAll (MembershipTables.resolver rest admins)
        (calls.map .call))).1 = .ok grant) ∧
    (MembershipTables.resolver rest admins).resolveFresh principal requested s =
      .error (s.world.1.refusal principal.idpId requested) := by
  obtain ⟨earlier, other, later, rfl, hidp, hlisted, hlater⟩ := h.given
  have honly := h.onlyBootstraps
  refine ⟨?_, ?_⟩
  · let t := s.withoutGrants.afterAll (MembershipTables.resolver rest admins) (earlier.map .call)
    have hsame : t.world.1.Same s.world.1 :=
      tables_afterAll_calls rest admins s.withoutGrants earlier
    have hmode : t.grants.mode = .keeping := by
      rw [mode_afterAll]
      exact h.keeping
    -- whether it was kept already or is answered now, the other principal is given a grant
    have hgiven : ∃ grant,
        ((MembershipTables.resolver rest admins).resolve other requested t).1 = .ok grant := by
      have hanswer : t.world.1.answer admins other requested = _ :=
        (hsame.answer_eq admins other requested).trans
          ((MembershipTables.answer_of_onlyBootstraps (by rwa [hidp])).1 hlisted)
      rcases resolve_cases rest admins other requested t with
        ⟨grant, -, hresolve⟩ | ⟨-, u, -, ⟨e, herror, -⟩ | ⟨grant, -, hresolve⟩⟩
      · exact ⟨grant, by rw [hresolve]⟩
      · rw [hanswer] at herror
        cases herror
      · exact ⟨grant, by rw [hresolve]⟩
    obtain ⟨grant, hgrant⟩ := hgiven
    have hfound := find_resolved rest admins hmode hgrant
    rw [hidp] at hfound
    have hremembered : ∀ event ∈ later.map GrantEvent.call,
        GrantKey.ofRequest principal.idpId requested ∉ event.forgotten :=
      List.forall_mem_map.mpr hlater
    have hkept := find_afterAll_of_remembered rest admins hfound hremembered
    refine ⟨grant, ?_⟩
    rw [List.map_append, List.map_cons, AccessState.afterAll_append, AccessState.afterAll_cons]
    show ((MembershipTables.resolver rest admins).resolve principal requested
      (((MembershipTables.resolver rest admins).resolve other requested t).2.afterAll _ _)).1 = _
    rw [AccessResolver.resolve_of_find _ _ _ hkept]
  · rw [resolveFresh_eq_answer]
    exact (MembershipTables.answer_of_onlyBootstraps honly).2 h.unlisted

/-- What is kept for a request was given to a principal with the same identity. -/
theorem exists_given {calls : List ResolverCall} {grant : EffectiveGrant}
    (h : (s.withoutGrants.afterAll (MembershipTables.resolver rest admins)
      (calls.map .call)).grants.find (.ofRequest principal.idpId requested) = .ok (some grant)) :
    ∃ earlier other later, calls = earlier ++ .resolve other requested :: later ∧
      other.idpId = principal.idpId ∧ s.world.1.answer admins other requested = .ok grant ∧
      ∀ made ∈ later, GrantKey.ofRequest principal.idpId requested ∉ made.forgotten := by
  obtain ⟨earlier, other, requested', later, hcalls, hkey, hanswer, hlater⟩ :=
    exists_resolved rest admins h
  obtain ⟨hidp, rfl⟩ := GrantKey.ofRequest_inj.mp hkey
  obtain ⟨earlier, _, rfl, rfl, hrest⟩ := List.map_eq_append_iff.mp hcalls
  obtain ⟨made, later, rfl, hmade, rfl⟩ := List.map_eq_cons_iff.mp hrest
  obtain rfl := GrantEvent.call.inj hmade
  rw [(tables_afterAll_calls rest admins s.withoutGrants earlier).answer_eq] at hanswer
  exact ⟨earlier, other, later, rfl, hidp.symm, hanswer,
    fun made hmade => hlater _ (List.mem_map_of_mem hmade)⟩

/-- Over tables that stay as they are, whatever was resolved, invalidated or has expired since
nothing was kept, a request is resolved as with nothing kept, unless the grant of a bootstrap
administrator with the same identity is found. -/
theorem resolve_eq_resolveFresh_iff (s : AccessState (MembershipTables × ρ))
    (calls : List ResolverCall) (principal : Principal) (requested : RequestedTenant) :
    ((MembershipTables.resolver rest admins).resolve principal requested
        (s.withoutGrants.afterAll (MembershipTables.resolver rest admins)
          (calls.map .call))).1 =
        (MembershipTables.resolver rest admins).resolveFresh principal requested s ↔
      ¬FindsBootstrapGrant admins s calls principal requested := by
  constructor
  · intro hsame hfinds
    obtain ⟨⟨grant, hgrant⟩, hrefused⟩ := hfinds.resolve_eq rest
    rw [hgrant, hrefused] at hsame
    cases hsame
  · intro hnot
    rw [resolveFresh_eq_answer]
    by_cases hkept : ∃ grant, (s.withoutGrants.afterAll (MembershipTables.resolver rest admins)
        (calls.map .call)).grants.find (.ofRequest principal.idpId requested) = .ok (some grant)
    · obtain ⟨grant, hgrant⟩ := hkept
      obtain ⟨earlier, other, later, hcalls, hidp, hanswer, hlater⟩ :=
        exists_given rest admins hgrant
      have hmode := GrantCache.mode_of_find hgrant
      rw [mode_afterAll] at hmode
      rw [AccessResolver.resolve_of_find _ _ _ hgrant, ← hanswer]
      apply MembershipTables.answer_eq_of_idpId hidp
      intro honly
      -- a grant was given, so the other principal is listed, and then so is this one
      have hother : OnBootstrapList admins other := by
        by_contra hunlisted
        rw [(MembershipTables.answer_of_onlyBootstraps (by rwa [hidp])).2 hunlisted] at hanswer
        cases hanswer
      have hlisted : OnBootstrapList admins principal := by
        by_contra hunlisted
        exact hnot ⟨hmode, hunlisted, honly, earlier, other, later, hcalls, hidp, hother, hlater⟩
      exact iff_of_true hother hlisted
    · rw [not_exists] at hkept
      rw [resolve_fst_of_not_find rest admins hkept, resolveFresh_eq_answer]
      exact (tables_afterAll_calls rest admins s.withoutGrants calls).answer_eq _ _ _

end shared

/-! ### A grant that outlives an email -/

/-- A principal whose identity stays while its email changes. -/
def renamed (email : String) : Principal := .unnamed ⟨"robin"⟩ email "robin"

/-- A client is asked for that nobody is a member of. -/
def unheldClient : RequestedTenant := ⟨some (.ofNat 1), none, .normal⟩

/-- Nothing is stored and nothing is kept. -/
def nothingStored : AccessState (MembershipTables × World) where
  world := ({}, { listener := default })

/-- The resolver with the one bootstrap administrator. -/
def rootResolver : AccessResolver (MembershipTables × World) :=
  MembershipTables.resolver World.inMemory ["root@example.org"]

/-- Where nothing is stored only bootstrap administrators get a client. -/
theorem onlyBootstraps_unheldClient (idpId : IdpId) : OnlyBootstraps {} idpId unheldClient where
  siteOwned _ _ _ hsite := by cases hsite
  noIntent := rfl
  noneApplies := rfl
  tenant := .inl (Option.some_ne_none _)

/-- After a bootstrap administrator has been given the client, a principal with the same identity and
another email finds everything in it granted, although it would be refused. -/
theorem resolve_ne_resolveFresh_renamed :
    let now := nothingStored.withoutGrants.afterAll rootResolver
      [.call (.resolve (renamed "root@example.org") unheldClient)]
    (rootResolver.resolve (renamed "robin@example.org") unheldClient now).1 =
        .ok (.ephemeral (some (.ofNat 1)) none) ∧
      rootResolver.resolveFresh (renamed "robin@example.org") unheldClient nothingStored =
        .error (.denied (.ofRequest .requestDenied
          "no membership matches the requested client or site" unheldClient)) ∧
      (rootResolver.resolve (renamed "robin@example.org") unheldClient now).1 ≠
        rootResolver.resolveFresh (renamed "robin@example.org") unheldClient nothingStored := by
  have hunlisted : ¬OnBootstrapList ["root@example.org"] (renamed "robin@example.org") := by
    have hemail : Text.lowercase (renamed "robin@example.org").email = "robin@example.org" := by
      cbv
    unfold OnBootstrapList
    rw [hemail]
    decide
  have hrefusal : MembershipTables.refusal {} (renamed "robin@example.org").idpId unheldClient =
      .denied (.ofRequest .requestDenied
        "no membership matches the requested client or site" unheldClient) := by cbv
  have hfresh : rootResolver.resolveFresh (renamed "robin@example.org") unheldClient
      nothingStored = .error (.denied (.ofRequest .requestDenied
        "no membership matches the requested client or site" unheldClient)) := by
    rw [← hrefusal]
    exact (resolveFresh_eq_answer _ _ _ _ _).trans
      ((MembershipTables.answer_of_onlyBootstraps (onlyBootstraps_unheldClient _)).2 hunlisted)
  have hkept : (rootResolver.resolve (renamed "robin@example.org") unheldClient
      (nothingStored.withoutGrants.afterAll rootResolver
        [.call (.resolve (renamed "root@example.org") unheldClient)])).1 =
      .ok (.ephemeral (some (.ofNat 1)) none) := by cbv
  refine ⟨hkept, hfresh, ?_⟩
  rw [hkept, hfresh]
  rintro ⟨⟩

end TenantAccess
