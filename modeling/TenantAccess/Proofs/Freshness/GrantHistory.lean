import TenantAccess.Proofs.Access.Coherence
import TenantAccess.Proofs.Freshness.Changes

/-!
# Histories of kept grants

The tables change, requests are resolved, and kept grants are forgotten or expire, in any order.

* `GrantEvent`, `AccessState.afterAll`: what happens, and the state that it leads to.
* `find_after_iff`: what is kept under a key after one event.
* `exists_resolved`: what is kept was resolved from the tables as they were at some moment, and has
  not been forgotten since.
* `find_afterAll_of_remembered`: what is kept stays until it is forgotten.
-/

namespace TenantAccess

variable {ρ : Type}

/-! ### What happens -/

/-- A use of the resolver or of its cache. -/
inductive ResolverCall where
  | resolve (principal : Principal) (requested : RequestedTenant)
  | invalidate (idpId : IdpId) (client : ClientId) (sites : List SiteId)
  /-- Entries of the cache expire. -/
  | expire (keys : List GrantKey)

/-- The grants kept under these keys are dropped. -/
def ResolverCall.forgotten : ResolverCall → List GrantKey
  | resolve _ _ => []
  | invalidate idpId client sites => GrantKey.variants idpId client sites
  | expire keys => keys

/-- What happens to the tables or to the resolver. -/
inductive GrantEvent where
  | change (change : TableChange)
  | call (made : ResolverCall)

/-- The grants kept under these keys are dropped. -/
def GrantEvent.forgotten : GrantEvent → List GrantKey
  | .change _ => []
  | .call made => made.forgotten

namespace AccessState

/-- The state without any kept grant. -/
def withoutGrants {σ : Type} (s : AccessState σ) : AccessState σ :=
  { s with grants := { s.grants with entries := {} } }

variable (resolver : AccessResolver (MembershipTables × ρ))

/-- The state after an event. -/
def after (s : AccessState (MembershipTables × ρ)) : GrantEvent → AccessState (MembershipTables × ρ)
  | .change change => s.changed change
  | .call (.resolve principal requested) => (resolver.resolve principal requested s).2
  | .call (.invalidate idpId client sites) => (AccessResolver.invalidate idpId client sites s).2
  | .call (.expire keys) => { s with grants := s.grants.eraseAll keys }

/-- The state after a list of events. -/
def afterAll (s : AccessState (MembershipTables × ρ)) (events : List GrantEvent) :
    AccessState (MembershipTables × ρ) :=
  events.foldl (after resolver) s

/-- Events in two lists happen one list after the other. -/
theorem afterAll_append (s : AccessState (MembershipTables × ρ)) (earlier later : List GrantEvent) :
    s.afterAll resolver (earlier ++ later) =
      (s.afterAll resolver earlier).afterAll resolver later :=
  List.foldl_append

/-- The last event happens after all others. -/
theorem afterAll_concat (s : AccessState (MembershipTables × ρ)) (events : List GrantEvent)
    (event : GrantEvent) :
    s.afterAll resolver (events ++ [event]) = (s.afterAll resolver events).after resolver event :=
  List.foldl_concat _ _ _ _

/-- The first event happens before all others. -/
theorem afterAll_cons (s : AccessState (MembershipTables × ρ)) (event : GrantEvent)
    (events : List GrantEvent) :
    s.afterAll resolver (event :: events) = (s.after resolver event).afterAll resolver events := rfl

end AccessState

/-! ### What one event does -/

section event

variable (rest : Platform ρ) (admins : List String) {s : AccessState (MembershipTables × ρ)}
  {key : GrantKey} {grant : EffectiveGrant}

/-- Resolving keeps what was kept, and keeps the grant that the tables answer if nothing was. -/
theorem find_resolve_iff (principal : Principal) (requested : RequestedTenant) :
    ((MembershipTables.resolver rest admins).resolve principal requested s).2.grants.find key =
        .ok (some grant) ↔
      s.grants.find key = .ok (some grant) ∨
      s.grants.mode = .keeping ∧ (∀ kept, s.grants.find key ≠ .ok (some kept)) ∧
        key = .ofRequest principal.idpId requested ∧
        s.world.1.answer admins principal requested = .ok grant := by
  rcases resolve_cases rest admins principal requested s with
    ⟨held, hheld, hresolve⟩ | ⟨hnone, t, hst, ⟨e, hanswer, hresolve⟩ | ⟨held, hanswer, hresolve⟩⟩
  · rw [hresolve, or_iff_left]
    rintro ⟨-, hnone, rfl, -⟩
    exact hnone held hheld
  · rw [hresolve, hst.grants, hanswer]
    simp
  · rw [hresolve, GrantCache.find_insert_iff, hanswer]
    by_cases hkey : key = .ofRequest principal.idpId requested
    · subst hkey
      simp [hnone, eq_comm]
    · simp [hkey]

/-- A cache that keeps grants has the one that has just been resolved. -/
theorem find_resolved {principal : Principal} {requested : RequestedTenant}
    (hmode : s.grants.mode = .keeping)
    (h : ((MembershipTables.resolver rest admins).resolve principal requested s).1 = .ok grant) :
    ((MembershipTables.resolver rest admins).resolve principal requested s).2.grants.find
      (.ofRequest principal.idpId requested) = .ok (some grant) := by
  rcases resolve_cases rest admins principal requested s with
    ⟨held, hheld, hresolve⟩ | ⟨-, t, -, ⟨e, -, hresolve⟩ | ⟨held, -, hresolve⟩⟩
  · rw [hresolve] at h ⊢
    obtain rfl := Except.ok.inj h
    exact hheld
  · rw [hresolve] at h
    cases h
  · rw [hresolve] at h ⊢
    obtain rfl := Except.ok.inj h
    exact GrantCache.find_insert_iff.mpr (.inl ⟨rfl, hmode, rfl⟩)

/-- A grant is kept under a key after an event exactly when it was kept before and is not forgotten,
or when nothing was kept and it is what the tables answer to a request with this key. -/
theorem find_after_iff (event : GrantEvent) :
    (s.after (MembershipTables.resolver rest admins) event).grants.find key = .ok (some grant) ↔
      key ∉ event.forgotten ∧ s.grants.find key = .ok (some grant) ∨
      s.grants.mode = .keeping ∧ (∀ kept, s.grants.find key ≠ .ok (some kept)) ∧
        ∃ principal requested, event = .call (.resolve principal requested) ∧
          key = .ofRequest principal.idpId requested ∧
          s.world.1.answer admins principal requested = .ok grant := by
  unfold GrantEvent.forgotten ResolverCall.forgotten
  rcases event with change | ⟨principal, requested⟩ | ⟨idpId, client, sites⟩ | keys
  case change => simp [AccessState.after, AccessState.changed]
  case call.resolve =>
    show ((MembershipTables.resolver rest admins).resolve principal requested s).2.grants.find key =
      .ok (some grant) ↔ _
    rw [find_resolve_iff]
    simp
  case call.invalidate =>
    show (s.grants.eraseAll (GrantKey.variants idpId client sites)).find key = _ ↔ _
    simp [GrantCache.find_eraseAll]
  case call.expire =>
    show (s.grants.eraseAll keys).find key = _ ↔ _
    simp [GrantCache.find_eraseAll]

/-- No event changes how the cache works. -/
theorem mode_after (event : GrantEvent) :
    (s.after (MembershipTables.resolver rest admins) event).grants.mode = s.grants.mode := by
  rcases event with change | ⟨principal, requested⟩ | ⟨idpId, client, sites⟩ | keys
  case change => rfl
  case call.resolve =>
    show ((MembershipTables.resolver rest admins).resolve principal requested s).2.grants.mode = _
    rcases resolve_cases rest admins principal requested s with
      ⟨held, -, hresolve⟩ | ⟨-, t, hst, ⟨e, -, hresolve⟩ | ⟨held, -, hresolve⟩⟩
    · rw [hresolve]
    · rw [hresolve, hst.grants]
    · rw [hresolve, GrantCache.insert_mode]
  case call.invalidate => exact GrantCache.eraseAll_mode _ _
  case call.expire => exact GrantCache.eraseAll_mode _ _

/-- No use of the resolver changes what the tables hold. -/
theorem tables_after_call (made : ResolverCall) :
    (s.after (MembershipTables.resolver rest admins) (.call made)).world.1.Same s.world.1 := by
  rcases made with ⟨principal, requested⟩ | ⟨idpId, client, sites⟩ | keys
  case resolve =>
    show ((MembershipTables.resolver rest admins).resolve principal requested s).2.world.1.Same _
    rcases resolve_cases rest admins principal requested s with
      ⟨held, -, hresolve⟩ | ⟨-, t, hst, ⟨e, -, hresolve⟩ | ⟨held, -, hresolve⟩⟩
    · rw [hresolve]
      exact .refl _
    · rw [hresolve]
      exact hst.tables
    · rw [hresolve]
      exact hst.tables
  case invalidate => exact .refl _
  case expire => exact .refl _

end event

/-! ### What many events do -/

section events

variable (rest : Platform ρ) (admins : List String) {s : AccessState (MembershipTables × ρ)}
  {key : GrantKey} {grant : EffectiveGrant}

/-- No history changes how the cache works. -/
theorem mode_afterAll (s : AccessState (MembershipTables × ρ)) (events : List GrantEvent) :
    (s.afterAll (MembershipTables.resolver rest admins) events).grants.mode = s.grants.mode := by
  induction events generalizing s with
  | nil => rfl
  | cons event events ih => rw [AccessState.afterAll_cons, ih, mode_after]

/-- However the resolver is used, the tables hold what they held. -/
theorem tables_afterAll_calls (s : AccessState (MembershipTables × ρ))
    (calls : List ResolverCall) :
    (s.afterAll (MembershipTables.resolver rest admins) (calls.map .call)).world.1.Same
      s.world.1 := by
  induction calls generalizing s with
  | nil => exact .refl _
  | cons made calls ih => exact (ih _).trans (tables_after_call rest admins made)

/-- What is kept stays until it is forgotten. -/
theorem find_afterAll_of_remembered {events : List GrantEvent}
    (h : s.grants.find key = .ok (some grant)) (hkept : ∀ event ∈ events, key ∉ event.forgotten) :
    (s.afterAll (MembershipTables.resolver rest admins) events).grants.find key =
      .ok (some grant) := by
  induction events generalizing s with
  | nil => exact h
  | cons event events ih =>
    obtain ⟨hevent, hevents⟩ := List.forall_mem_cons.mp hkept
    exact ih ((find_after_iff rest admins event).mpr (.inl ⟨hevent, h⟩)) hevents

/-- What is kept, when nothing was at first, is what the tables answered at some moment to a request
with its key, and it has not been forgotten since. -/
theorem exists_resolved {events : List GrantEvent}
    (h : (s.withoutGrants.afterAll (MembershipTables.resolver rest admins) events).grants.find
      key = .ok (some grant)) :
    ∃ earlier principal requested later,
      events = earlier ++ .call (.resolve principal requested) :: later ∧
        key = .ofRequest principal.idpId requested ∧
        (s.withoutGrants.afterAll (MembershipTables.resolver rest admins) earlier).world.1.answer
          admins principal requested = .ok grant ∧
        ∀ event ∈ later, key ∉ event.forgotten := by
  induction events using List.reverseRecOn with
  | nil => exact absurd h (GrantCache.find_of_empty rfl)
  | append_singleton events event ih =>
    rw [AccessState.afterAll_concat, find_after_iff] at h
    rcases h with ⟨hevent, hbefore⟩ | ⟨-, -, principal, requested, rfl, hkey, hanswer⟩
    · obtain ⟨earlier, principal, requested, later, rfl, hkey, hanswer, hlater⟩ := ih hbefore
      refine ⟨earlier, principal, requested, later ++ [event], by simp, hkey, hanswer, ?_⟩
      intro other hother
      rcases List.mem_append.mp hother with hother | hother
      · exact hlater other hother
      · rw [List.mem_singleton.mp hother]
        exact hevent
    · exact ⟨events, principal, requested, [], rfl, hkey, hanswer, by simp⟩

end events
end TenantAccess
