import TenantAccess.Proofs.Isolation.SiteCaches
import TenantAccess.Proofs.Sessions.Extent

/-!
# Requests that share their caches

Requests of any principals arrive, are resolved, and access data in units of work that carry the
grants that were resolved.  They are interleaved in any way: at any point the next operation may be
one of any request that was admitted, or a new one may arrive, or entries of the caches may expire.
All of them share the resolver, its cache and the caches of sites.

* `Requests`, `Requests.run`: what arrives and is done, and what becomes of it.
* `SessionLog.withTables`: a log of the sessions beside tables in memory.
* `Requests.run_ran`: statements come with the settings of their units of work.
-/

namespace TenantAccess

/-! ### Requests -/

/-- A request that was admitted: who asked for which tenant, and the grant that was resolved. -/
structure Admission where
  principal : Principal
  requested : RequestedTenant
  metadata : RequestMetadata
  grant : EffectiveGrant

/-- The unit of work of the request, with the grant attached. -/
def Admission.unit (admission : Admission) : UnitOfWork :=
  { UnitOfWork.interactive admission.principal admission.requested admission.metadata with
    grant := some admission.grant }

/-- What arrives and is done. Admitted requests are numbered in their order; what comes next depends
on what was resolved and on the replies to the operations. -/
inductive Requests where
  | done
  | arrive (principal : Principal) (requested : RequestedTenant) (metadata : RequestMetadata)
    (next : Except AccessError EffectiveGrant → Requests)
  /-- An operation on data in the unit of work of an admitted request. -/
  | act (number : Nat) (request : DataCall) (next : Reply → Requests)
  /-- Entries of the caches expire. -/
  | expire (keys : List GrantKey) (clients : List ClientId) (sites : List SiteId)
    (next : Requests)

/-- How far the requests have come. -/
structure Service (σ : Type) where
  course : Course σ := {}
  admitted : List Admission := []

section run

variable {σ : Type}

/-- The service after a request was resolved: with a grant it is admitted. -/
def Service.afterResolving (service : Service σ) (principal : Principal)
    (requested : RequestedTenant) (metadata : RequestMetadata)
    (result : Except AccessError EffectiveGrant) : Service σ :=
  match result with
  | .error _ => service
  | .ok grant =>
    { service with admitted := service.admitted ++ [⟨principal, requested, metadata, grant⟩] }

/-- The state after entries of the caches have expired. -/
def AccessState.expire (s : AccessState σ) (keys : List GrantKey) (clients : List ClientId)
    (sites : List SiteId) : AccessState σ :=
  { s with grants := s.grants.eraseAll keys, sites := s.sites.expire clients sites }

/-- The course inside the unit of work of an admitted request. -/
def Service.inside (service : Service σ) (admission : Admission) : Course σ :=
  { service.course with layers := .work admission.unit :: service.course.layers }

/-- Carry an operation out in the unit of work of an admitted request. -/
def Service.act (platform : Platform σ) (service : Service σ) (admission : Admission)
    (request : DataCall) : Work σ (Reply × Service σ) := do
  let (answer, course) ← (Frame.unit admission.unit).enclose platform
    (request.perform platform (service.inside admission))
  return (answer, { service with course := { course with layers := course.layers.tail } })

/-- Serve requests. -/
def Requests.run (resolver : AccessResolver σ) : Requests → Service σ → Work σ (Service σ)
  | done, service => pure service
  | arrive principal requested metadata next, service => do
    let result ← resolver.resolve principal requested
    (next result).run resolver (service.afterResolving principal requested metadata result)
  | act number request next, service =>
    match service.admitted[number]? with
    | none => (next none).run resolver service
    | some admission => do
      let (answer, service) ← service.act resolver.platform admission request
      (next answer).run resolver service
  | expire keys clients sites next, service => do
    modify fun s => s.expire keys clients sites
    next.run resolver service

variable (resolver : AccessResolver σ) (service : Service σ) (s : AccessState σ)

/-- The operation begins in the frame of the unit of work, and what was around that is around again
afterwards. -/
theorem Service.act_apply (platform : Platform σ) (admission : Admission) (request : DataCall) :
    service.act platform admission request s =
      let frame : Frame := .unit admission.unit
      let inner := request.perform platform (service.inside admission) (frame.entered platform s)
      ((inner.1.1,
          { service with course := { inner.1.2 with layers := inner.1.2.layers.tail } }),
        { inner.2 with around := frame.left s.around inner.2.around }) := rfl

/-- A request that arrives is resolved, and the rest goes on with what was resolved. -/
theorem Requests.run_arrive (principal : Principal) (requested : RequestedTenant)
    (metadata : RequestMetadata) (next : Except AccessError EffectiveGrant → Requests) :
    (arrive principal requested metadata next).run resolver service s =
      let resolved := resolver.resolve principal requested s
      (next resolved.1).run resolver
        (service.afterResolving principal requested metadata resolved.1) resolved.2 := rfl

/-- An operation of an admitted request is carried out, and the rest goes on with its reply. -/
theorem Requests.run_act (number : Nat) (request : DataCall) (next : Reply → Requests)
    {admission : Admission} (h : service.admitted[number]? = some admission) :
    (act number request next).run resolver service s =
      let acted := service.act resolver.platform admission request s
      (next acted.1.1).run resolver acted.1.2 acted.2 := by
  rw [Requests.run, h]
  rfl

/-- An operation of a request that was not admitted has no reply and does nothing. -/
theorem Requests.run_act_none (number : Nat) (request : DataCall) (next : Reply → Requests)
    (h : service.admitted[number]? = none) :
    (act number request next).run resolver service s = (next none).run resolver service s := by
  rw [Requests.run, h]

/-- Entries expire, and the rest goes on without them. -/
theorem Requests.run_expire (keys : List GrantKey) (clients : List ClientId)
    (sites : List SiteId) (next : Requests) :
    (expire keys clients sites next).run resolver service s =
      next.run resolver service (s.expire keys clients sites) := rfl

/-- Admitting a request touches no transaction. -/
theorem Service.course_afterResolving (service : Service σ) (principal : Principal)
    (requested : RequestedTenant) (metadata : RequestMetadata)
    (result : Except AccessError EffectiveGrant) :
    (service.afterResolving principal requested metadata result).course = service.course := by
  unfold afterResolving
  rcases result with e | grant <;> rfl

end run

/-! ### Logs beside tables -/

section log

variable {ρ : Type} {rest : Platform ρ}

/-- What a computation beside the tables gives, it gives by itself. -/
theorem eq_of_beside {α : Type} {m : StateM ρ α} {world world' : MembershipTables × ρ} {a : α}
    (h : ((m world.2).1, (world.1, (m world.2).2)) = (a, world')) :
    m world.2 = (a, world'.2) := by
  obtain ⟨rfl, rfl⟩ := Prod.mk.inj h
  rfl

/-- The log of the sessions beside the tables. -/
def SessionLog.withTables (log : SessionLog rest) : SessionLog rest.withTables where
  events world := log.events world.2
  begin_ok h := log.begin_ok (eq_of_beside h)
  begin_error h := log.begin_error (eq_of_beside h)
  call_ok h := log.call_ok (eq_of_beside h)
  call_error h := log.call_error (eq_of_beside h)
  abandon := log.abandon
  sitesFor := rfl
  audit := log.audit
  emit := log.emit

/-- What only writes to the audit trail is no event of a session. -/
theorem Undisturbed.silent (log : SessionLog rest) {s t : AccessState (MembershipTables × ρ)}
    (h : Undisturbed rest s t) : Silent log.withTables s t where
  around := h.around
  events := by
    have hworlds : ∀ world, Relation.ReflTransGen
        (fun before after => ∃ entry, after = rest.audit entry before) s.world.2 world →
        log.events world = log.events s.world.2 := by
      intro world haudits
      induction haudits with
      | refl => rfl
      | tail _ hlast ih =>
        obtain ⟨entry, rfl⟩ := hlast
        rw [log.audit, ih]
    exact hworlds t.world.2 h.other

/-! ### Serving requests -/

/-- Resolving is no event of a session. -/
theorem resolve_silent (log : SessionLog rest) (admins : List String) (principal : Principal)
    (requested : RequestedTenant) (s : AccessState (MembershipTables × ρ)) :
    Silent log.withTables s
      ((MembershipTables.resolver rest admins).resolve principal requested s).2 := by
  obtain ⟨t, hst, hresolved⟩ := resolve_elsewhere rest admins principal requested s
  have hsilent := hst.silent log
  rw [hresolved]
  exact ⟨hsilent.around, hsilent.events⟩

/-- An operation in the unit of work of a request. -/
theorem Service.act_ran (log : SessionLog rest) (service : Service (MembershipTables × ρ))
    (admission : Admission) (request : DataCall) {s : AccessState (MembershipTables × ρ)}
    (h : s.around = Layer.surroundings service.course.layers) :
    Ran log.withTables service.course s
      (service.act rest.withTables admission request s).1.2.course
      (service.act rest.withTables admission request s).2 := by
  let frame : Frame := .unit admission.unit
  have hentered := frame.entered_around rest.withTables h
  have hran : Ran log.withTables (service.inside admission) _ _ _ :=
    .perform log.withTables request hentered
  rw [Service.act_apply]
  exact .framed frame h (frame.entered_events log.withTables s) hran

/-- Whatever requests are served, their statements come with the settings of their units of work. -/
theorem Requests.run_ran (log : SessionLog rest) (admins : List String) (requests : Requests)
    {service : Service (MembershipTables × ρ)} {s : AccessState (MembershipTables × ρ)}
    (h : s.around = Layer.surroundings service.course.layers) :
    Ran log.withTables service.course s
      (requests.run (MembershipTables.resolver rest admins) service s).1.course
      (requests.run (MembershipTables.resolver rest admins) service s).2 := by
  induction requests generalizing service s with
  | done => exact .refl h
  | arrive principal requested metadata next ih =>
    have hsilent := resolve_silent log admins principal requested s
    rw [Requests.run_arrive]
    dsimp only
    generalize (MembershipTables.resolver rest admins).resolve principal requested s = resolved
      at hsilent ⊢
    let admitting := service.afterResolving principal requested metadata resolved.1
    have hcourse : admitting.course = service.course := service.course_afterResolving _ _ _ _
    have hresolved : Ran log.withTables service.course s admitting.course resolved.2 :=
      .of_quiet h hsilent.quiet (by rw [hcourse]) (by rw [hcourse])
    exact hresolved.trans (ih resolved.1 hresolved.around)
  | act number request next ih =>
    rcases hadmission : service.admitted[number]? with _ | admission
    · rw [Requests.run_act_none _ _ _ _ _ _ hadmission]
      exact ih none h
    · rw [Requests.run_act _ _ _ _ _ _ hadmission]
      have hact : Ran log.withTables service.course s _ _ :=
        service.act_ran log admission request h
      exact hact.trans (ih _ hact.around)
  | expire keys clients sites next ih =>
    rw [Requests.run_expire]
    have hexpired : Ran log.withTables service.course s service.course
        (s.expire keys clients sites) := .of_quiet h (Silent.quiet ⟨rfl, rfl⟩) rfl rfl
    exact hexpired.trans (ih hexpired.around)

end log

end TenantAccess
