import TenantAccess.Proofs.Isolation.AllowedSites
import TenantAccess.Proofs.Isolation.Requests
import TenantAccess.Proofs.Sessions.Announced

/-!
# Sites are isolated

Requests of any principals in any clients share a grant cache and the caches of sites.  As long as
the tables stay as they are, none of them is told about other sites than those its grant allows.

* `Serving`: the store and both caches agree with the tables, and the grant around is within them.
* `Service.Confined`: every statement was tried in the unit of work of an admitted request, when that
  was so.
* `Requests.run_serving`: serving requests preserves both.
* `sites_isolated`: so each statement comes with the sites that the grant of its request allows.
-/

namespace TenantAccess

variable {ρ : Type} {rest : Platform ρ} {tables : MembershipTables}

/-! ### The state while requests are served -/

/-- The store holds what the tables hold, what is kept is right about them, and the grant of the unit
of work around is within them. -/
structure Serving (tables : MembershipTables) (s : AccessState (MembershipTables × ρ)) : Prop where
  sites : SitesServed tables s
  grants : s.grants.Within tables
  work : ∀ unit grant, s.around.work = some unit → unit.grant = some grant → grant.Within tables

/-- Data access preserves it: the sites that it finds out are those of the grant around, and the rest
is beside the tables. -/
theorem serving_keptByAccess (rest : Platform ρ) (tables : MembershipTables) :
    KeptByAccess rest.withTables (Serving tables) where
  policy := by
    intro s hs
    rcases current_after rest.withTables s with hsame | ⟨unit, grant, hwork, hgrant, hafter⟩
    · rw [hsame]
      exact hs
    · have hreads := visibleTo_reads rest.withTables grant s
      obtain ⟨t, hvisible, hserved⟩ :=
        visibleTo_eq_visible rest hs.sites (hs.work unit grant hwork hgrant)
      rw [hafter]
      rw [hvisible] at hreads ⊢
      refine ⟨hserved, ?_, ?_⟩
      · rw [hreads.grants]
        exact hs.grants
      · rw [hreads.around]
        exact hs.work
  begin s hs := ⟨⟨hs.sites.stored, hs.sites.kept⟩, hs.grants, hs.work⟩
  call _ _ s hs := ⟨⟨hs.sites.stored, hs.sites.kept⟩, hs.grants, hs.work⟩
  abandon _ s hs := ⟨⟨hs.sites.stored, hs.sites.kept⟩, hs.grants, hs.work⟩
  emit _ s hs := ⟨⟨hs.sites.stored, hs.sites.kept⟩, hs.grants, hs.work⟩

namespace Serving

variable {s : AccessState (MembershipTables × ρ)}

/-- Resolving a request preserves it. -/
theorem resolved (h : Serving tables s) (admins : List String) (principal : Principal)
    (requested : RequestedTenant) :
    Serving tables ((MembershipTables.resolver rest admins).resolve principal requested s).2 := by
  obtain ⟨t, hst, hresolved⟩ := resolve_elsewhere rest admins principal requested s
  have hgrants := (resolve_within rest admins principal requested h.sites.stored h.grants).2
  have hstored : t.world.1.Same tables := hst.tables.trans h.sites.stored
  rw [hresolved]
  refine ⟨⟨hstored, ?_⟩, hgrants, ?_⟩
  · show t.sites.Faithful tables
    rw [hst.sites]
    exact h.sites.kept
  · show ∀ unit grant, t.around.work = some unit → _
    rw [hst.around]
    exact h.work

/-- Entering the unit of work of a request whose grant is within the tables preserves it. -/
theorem entered (h : Serving tables s) {admission : Admission}
    (hwithin : admission.grant.Within tables) :
    Serving tables ((Frame.unit admission.unit).entered rest.withTables s) where
  sites := ⟨h.sites.stored, h.sites.kept⟩
  grants := h.grants
  work := by
    intro unit grant hwork hgrant
    obtain rfl := Option.some.inj hwork
    obtain rfl := Option.some.inj hgrant
    exact hwithin

/-- So does the expiry of entries. -/
theorem expired (h : Serving tables s) (keys : List GrantKey) (clients : List ClientId)
    (sites : List SiteId) : Serving tables (s.expire keys clients sites) where
  sites := ⟨h.sites.stored, h.sites.kept.expire clients sites⟩
  grants := h.grants.eraseAll keys
  work := h.work

end Serving

/-! ### What requests come to -/

/-- The statement was tried in the unit of work of an admitted request, with everything as the tables
say. -/
structure Attempt.Confined (rest : Platform ρ) (tables : MembershipTables)
    (admitted : List Admission) (attempt : Attempt (MembershipTables × ρ)) : Prop where
  admission : ∃ admission ∈ admitted, attempt.layers = [.work admission.unit]
  serving : Serving tables attempt.before
  around : attempt.before.around = Layer.surroundings attempt.layers
  arose : attempt.Arose rest.withTables

/-- Every admitted request has a grant within the tables, and every statement was tried in the unit
of work of one of them. -/
structure Service.Confined (rest : Platform ρ) (tables : MembershipTables)
    (service : Service (MembershipTables × ρ)) : Prop where
  layers : service.course.layers = []
  admitted : ∀ admission ∈ service.admitted, admission.grant.Within tables
  attempts : ∀ attempt ∈ service.course.attempts, attempt.Confined rest tables service.admitted

/-- An attempt stays confined when more requests are admitted. -/
theorem Attempt.Confined.mono {admitted admitted' : List Admission}
    {attempt : Attempt (MembershipTables × ρ)} (h : attempt.Confined rest tables admitted)
    (hgrown : ∀ admission ∈ admitted, admission ∈ admitted') :
    attempt.Confined rest tables admitted' := by
  obtain ⟨admission, hmem, hlayers⟩ := h.admission
  exact { h with admission := ⟨admission, hgrown admission hmem, hlayers⟩ }

namespace Service.Confined

variable {service : Service (MembershipTables × ρ)} {s : AccessState (MembershipTables × ρ)}

/-- Admitting a request with a grant within the tables preserves it. -/
theorem afterResolving (h : service.Confined rest tables) (principal : Principal)
    (requested : RequestedTenant) (metadata : RequestMetadata)
    {result : Except AccessError EffectiveGrant}
    (hwithin : ∀ grant, result = .ok grant → grant.Within tables) :
    (service.afterResolving principal requested metadata result).Confined rest tables := by
  rcases result with e | grant
  · exact h
  · refine ⟨h.layers, ?_, ?_⟩
    · intro admission hadmission
      rcases List.mem_append.mp hadmission with hbefore | hnew
      · exact h.admitted admission hbefore
      · obtain rfl := List.mem_singleton.mp hnew
        exact hwithin grant rfl
    · intro attempt hattempt
      apply (h.attempts attempt hattempt).mono
      intro admission hadmission
      exact List.mem_append_left _ hadmission

/-- Inside the unit of work of an admitted request everything is as the tables say, and statements
are tried nowhere else. -/
theorem act (h : service.Confined rest tables) (hs : Serving tables s) (haround : s.around = {})
    {admission : Admission} (hadmission : admission ∈ service.admitted) (request : DataCall) :
    (service.act rest.withTables admission request s).1.2.Confined rest tables ∧
      Serving tables (service.act rest.withTables admission request s).2 ∧
      (service.act rest.withTables admission request s).2.around = {} := by
  let frame : Frame := .unit admission.unit
  let entered := frame.entered rest.withTables s
  have hentered : Serving tables entered := hs.entered (h.admitted admission hadmission)
  have hlayers : (service.inside admission).layers = [.work admission.unit] := by
    unfold Service.inside
    rw [h.layers]
  have hsurroundings : entered.around = Layer.surroundings [.work admission.unit] := by
    have hbare : s.around = Layer.surroundings [] := haround
    exact frame.entered_around rest.withTables hbare
  have hkept := (serving_keptByAccess rest tables).and
    (around_keptByAccess rest.withTables entered.around)
  have hafter := hkept.perform (service.inside admission) request ⟨hentered, rfl⟩
  obtain ⟨hsame, tried, htried, hhere⟩ :=
    hkept.tried (service.inside admission) request ⟨hentered, rfl⟩
  have houtside : frame.left s.around (request.perform rest.withTables (service.inside admission)
      entered).2.around = {} := by
    rw [hafter.2, hsurroundings, haround]
    rfl
  rw [Service.act_apply]
  refine ⟨⟨?_, h.admitted, ?_⟩, ?_, houtside⟩
  · dsimp only
    rw [hsame, hlayers]
    rfl
  · intro attempt hattempt
    rw [htried] at hattempt
    rcases List.mem_append.mp hattempt with hbefore | hnew
    · exact h.attempts attempt hbefore
    · obtain ⟨hframes, ⟨hserving, hmoment⟩, harose⟩ := hhere attempt hnew
      rw [hlayers] at hframes
      refine ⟨⟨admission, hadmission, hframes⟩, hserving, ?_, harose⟩
      rw [hmoment, hframes]
      exact hsurroundings
  · refine ⟨⟨hafter.1.sites.stored, hafter.1.sites.kept⟩, hafter.1.grants, ?_⟩
    intro unit grant hwork
    have hnone := congrArg Surroundings.work houtside
    cases hnone.symm.trans hwork

end Service.Confined

/-- Whatever requests are served, everything stays as the tables say, and statements are tried in
units of work of admitted requests only. -/
theorem Requests.run_serving (admins : List String) (requests : Requests)
    {service : Service (MembershipTables × ρ)} {s : AccessState (MembershipTables × ρ)}
    (h : service.Confined rest tables) (hs : Serving tables s) (haround : s.around = {}) :
    (requests.run (MembershipTables.resolver rest admins) service s).1.Confined rest tables ∧
      Serving tables (requests.run (MembershipTables.resolver rest admins) service s).2 := by
  induction requests generalizing service s with
  | done => exact ⟨h, hs⟩
  | arrive principal requested metadata next ih =>
    obtain ⟨t, hst, hresolved⟩ := resolve_elsewhere rest admins principal requested s
    have hwithin := (resolve_within rest admins principal requested hs.sites.stored hs.grants).1
    rw [Requests.run_arrive]
    refine ih _ (h.afterResolving principal requested metadata hwithin)
      (hs.resolved admins principal requested) ?_
    rw [hresolved]
    exact hst.around.trans haround
  | act number request next ih =>
    rcases hadmission : service.admitted[number]? with _ | admission
    · rw [Requests.run_act_none _ _ _ _ _ _ hadmission]
      exact ih none h hs haround
    · rw [Requests.run_act _ _ _ _ _ _ hadmission]
      obtain ⟨hconfined, hserving, houtside⟩ :=
        h.act hs haround (List.mem_of_getElem? hadmission) request
      exact ih _ hconfined hserving houtside
  | expire keys clients sites next ih =>
    rw [Requests.run_expire]
    exact ih h (hs.expired keys clients sites) haround

/-! ### Each statement -/

namespace Attempt.Confined

variable {admitted : List Admission} {attempt : Attempt (MembershipTables × ρ)}
  {admission : Admission} (h : attempt.Confined rest tables admitted)
  (hkeyed : tables.SitesKeyed) (hlayers : attempt.layers = [.work admission.unit])
  (hwithin : admission.grant.Within tables)

include h hlayers hwithin in
/-- The settings that a statement needs are those of the sites that the tables make visible. -/
theorem required_eq :
    Layer.required rest.withTables attempt.layers attempt.before =
      match tables.visible admission.grant with
      | .ok sites => .ok (Layer.rowPolicyInputs admission.grant sites)
      | .error e => .error (.sites e) := by
  obtain ⟨t, hvisible, -⟩ := visibleTo_eq_visible rest h.serving.sites hwithin
  rw [hlayers]
  show (match (SiteTrees.visibleTo rest.withTables admission.grant attempt.before).1 with
    | .ok sites => .ok (Layer.rowPolicyInputs admission.grant sites)
    | .error e => .error (.sites e) : Except DataAccessError (List Setting)) = _
  rw [hvisible]

include h hkeyed hlayers hwithin

/-- Before a statement its session is told the sites that the grant allows. -/
theorem tells {log : SessionLog rest} {session : SessionId} {whole : List SessionEvent}
    {sent : Statement} (hexplains : attempt.Explains log.withTables session whole sent) :
    ∃ value, settingAfter "app.allowed_site_ids" whole = some value ∧
      tables.Tells admission.grant value := by
  obtain ⟨values, hvalues, hwhole⟩ := hexplains.settings
  rw [h.required_eq hlayers hwithin] at hvalues
  rcases hvisible : tables.visible admission.grant with e | sites
  · rw [hvisible] at hvalues
    cases hvalues
  · rw [hvisible] at hvalues
    obtain rfl := Except.ok.inj hvalues
    refine ⟨sites.setting, ?_, MembershipTables.tells_of_visible hkeyed hwithin hvisible⟩
    rw [hwhole]
    apply settingAfter_made
    simp [Layer.rowPolicyInputs]

/-- Where the sites of the client have a cycle, a statement that would need their tree is stopped. -/
theorem stopped (log : SessionLog rest) (htangled : tables.Tangled admission.grant) :
    ∃ client cyclic, admission.grant.clientId = some client ∧
      attempt.Stopped log.withTables (.sites (.hierarchy client (.cycle cyclic))) := by
  obtain ⟨client, cyclic, hclient, -, hvisible⟩ :=
    MembershipTables.visible_of_tangled hkeyed htangled
  have hrequired := h.required_eq hlayers hwithin
  rw [hvisible] at hrequired
  exact ⟨client, cyclic, hclient, h.arose.stopped log.withTables h.around hrequired⟩

end Attempt.Confined

/-- Whatever principals ask for which tenants, and in whatever order their requests are served over
tables that stay as they are: in the log of each session every new statement comes right after
settings that tell exactly the sites that the grant of its request allows, all of them from the scope
CLIENT up and otherwise stored sites of the client of the grant. In a client with a cycle a statement
under a grant for a site and what is below it fails for that reason, and its session is asked for
nothing. -/
theorem sites_isolated (log : SessionLog rest) (admins : List String) (config : AccessConfig)
    (tables : MembershipTables) (hbuilt : tables.Built) (world : ρ) (requests : Requests) :
    let start : AccessState (MembershipTables × ρ) := .initial config (tables, world)
    let served := requests.run (MembershipTables.resolver rest admins) {} start
    (∀ session whole sent later,
      log.events served.2.world.2 session = whole ++ .called (.execute sent) :: later →
        log.events world session <+: whole →
        ∃ attempt ∈ served.1.course.attempts, ∃ admission ∈ served.1.admitted,
          attempt.Explains log.withTables session whole sent ∧
            attempt.layers = [.work admission.unit] ∧
            ∃ value, settingAfter "app.allowed_site_ids" whole = some value ∧
              tables.Tells admission.grant value) ∧
      ∀ attempt ∈ served.1.course.attempts, ∃ admission ∈ served.1.admitted,
        attempt.layers = [.work admission.unit] ∧
          (tables.Tangled admission.grant → ∃ client cyclic,
            admission.grant.clientId = some client ∧
              attempt.Stopped log.withTables (.sites (.hierarchy client (.cycle cyclic)))) := by
  intro start served
  have hkeyed := hbuilt.sitesKeyed
  have hstart : Serving tables start :=
    ⟨⟨.refl tables, .of_empty rfl rfl⟩, .of_empty rfl, by rintro unit grant ⟨⟩⟩
  have hnobody : ({} : Service (MembershipTables × ρ)).Confined rest tables :=
    ⟨rfl, by simp, by simp⟩
  obtain ⟨hconfined, -⟩ := requests.run_serving admins hnobody hstart rfl
  have hran : Ran log.withTables ({} : Service (MembershipTables × ρ)).course start _ _ :=
    requests.run_ran log admins rfl
  refine ⟨?_, ?_⟩
  · intro session whole sent later hlog hnew
    obtain ⟨tried, htried, hexplained, -⟩ := hran.attempts
    obtain ⟨attempt, hmem, hexplains⟩ := hexplained.explained session whole sent later hlog hnew
    have hattempt : attempt ∈ served.1.course.attempts := by
      show attempt ∈ (requests.run _ _ _).1.course.attempts
      rw [htried]
      exact hmem
    have hwhere := hconfined.attempts attempt hattempt
    obtain ⟨admission, hadmission, hlayers⟩ := hwhere.admission
    have hwithin := hconfined.admitted admission hadmission
    exact ⟨attempt, hattempt, admission, hadmission, hexplains, hlayers,
      hwhere.tells hkeyed hlayers hwithin hexplains⟩
  · intro attempt hattempt
    have hwhere := hconfined.attempts attempt hattempt
    obtain ⟨admission, hadmission, hlayers⟩ := hwhere.admission
    have hwithin := hconfined.admitted admission hadmission
    exact ⟨admission, hadmission, hlayers, hwhere.stopped hkeyed hlayers hwithin log⟩

/-! ### Two clients, and one with a cycle -/

/-- A site that can be worked in. -/
def openSite (id client : Nat) (parent : Option Nat) : SiteRecord :=
  { (default : SiteRecord) with
    id := .ofNat id, clientId := .ofNat client, parentId := parent.map .ofNat, status := .active }

/-- A membership with a scope, in a client or at one of its sites. -/
def membershipAt (client : Nat) (site : Option Nat) (scope : Scope) : RoleGrantRecord :=
  { (default : RoleGrantRecord) with
    clientId := .ofNat client, siteId := site.map .ofNat, scope }

/-- A statement in some transaction. -/
def inventory : Statement := .plain .execute "inventory" []

/-- One client with a site below another one and a third one apart, and one with a single site. -/
def twoClients : MembershipTables :=
  ({} : MembershipTables)
    |>.upsertClient (.ofNat 1) .active
    |>.upsertClient (.ofNat 2) .active
    |>.upsertSite (openSite 12 1 (some 11))
    |>.upsertSite (openSite 11 1 none)
    |>.upsertSite (openSite 13 1 none)
    |>.upsertSite (openSite 21 2 none)
    |>.addGrant ⟨"ann"⟩ (membershipAt 1 (some 11) .siteGroup)
    |>.addGrant ⟨"bob"⟩ (membershipAt 2 (some 21) .site)

/-- While a transaction of one of them is open, the other one runs a statement. -/
def bothAtOnce : Requests :=
  .arrive (.unnamed ⟨"ann"⟩ "ann@example.org" "ann") .default {} fun _ =>
  .arrive (.unnamed ⟨"bob"⟩ "bob@example.org" "bob") .default {} fun _ =>
  .act 0 .begin fun _ =>
  .act 1 (.executeAlone inventory) fun _ =>
  .act 0 (.execute 0 inventory) fun _ => .done

/-- What becomes of requests in a world in memory where nothing has happened. -/
def Requests.servedInMemory (requests : Requests) (tables : MembershipTables) :
    Service (MembershipTables × World) × AccessState (MembershipTables × World) :=
  requests.run (MembershipTables.resolver World.inMemory []) {}
    (.initial .default (tables, { listener := default }))

/-- What happens in the first session before its statement: the sites 11 and 12 are told. -/
def upToInventory : List SessionEvent := [
  .begun,
  .called (.settings (Layer.rowPolicyInputs
    ⟨.siteGroup, .empty, some (.ofNat 1), some (.ofNat 11), .stored default⟩
    (.sites ((SiteSet.empty.insert (.ofNat 12)).insert (.ofNat 11)))))]

/-- The other client's statement in between makes no difference. -/
theorem sites_isolated_both_at_once :
    let served := bothAtOnce.servedInMemory twoClients
    twoClients.Built ∧
      World.sessionLog.events served.2.world.2 1 =
        upToInventory ++ .called (.execute inventory) :: [] ∧
      ∃ attempt ∈ served.1.course.attempts, ∃ admission ∈ served.1.admitted,
        attempt.Explains World.sessionLog.withTables 1 upToInventory inventory ∧
          attempt.layers = [.work admission.unit] ∧
          ∃ value, settingAfter "app.allowed_site_ids" upToInventory = some value ∧
            twoClients.Tells admission.grant value := by
  intro served
  have hbuilt : twoClients.Built :=
    .addGrant _ _ <| .addGrant _ _ <| .upsertSite _ <| .upsertSite _ <| .upsertSite _ <|
      .upsertSite _ <| .upsertClient _ _ <| .upsertClient _ _ .empty
  have hlog : World.sessionLog.events (bothAtOnce.servedInMemory twoClients).2.world.2 1 =
      upToInventory ++ .called (.execute inventory) :: [] := by cbv
  obtain ⟨hexplained, -⟩ := sites_isolated World.sessionLog [] .default twoClients hbuilt
    { listener := default } bothAtOnce
  exact ⟨hbuilt, hlog, hexplained 1 upToInventory inventory [] hlog List.nil_prefix⟩

/-- A client with two sites, each the parent of the other one, and a membership for sites and what is
below them that is held at none. -/
def cyclicClient : MembershipTables :=
  ({} : MembershipTables)
    |>.upsertClient (.ofNat 1) .active
    |>.upsertSite (openSite 11 1 none)
    |>.upsertSite (openSite 12 1 (some 11))
    |>.setSiteParent (.ofNat 11) (some (.ofNat 12))
    |>.addGrant ⟨"ann"⟩ (membershipAt 1 none .siteGroup)

/-- One statement of the holder. -/
def holderOnly : Requests :=
  .arrive (.unnamed ⟨"ann"⟩ "ann@example.org" "ann") ⟨some (.ofNat 1), none, .normal⟩ {} fun _ =>
  .act 0 (.executeAlone inventory) fun _ => .done

/-- A grant for sites and what is below them that has no site takes no tree: in a client with a cycle
its statement is asked for, with no site allowed. -/
theorem group_without_site_reaches_session :
    let grant : EffectiveGrant := ⟨.siteGroup, .empty, some (.ofNat 1), none, .stored default⟩
    let served := holderOnly.servedInMemory cyclicClient
    cyclicClient.Below (.ofNat 1) (.ofNat 11) (.ofNat 11) ∧
      served.1.admitted.map (·.grant) = [grant] ∧
      World.sessionLog.events served.2.world.2 1 = [
        .begun,
        .called (.settings (Layer.rowPolicyInputs grant (.sites .empty))),
        .called (.execute inventory),
        .called .commit] := by
  have hup : cyclicClient.HasParent (.ofNat 1) (.ofNat 11) (.ofNat 12) :=
    ⟨⟨_, rfl, rfl, rfl⟩, _, rfl, rfl⟩
  have hdown : cyclicClient.HasParent (.ofNat 1) (.ofNat 12) (.ofNat 11) :=
    ⟨⟨_, rfl, rfl, rfl⟩, _, rfl, rfl⟩
  exact ⟨.tail (.single hup) hdown, by cbv, by cbv⟩

end TenantAccess
