import TenantAccess.Proofs.Access.Tables

/-!
# The answer that tables give to a request

`MembershipTables.answer` says what the resolution of a request over tables in memory comes to, as
a function of the tables, the bootstrap list, the principal and the request.

* `compute_answers`: resolving from the store has this outcome and disturbs nothing.
* `resolveFresh_eq_answer`: so it is what resolving gives when no grant is kept.
* `resolve_cases`: resolving gives what is kept, or the answer, and keeps a grant it gives.
-/

namespace TenantAccess

variable {ρ : Type}

namespace MembershipTables

/-! ### The answer -/

/-- The site that an escalation is for: the one asked for, else the first of the client. -/
def escalationSite (tables : MembershipTables) (client : ClientId) (site : Option SiteId) :
    Option SiteId :=
  match site with
  | some site => some site
  | none => (tables.sitesOf client).head?.map (·.id)

/-- Nothing when the client and the site of a grant are active as far as its scope asks for it. -/
def activation (tables : MembershipTables) (grant : EffectiveGrant)
    (requested : RequestedTenant) : Except AccessError Unit :=
  if grant.scope.atLeast .global then .ok ()
  else match grant.clientId with
    | none => .error (.internal "stored grant has no client")
    | some client =>
      match tables.clients.get? client with
      | none => .error (.internal ("no status for client " ++ client.text))
      | some status =>
        if !status.isActive then
          .error (.denied (.ofRequest .clientInactive
            ("client " ++ client.text ++ " is not active (" ++ status.label ++ ")") requested))
        else if grant.scope.atLeast .client then .ok ()
        else match grant.siteId with
          | none => .ok ()
          | some site =>
            match tables.statusOfSite client site with
            | none => .error (.internal ("no status for site " ++ site.text))
            | some status =>
              if !status.isActive then
                .error (.denied (.ofRequest .siteInactive
                  ("site " ++ site.text ++ " is not active (" ++ status.label ++ ")") requested))
              else .ok ()

/-- The grant of the memberships, provided that it is active. -/
def activeGrant (tables : MembershipTables) (records : List RoleGrantRecord)
    (requested : RequestedTenant) : Except AccessError EffectiveGrant :=
  match EffectiveGrant.reduce? records with
  | none => .error (.internal EffectiveGrant.emptyMessage)
  | some grant => (tables.activation grant requested).map fun _ => grant

/-- The answer to a request that names no client. -/
def answerDefault (tables : MembershipTables) (admins : List String) (principal : Principal)
    (records : List RoleGrantRecord) (requested : RequestedTenant) :
    Except AccessError EffectiveGrant :=
  if !records.isEmpty then tables.activeGrant records requested
  else if requested.intent ≠ .normal && isBootstrapAdmin admins principal then
    .ok (.ephemeral none none)
  else .error (.denied (.ofRequest .noAccessGrant "principal holds no memberships" requested))

/-- The answer to a request for a client from the memberships that apply to it, or for a bootstrap
administrator without any. -/
def answerMembership (tables : MembershipTables) (admins : List String) (principal : Principal)
    (records : List RoleGrantRecord) (client : ClientId) (requested : RequestedTenant) :
    Except AccessError EffectiveGrant :=
  let applying := records.filterMap (·.applied? client requested.siteId)
  if !applying.isEmpty then tables.activeGrant applying requested
  else if isBootstrapAdmin admins principal then
    .ok (.ephemeral (some client) (tables.escalationSite client requested.siteId))
  else
    .error (deniedRequest records requested "no membership matches the requested client or site")

/-- The answer to a request for a client, once its site is known to be the client's. -/
def answerClient (tables : MembershipTables) (admins : List String) (principal : Principal)
    (records : List RoleGrantRecord) (client : ClientId) (requested : RequestedTenant) :
    Except AccessError EffectiveGrant :=
  match mayEscalate records requested.intent, tables.escalationSite client requested.siteId with
  | true, some site => .ok (.ephemeral (some client) (some site))
  | _, _ => tables.answerMembership admins principal records client requested

/-- The answer to a request. -/
def answer (tables : MembershipTables) (admins : List String) (principal : Principal)
    (requested : RequestedTenant) : Except AccessError EffectiveGrant :=
  let records := RoleGrantRecord.byPrecedence (tables.grantsOf principal.idpId)
  match requested.clientId, requested.siteId with
  | none, _ => tables.answerDefault admins principal records requested
  | some client, none => tables.answerClient admins principal records client requested
  | some client, some site =>
    match tables.statusOfSite client site with
    | none =>
      .error (deniedRequest records requested
        "requested site does not belong to the requested client")
    | some _ => tables.answerClient admins principal records client requested

end MembershipTables

/-! ### Resolving from tables comes to the answer -/

section compute

variable (rest : Platform ρ) (admins : List String) (tables : MembershipTables)

/-- The site of an escalation is found in the tables. -/
theorem escalationSite_answers (client : ClientId) (site : Option SiteId) :
    Answers rest ((MembershipTables.resolver rest admins).escalationSite client site) tables
      (.ok (tables.escalationSite client site)) := by
  rcases site with _ | site
  · exact (answers_sitesFor rest admins tables client).bind (.pure _)
  · exact .pure _

/-- Whether a grant is active is decided by the tables. -/
theorem checkActive_answers (grant : EffectiveGrant) (requested : RequestedTenant) :
    Answers rest ((MembershipTables.resolver rest admins).checkActive grant requested) tables
      (tables.activation grant requested) := by
  unfold AccessResolver.checkActive MembershipTables.activation
  split
  · exact .pure _
  rcases grant.clientId with _ | client
  · exact .throw _
  apply (answers_clientStatus rest admins tables client).bind
  dsimp only
  rcases tables.clients.get? client with _ | status
  · exact .throw _
  dsimp only
  split
  · exact .throw _
  split
  · exact .pure _
  rcases grant.siteId with _ | site
  · exact .pure _
  refine (answers_siteStatus rest admins tables client site).bind ?_
  dsimp only
  rcases tables.statusOfSite client site with _ | status
  · exact .throw _
  dsimp only
  split
  · exact .throw _
  · exact .pure _

/-- Memberships are reduced to their grant, provided that it is active. -/
theorem reduceActive_answers (records : List RoleGrantRecord) (requested : RequestedTenant) :
    Answers rest ((MembershipTables.resolver rest admins).reduceActive records requested) tables
      (tables.activeGrant records requested) := by
  unfold AccessResolver.reduceActive MembershipTables.activeGrant
  rcases EffectiveGrant.reduce? records with _ | grant
  · exact .throw _
  have hactive := checkActive_answers rest admins tables grant requested
  dsimp only
  rcases h : tables.activation grant requested with e | _
  · rw [h] at hactive
    exact hactive.bind_error
  · rw [h] at hactive
    exact hactive.bind (.pure _)

/-- A request without a client is answered from the memberships alone. -/
theorem resolveDefault_answers (principal : Principal) (records : List RoleGrantRecord)
    (requested : RequestedTenant) :
    Answers rest ((MembershipTables.resolver rest admins).resolveDefault principal records requested)
      tables (tables.answerDefault admins principal records requested) := by
  unfold AccessResolver.resolveDefault MembershipTables.answerDefault
  rw [MembershipTables.resolver_admins]
  split
  · exact reduceActive_answers rest admins tables records requested
  split
  · exact (answers_audit rest admins tables _).bind (.pure _)
  · exact .throw _

/-- A request for a client is answered from the memberships that apply to it. -/
theorem resolveMembership_answers (principal : Principal) (records : List RoleGrantRecord)
    (client : ClientId) (requested : RequestedTenant) :
    Answers rest
      ((MembershipTables.resolver rest admins).resolveMembership principal records client requested)
      tables (tables.answerMembership admins principal records client requested) := by
  unfold AccessResolver.resolveMembership MembershipTables.answerMembership
  rw [MembershipTables.resolver_admins]
  dsimp only
  split
  · exact reduceActive_answers rest admins tables _ requested
  split
  · apply (escalationSite_answers rest admins tables client requested.siteId).bind
    exact (answers_audit rest admins tables _).bind (.pure _)
  · exact .throw _

/-- A request for a client is answered by an escalation, or else from the memberships that apply to
it. -/
theorem resolveClient_answers (principal : Principal) (records : List RoleGrantRecord)
    (client : ClientId) (requested : RequestedTenant) :
    Answers rest
      ((MembershipTables.resolver rest admins).resolveClient principal records client requested)
      tables (tables.answerClient admins principal records client requested) := by
  have hmember := resolveMembership_answers rest admins tables principal records client requested
  have hsite := escalationSite_answers rest admins tables client requested.siteId
  unfold AccessResolver.resolveClient MembershipTables.answerClient
  rcases mayEscalate records requested.intent with _ | _
  · exact hmember
  · refine hsite.bind ?_
    rcases tables.escalationSite client requested.siteId with _ | site
    · exact hmember
    · exact (answers_audit rest admins tables _).bind (.pure _)

/-- Resolving from the store comes to the answer of the tables. -/
theorem compute_answers (principal : Principal) (requested : RequestedTenant) :
    Answers rest ((MembershipTables.resolver rest admins).compute principal requested) tables
      (tables.answer admins principal requested) := by
  unfold AccessResolver.compute MembershipTables.answer
  apply (answers_grantsFor rest admins tables principal.idpId).bind
  rcases requested.clientId with _ | client
  · exact resolveDefault_answers rest admins tables principal _ requested
  rcases requested.siteId with _ | site
  · exact resolveClient_answers rest admins tables principal _ client requested
  refine (answers_siteStatus rest admins tables client site).bind ?_
  dsimp only
  rcases tables.statusOfSite client site with _ | status
  · exact .throw _
  · exact resolveClient_answers rest admins tables principal _ client requested

end compute

/-! ### Resolving through the cache -/

/-- A cache without entries has no grant. -/
theorem GrantCache.find_of_empty {cache : GrantCache} {key : GrantKey} {grant : EffectiveGrant}
    (h : cache.entries = {}) : cache.find key ≠ .ok (some grant) := by
  unfold find
  rcases cache.mode with _ | _ | _ <;> simp [h]

namespace AccessResolver

variable {σ : Type} (resolver : AccessResolver σ) (principal : Principal)
  (requested : RequestedTenant) {s : AccessState σ}

/-- What is kept is the answer, and nothing changes. -/
theorem resolve_of_find {grant : EffectiveGrant}
    (h : s.grants.find (.ofRequest principal.idpId requested) = .ok (some grant)) :
    resolver.resolve principal requested s = (.ok grant, s) := by
  unfold resolve
  simp only [bind, StateT.bind, get, getThe, MonadStateOf.get, StateT.get, pure, h]
  rfl

/-- What is not kept is resolved from the store, and a grant is kept from then on. -/
theorem resolve_of_not_find
    (h : ∀ grant, s.grants.find (.ofRequest principal.idpId requested) ≠ .ok (some grant)) :
    resolver.resolve principal requested s =
      match resolver.compute principal requested s with
      | (.ok grant, t) =>
        (.ok grant, { t with grants := t.grants.insert (.ofRequest principal.idpId requested) grant })
      | (.error e, t) => (.error e, t) := by
  unfold resolve
  rcases hf : s.grants.find (.ofRequest principal.idpId requested) with e | _ | grant
  · rcases hc : resolver.compute principal requested s with ⟨_ | _, t⟩ <;>
      simp only [bind, StateT.bind, get, getThe, MonadStateOf.get, StateT.get, pure, hf,
        ExceptT.run, hc, StateT.pure, modify, modifyGet, MonadStateOf.modifyGet, StateT.modifyGet]
  · rcases hc : resolver.compute principal requested s with ⟨_ | _, t⟩ <;>
      simp only [bind, StateT.bind, get, getThe, MonadStateOf.get, StateT.get, pure, hf,
        ExceptT.run, hc, StateT.pure, modify, modifyGet, MonadStateOf.modifyGet, StateT.modifyGet]
  · exact absurd hf (h grant)

/-- Resolving gives what is kept and changes nothing, or else what is computed, of which a grant is
kept from then on. -/
theorem resolve_found_or_computed (s : AccessState σ) :
    (∃ grant, s.grants.find (.ofRequest principal.idpId requested) = .ok (some grant) ∧
      resolver.resolve principal requested s = (.ok grant, s)) ∨
    (∀ grant, s.grants.find (.ofRequest principal.idpId requested) ≠ .ok (some grant)) ∧
      ((∃ e t, resolver.compute principal requested s = (.error e, t) ∧
          resolver.resolve principal requested s = (.error e, t)) ∨
        ∃ grant t, resolver.compute principal requested s = (.ok grant, t) ∧
          resolver.resolve principal requested s = (.ok grant,
            { t with grants :=
              t.grants.insert (.ofRequest principal.idpId requested) grant })) := by
  by_cases hkept : ∃ grant,
      s.grants.find (.ofRequest principal.idpId requested) = .ok (some grant)
  · obtain ⟨grant, hgrant⟩ := hkept
    exact .inl ⟨grant, hgrant, resolver.resolve_of_find _ _ hgrant⟩
  · rw [not_exists] at hkept
    refine .inr ⟨hkept, ?_⟩
    rw [resolver.resolve_of_not_find _ _ hkept]
    rcases resolver.compute principal requested s with ⟨e | grant, t⟩
    · exact .inl ⟨e, t, rfl, rfl⟩
    · exact .inr ⟨grant, t, rfl, rfl⟩

/-- What resolving a request answers when no grant is kept. -/
def resolveFresh (s : AccessState σ) : Except AccessError EffectiveGrant :=
  (resolver.resolve principal requested
    { s with grants := { s.grants with entries := {} } }).1

end AccessResolver

/-- With no grant kept, resolving over tables comes to their answer. -/
theorem resolveFresh_eq_answer (rest : Platform ρ) (admins : List String) (principal : Principal)
    (requested : RequestedTenant) (s : AccessState (MembershipTables × ρ)) :
    (MembershipTables.resolver rest admins).resolveFresh principal requested s =
      s.world.1.answer admins principal requested := by
  unfold AccessResolver.resolveFresh
  rw [AccessResolver.resolve_of_not_find _ _ _ fun grant => GrantCache.find_of_empty rfl]
  obtain ⟨t, ht, -⟩ := compute_answers rest admins s.world.1 principal requested
    { s with grants := { s.grants with entries := {} } } (.refl _)
  rw [ht]
  rcases s.world.1.answer admins principal requested with e | grant <;> rfl

/-- Resolving gives what is kept for the request and changes nothing, or else it gives the answer of
the tables, of which a grant is kept from then on. -/
theorem resolve_cases (rest : Platform ρ) (admins : List String) (principal : Principal)
    (requested : RequestedTenant) (s : AccessState (MembershipTables × ρ)) :
    (∃ grant, s.grants.find (.ofRequest principal.idpId requested) = .ok (some grant) ∧
      (MembershipTables.resolver rest admins).resolve principal requested s = (.ok grant, s)) ∨
    (∀ grant, s.grants.find (.ofRequest principal.idpId requested) ≠ .ok (some grant)) ∧
      ∃ t, Undisturbed rest s t ∧
        ((∃ e, s.world.1.answer admins principal requested = .error e ∧
            (MembershipTables.resolver rest admins).resolve principal requested s =
              (.error e, t)) ∨
          ∃ grant, s.world.1.answer admins principal requested = .ok grant ∧
            (MembershipTables.resolver rest admins).resolve principal requested s = (.ok grant,
              { t with grants :=
                s.grants.insert (.ofRequest principal.idpId requested) grant })) := by
  obtain ⟨t, ht, hst⟩ := compute_answers rest admins s.world.1 principal requested s (.refl _)
  rcases (MembershipTables.resolver rest admins).resolve_found_or_computed principal requested s with
    hfound | ⟨hnone, ⟨e, u, hcomputed, hresolve⟩ | ⟨grant, u, hcomputed, hresolve⟩⟩
  · exact .inl hfound
  · obtain ⟨hanswer, rfl⟩ := Prod.mk.inj (ht.symm.trans hcomputed)
    exact .inr ⟨hnone, t, hst, .inl ⟨e, hanswer, hresolve⟩⟩
  · obtain ⟨hanswer, rfl⟩ := Prod.mk.inj (ht.symm.trans hcomputed)
    rw [hst.grants] at hresolve
    exact .inr ⟨hnone, t, hst, .inr ⟨grant, hanswer, hresolve⟩⟩

end TenantAccess
