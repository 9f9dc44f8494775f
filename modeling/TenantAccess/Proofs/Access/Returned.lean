import TenantAccess.Proofs.Access.Coherence
import TenantAccess.Proofs.Access.Escalation

/-!
# Grants without a client

Whatever the store answers, resolving gives grants for clients, with one exception: everything in no
client at all, for bootstrap administrators.  Nothing is assumed here of the store or of the rest of
the platform.

* `Gives`: what a task may give, when it keeps no grant itself.
* `compute_gives`: every grant that is computed is for a client, or it is the exception.
* `AccessResolver.Reached`: the states that resolving leads to when nothing was kept at first.
* `AccessResolver.Reached.resolve_gives`: there the same goes for what is found in the cache.
-/

namespace TenantAccess

variable {σ ε α β : Type}

/-! ### What a task gives -/

/-- From every state the task leaves the kept grants as they are, and what it gives has the
property. -/
def Gives (P : α → Prop) (m : Task σ ε α) : Prop :=
  ∀ s, (m s).2.grants = s.grants ∧ ∀ a, (m s).1 = .ok a → P a

namespace Gives

variable {P : α → Prop} {Q : β → Prop}

/-- A value with the property may be given. -/
theorem pure {a : α} (h : P a) : Gives P (pure a : Task σ ε α) := by
  refine fun s => ⟨rfl, fun b hb => ?_⟩
  obtain rfl : a = b := Except.ok.inj hb
  exact h

/-- A failure gives nothing. -/
theorem throw (e : ε) : Gives P (throw e : Task σ ε α) := by
  refine fun s => ⟨rfl, fun a ha => ?_⟩
  have herror : (Except.error e : Except ε α) = .ok a := ha
  cases herror

/-- What is given by the first task is all that the second one has to know of it. -/
theorem bind {m : Task σ ε α} {f : α → Task σ ε β} (h : Gives P m)
    (h' : ∀ a, P a → Gives Q (f a)) : Gives Q (m >>= f) := by
  intro s
  obtain ⟨hgrants, hgives⟩ := h s
  rcases hrun : m s with ⟨e | a, t⟩
  · rw [Task.bind_error hrun]
    rw [hrun] at hgrants
    exact ⟨hgrants, fun _ hb => nomatch hb⟩
  · rw [Task.bind_ok hrun]
    rw [hrun] at hgrants hgives
    obtain ⟨hgrants', hgives'⟩ := h' a (hgives a rfl) t
    exact ⟨hgrants'.trans hgrants, hgives'⟩

/-- What has a property has every weaker one. -/
theorem mono {P' : α → Prop} {m : Task σ ε α} (h : Gives P m) (hmono : ∀ a, P a → P' a) :
    Gives P' m :=
  fun s => (h s).imp_right fun hgives a ha => hmono a (hgives a ha)

/-- A first task of which nothing has to be known. -/
theorem andThen {m : Task σ ε α} {f : α → Task σ ε β} (h : Gives (fun _ => True) m)
    (h' : ∀ a, Gives Q (f a)) : Gives Q (m >>= f) :=
  h.bind fun a _ => h' a

end Gives

/-! ### What resolving from the store gives -/

/-- The grant is for everything in no client at all, and it is a bootstrap administrator who asks,
with an intent and naming no client. -/
structure ClientlessGrant (admins : List String) (principal : Principal)
    (requested : RequestedTenant) (grant : EffectiveGrant) : Prop where
  grant_eq : grant = .ephemeral none none
  noClient : requested.clientId = none
  intent : requested.intent ≠ .normal
  listed : OnBootstrapList admins principal

/-- The grant is for a client, or it is the exception. -/
def ForClientOrListed (admins : List String) (principal : Principal) (requested : RequestedTenant)
    (grant : EffectiveGrant) : Prop :=
  grant.clientId ≠ none ∨ ClientlessGrant admins principal requested grant

section compute

variable (resolver : AccessResolver σ) (principal : Principal) (records : List RoleGrantRecord)
  (client : ClientId) (requested : RequestedTenant)

/-- Reading the store keeps no grant. -/
theorem read_gives (m : MembershipStore σ → StoreRead σ α) :
    Gives (fun _ => True) (resolver.read m) :=
  fun _ => ⟨rfl, fun _ _ => trivial⟩

/-- Writing to the audit trail keeps no grant. -/
theorem audit_gives (entry : AuditEntry) : Gives (fun _ => True) (resolver.audit entry) :=
  fun _ => ⟨rfl, fun _ _ => trivial⟩

/-- Looking for the site of an escalation keeps no grant. -/
theorem escalationSite_gives (site : Option SiteId) :
    Gives (fun _ => True) (resolver.escalationSite client site) := by
  rcases site with _ | site
  · exact (read_gives resolver _).andThen fun _ => .pure trivial
  · exact .pure trivial

/-- Checking that a grant is active keeps no grant. -/
theorem checkActive_gives (grant : EffectiveGrant) :
    Gives (fun _ => True) (resolver.checkActive grant requested) := by
  unfold AccessResolver.checkActive
  split
  · exact .pure trivial
  rcases grant.clientId with _ | client
  · exact .throw _
  apply (read_gives resolver _).andThen
  rintro (_ | status)
  · exact .throw _
  dsimp only
  split
  · exact .throw _
  split
  · exact .pure trivial
  rcases grant.siteId with _ | site
  · exact .pure trivial
  apply (read_gives resolver _).andThen
  rintro (_ | status)
  · exact .throw _
  dsimp only
  split
  · exact .throw _
  · exact .pure trivial

/-- A membership is held in a client, and so is the grant that several come to. -/
theorem reduceActive_gives :
    Gives (fun grant => grant.clientId ≠ none) (resolver.reduceActive records requested) := by
  unfold AccessResolver.reduceActive
  rcases hreduce : EffectiveGrant.reduce? records with _ | grant
  · exact .throw _
  · refine (checkActive_gives resolver requested grant).andThen fun _ => .pure ?_
    obtain ⟨record, hreduces⟩ := reduces_of_reduce? hreduce
    rw [hreduces.clientId]
    exact Option.some_ne_none _

/-- Without a client a grant comes from memberships, which are for clients, or it is the
exception. -/
theorem resolveDefault_gives (h : requested.clientId = none) :
    Gives (ForClientOrListed resolver.admins principal requested)
      (resolver.resolveDefault principal records requested) := by
  unfold AccessResolver.resolveDefault
  split
  · exact (reduceActive_gives resolver records requested).mono fun _ => .inl
  split
  · rename_i hasks
    obtain ⟨hintent, hlisted⟩ := Bool.and_eq_true_iff.mp hasks
    refine (audit_gives resolver _).andThen fun _ => .pure (.inr ?_)
    exact ⟨rfl, h, of_decide_eq_true hintent, (isBootstrapAdmin_iff _ _).mp hlisted⟩
  · exact .throw _

/-- From the memberships that apply to a client comes a grant for a client. -/
theorem resolveMembership_gives :
    Gives (fun grant => grant.clientId ≠ none)
      (resolver.resolveMembership principal records client requested) := by
  unfold AccessResolver.resolveMembership
  dsimp only
  split
  · exact reduceActive_gives resolver _ requested
  split
  · refine (escalationSite_gives resolver client requested.siteId).andThen fun site => ?_
    exact (audit_gives resolver _).andThen fun _ => .pure (Option.some_ne_none _)
  · exact .throw _

/-- A request for a client gets a grant for a client. -/
theorem resolveClient_gives :
    Gives (fun grant => grant.clientId ≠ none)
      (resolver.resolveClient principal records client requested) := by
  have hmember := resolveMembership_gives resolver principal records client requested
  unfold AccessResolver.resolveClient
  split
  · refine (escalationSite_gives resolver client requested.siteId).andThen ?_
    rintro (_ | site)
    · exact hmember
    · exact (audit_gives resolver _).andThen fun _ => .pure (Option.some_ne_none _)
  · exact hmember

/-- Whatever the store answers, a grant that is computed is for a client, or it is the exception. -/
theorem compute_gives :
    Gives (ForClientOrListed resolver.admins principal requested)
      (resolver.compute principal requested) := by
  have hclient : ∀ records client, Gives (ForClientOrListed resolver.admins principal requested)
      (resolver.resolveClient principal records client requested) := fun records client =>
    (resolveClient_gives resolver principal records client requested).mono fun _ => .inl
  unfold AccessResolver.compute
  apply (read_gives resolver _).andThen
  intro rows
  dsimp only
  rcases hrequest : requested.clientId with _ | client
  · exact resolveDefault_gives resolver principal _ requested hrequest
  rcases requested.siteId with _ | site
  · exact hclient _ client
  · apply (read_gives resolver _).andThen
    rintro (_ | status)
    · exact .throw _
    · exact hclient _ client

end compute

/-! ### What resolving through the cache gives -/

namespace AccessResolver

/-- The states that come about when nothing was kept at first: requests are resolved, and whatever
else happens, to the store too, it adds nothing to what is kept. -/
inductive Reached (resolver : AccessResolver σ) : AccessState σ → Prop where
  | fresh {s : AccessState σ} (h : s.grants.entries = {}) : Reached resolver s
  | resolved {s : AccessState σ} (h : Reached resolver s) (principal : Principal)
    (requested : RequestedTenant) : Reached resolver (resolver.resolve principal requested s).2
  | other {s t : AccessState σ} (h : Reached resolver s)
    (hkept : ∀ key grant, t.grants.find key = .ok (some grant) →
      s.grants.find key = .ok (some grant)) : Reached resolver t

namespace Reached

variable {resolver : AccessResolver σ} {s : AccessState σ} {principal : Principal}
  {requested : RequestedTenant} {grant : EffectiveGrant}

/-- Every grant that is kept was computed for a principal with the identity in its key. -/
theorem find_gives (h : resolver.Reached s)
    (hfind : s.grants.find (.ofRequest principal.idpId requested) = .ok (some grant)) :
    ∃ other, other.idpId = principal.idpId ∧
      ForClientOrListed resolver.admins other requested grant := by
  -- along the way the state came about: only a grant that was computed is a new entry
  induction h with
  | fresh hempty => exact absurd hfind (GrantCache.find_of_empty hempty)
  | @resolved s _ asking asked ih =>
    obtain ⟨hgrants, hgives⟩ := compute_gives resolver asking asked s
    rcases resolver.resolve_found_or_computed asking asked s with
      ⟨held, -, hresolve⟩ | ⟨-, ⟨e, t, hcomputed, hresolve⟩ | ⟨given, t, hcomputed, hresolve⟩⟩
    · rw [hresolve] at hfind
      exact ih hfind
    · rw [hcomputed] at hgrants
      rw [hresolve] at hfind
      dsimp only at hgrants hfind
      rw [hgrants] at hfind
      exact ih hfind
    · rw [hcomputed] at hgrants hgives
      rw [hresolve] at hfind
      dsimp only at hgrants hfind
      rw [hgrants] at hfind
      rcases GrantCache.find_insert hfind with ⟨hkey, rfl⟩ | hbefore
      · obtain ⟨hidp, rfl⟩ := GrantKey.ofRequest_inj.mp hkey
        exact ⟨asking, hidp.symm, hgives grant rfl⟩
      · exact ih hbefore
  | other _ hkept ih => exact ih (hkept _ _ hfind)

/-- A grant that is resolved is for a client, or it is the exception, given to the principal or to
another one with the same identity. -/
theorem resolve_gives (h : resolver.Reached s)
    (hresolved : (resolver.resolve principal requested s).1 = .ok grant) :
    ∃ other, other.idpId = principal.idpId ∧
      ForClientOrListed resolver.admins other requested grant := by
  rcases resolver.resolve_found_or_computed principal requested s with
    ⟨held, hheld, hresolve⟩ | ⟨-, ⟨e, t, -, hresolve⟩ | ⟨given, t, hcomputed, hresolve⟩⟩
  · rw [hresolve] at hresolved
    obtain rfl := Except.ok.inj hresolved
    exact h.find_gives hheld
  · rw [hresolve] at hresolved
    cases hresolved
  · rw [hresolve] at hresolved
    obtain rfl := Except.ok.inj hresolved
    have hgives := (compute_gives resolver principal requested s).2
    rw [hcomputed] at hgives
    exact ⟨principal, rfl, hgives given rfl⟩

end Reached
end AccessResolver
end TenantAccess
