import TenantAccess.Proofs.Access.Answer

/-!
# Coherent grant caches

The cache of a principal is coherent when every grant it keeps is the one that resolving from the
store would give.

* `coherent_iff_resolve`: then, and only then, resolving gives what the store says.
* `resolve_coherent`: resolving the requests of the principal keeps its cache coherent.
* `GrantCache.find_eraseAll`, `GrantKey.mem_variants`: what is kept when keys are forgotten.
-/

namespace TenantAccess

/-! ### What a cache keeps -/

/-- Erased keys have no value and the other keys keep theirs. -/
theorem Table.get?_foldl_erase {κ α : Type} [BEq κ] [LawfulBEq κ] [DecidableEq κ] (keys : List κ)
    (table : Table κ α) (other : κ) :
    (keys.foldl erase table).get? other = if other ∈ keys then none else table.get? other := by
  induction keys generalizing table with
  | nil => simp
  | cons key keys ih =>
    rw [List.foldl_cons, ih, get?_erase]
    by_cases hkeys : other ∈ keys
    · simp [hkeys]
    · by_cases hkey : other = key <;> simp [hkeys, hkey]

namespace GrantCache

variable {cache : GrantCache} {key other : GrantKey} {grant kept : EffectiveGrant}

/-- Keeping a grant leaves the way the cache works. -/
@[simp] theorem insert_mode (cache : GrantCache) (key : GrantKey) (grant : EffectiveGrant) :
    (cache.insert key grant).mode = cache.mode := by
  unfold insert
  split <;> rfl

/-- Forgetting grants leaves the way the cache works. -/
@[simp] theorem eraseAll_mode (cache : GrantCache) (keys : List GrantKey) :
    (cache.eraseAll keys).mode = cache.mode := by
  unfold eraseAll
  split <;> rfl

/-- Only a cache that keeps grants has some. -/
theorem mode_of_find (h : cache.find key = .ok (some kept)) : cache.mode = .keeping := by
  unfold find at h
  rcases hmode : cache.mode with _ | _ | _ <;> simp [hmode] at h ⊢

/-- After an insertion a kept grant is the inserted one, or was kept before under another key. -/
theorem find_insert_iff : (cache.insert key grant).find other = .ok (some kept) ↔
    other = key ∧ cache.mode = .keeping ∧ kept = grant ∨
      other ≠ key ∧ cache.find other = .ok (some kept) := by
  unfold insert find
  rcases hmode : cache.mode with _ | _ | _
  · by_cases hkey : other = key <;> simp [Table.get?_insert, hkey, eq_comm]
  · simp [hmode]
  · simp [hmode]

/-- After an insertion a kept grant is the inserted one or was kept before. -/
theorem find_insert
    (h : (cache.insert key grant).find other = .ok (some kept)) :
    other = key ∧ kept = grant ∨ cache.find other = .ok (some kept) := by
  rcases find_insert_iff.mp h with ⟨hkey, -, hkept⟩ | ⟨-, hbefore⟩
  · exact .inl ⟨hkey, hkept⟩
  · exact .inr hbefore

/-- Forgetting other keys makes no difference to what is found. -/
theorem find_eraseAll_of_not_mem {keys : List GrantKey} (h : other ∉ keys) :
    (cache.eraseAll keys).find other = cache.find other := by
  unfold eraseAll find
  rcases hmode : cache.mode with _ | _ | _ <;> simp [hmode, Table.get?_foldl_erase, h]

/-- When keys are forgotten, what was kept under the other ones stays. -/
theorem find_eraseAll (keys : List GrantKey) :
    (cache.eraseAll keys).find other = .ok (some kept) ↔
      other ∉ keys ∧ cache.find other = .ok (some kept) := by
  unfold eraseAll find
  rcases hmode : cache.mode with _ | _ | _
  · simp only [Table.get?_foldl_erase]
    by_cases hkeys : other ∈ keys <;> simp [hkeys]
  · simp [hmode]
  · simp [hmode]

end GrantCache

/-- The keys that are forgotten: without a tenant, the client, and the client at the listed sites,
each with any intent. -/
theorem GrantKey.mem_variants {key : GrantKey} {idpId : IdpId} {client : ClientId}
    {sites : List SiteId} :
    key ∈ variants idpId client sites ↔ key.idpId = idpId ∧
      (key.clientId = none ∧ key.siteId = none ∨ key.clientId = some client ∧
        ∀ site, key.siteId = some site → site ∈ sites) := by
  obtain ⟨idpId', clientId, siteId, intent⟩ := key
  have hintent : intent ∈ AccessIntent.all := by
    rcases intent with _ | _ | _ <;> decide
  unfold variants
  simp only [List.mem_flatMap, List.mem_map, List.mem_cons, GrantKey.mk.injEq]
  constructor
  · rintro ⟨intent', -, ⟨clientId', siteId'⟩, htenant, rfl, rfl, rfl, rfl⟩
    refine ⟨rfl, ?_⟩
    rcases htenant with htenant | htenant | ⟨site, hsite, htenant⟩
    · obtain ⟨rfl, rfl⟩ := Prod.mk.inj htenant
      exact .inl ⟨rfl, rfl⟩
    · obtain ⟨rfl, rfl⟩ := Prod.mk.inj htenant
      exact .inr ⟨rfl, by simp⟩
    · obtain ⟨rfl, rfl⟩ := Prod.mk.inj htenant
      refine .inr ⟨rfl, ?_⟩
      intro site' hsite'
      obtain rfl := Option.some.inj hsite'
      exact hsite
  · rintro ⟨rfl, ⟨rfl, rfl⟩ | ⟨rfl, hsites⟩⟩
    · exact ⟨intent, hintent, (none, none), .inl rfl, rfl, rfl, rfl, rfl⟩
    · rcases siteId with _ | site
      · exact ⟨intent, hintent, (some client, none), .inr (.inl rfl), rfl, rfl, rfl, rfl⟩
      · refine ⟨intent, hintent, (some client, some site), .inr (.inr ?_), rfl, rfl, rfl, rfl⟩
        exact ⟨site, hsites site rfl, rfl⟩

/-- The key of a request tells the principal and the request. -/
theorem GrantKey.ofRequest_inj {idpId idpId' : IdpId} {requested requested' : RequestedTenant} :
    ofRequest idpId requested = ofRequest idpId' requested' ↔
      idpId = idpId' ∧ requested = requested' := by
  obtain ⟨client, site, intent⟩ := requested
  obtain ⟨client', site', intent'⟩ := requested'
  simp [ofRequest]

/-! ### Coherence -/

variable {ρ : Type} (rest : Platform ρ) (admins : List String)

/-- Every grant that is kept for the principal is what resolving with nothing kept gives. -/
def Coherent (principal : Principal) (s : AccessState (MembershipTables × ρ)) : Prop :=
  ∀ requested grant, s.grants.find (.ofRequest principal.idpId requested) = .ok (some grant) →
    (MembershipTables.resolver rest admins).resolveFresh principal requested s = .ok grant

/-- Tables that hold the same give the same answers. -/
theorem MembershipTables.Same.answer_eq {a b : MembershipTables} (h : a.Same b)
    (principal : Principal) (requested : RequestedTenant) :
    a.answer admins principal requested = b.answer admins principal requested := by
  obtain ⟨grants, clients, sites, _, _⟩ := a
  obtain ⟨grants', clients', sites', _, _⟩ := b
  obtain ⟨hgrants, hclients, hsites⟩ := h
  dsimp only at hgrants hclients hsites
  subst hgrants hclients hsites
  rfl

/-- So does resolving with nothing kept. -/
theorem resolveFresh_congr {s t : AccessState (MembershipTables × ρ)}
    (h : t.world.1.Same s.world.1) (principal : Principal) (requested : RequestedTenant) :
    (MembershipTables.resolver rest admins).resolveFresh principal requested t =
      (MembershipTables.resolver rest admins).resolveFresh principal requested s := by
  rw [resolveFresh_eq_answer, resolveFresh_eq_answer, h.answer_eq]

/-- Where nothing is kept for a request, resolving it gives what resolving with nothing kept at all
gives. -/
theorem resolve_fst_of_not_find {principal : Principal} {requested : RequestedTenant}
    {s : AccessState (MembershipTables × ρ)}
    (h : ∀ grant, s.grants.find (.ofRequest principal.idpId requested) ≠ .ok (some grant)) :
    ((MembershipTables.resolver rest admins).resolve principal requested s).1 =
      (MembershipTables.resolver rest admins).resolveFresh principal requested s := by
  rw [resolveFresh_eq_answer]
  rcases resolve_cases rest admins principal requested s with
    ⟨held, hheld, -⟩ | ⟨-, t, -, ⟨e, hanswer, hresolve⟩ | ⟨held, hanswer, hresolve⟩⟩
  · exact absurd hheld (h held)
  · rw [hresolve, hanswer]
  · rw [hresolve, hanswer]

/-- A coherent cache is one that makes no difference to what is resolved. -/
theorem coherent_iff_resolve (principal : Principal) (s : AccessState (MembershipTables × ρ)) :
    Coherent rest admins principal s ↔ ∀ requested,
      ((MembershipTables.resolver rest admins).resolve principal requested s).1 =
        (MembershipTables.resolver rest admins).resolveFresh principal requested s := by
  constructor
  · intro h requested
    by_cases hkept : ∃ grant,
        s.grants.find (.ofRequest principal.idpId requested) = .ok (some grant)
    · obtain ⟨grant, hgrant⟩ := hkept
      rw [AccessResolver.resolve_of_find _ _ _ hgrant, h requested grant hgrant]
    · rw [not_exists] at hkept
      exact resolve_fst_of_not_find rest admins hkept
  · intro h requested grant hgrant
    rw [← h requested, AccessResolver.resolve_of_find _ _ _ hgrant]

/-- With nothing kept a cache is coherent. -/
theorem coherent_of_empty (principal : Principal) {s : AccessState (MembershipTables × ρ)}
    (h : s.grants.entries = {}) : Coherent rest admins principal s :=
  fun _ _ hgrant => absurd hgrant (GrantCache.find_of_empty h)

/-- Resolving a request of a principal keeps its cache coherent. -/
theorem resolve_coherent {principal : Principal} {s : AccessState (MembershipTables × ρ)}
    (h : Coherent rest admins principal s) (requested : RequestedTenant) :
    Coherent rest admins principal
      ((MembershipTables.resolver rest admins).resolve principal requested s).2 := by
  rcases resolve_cases rest admins principal requested s with
    ⟨held, -, hresolve⟩ | ⟨-, t, hst, ⟨e, -, hresolve⟩ | ⟨held, hanswer, hresolve⟩⟩
  · rw [hresolve]
    exact h
  · rw [hresolve]
    intro requested' kept hfind
    rw [hst.grants] at hfind
    rw [resolveFresh_congr rest admins hst.tables]
    exact h requested' kept hfind
  · rw [hresolve]
    intro requested' kept hfind
    have hsame : ∀ grants : GrantCache, ({ t with grants } : AccessState _).world.1.Same s.world.1 :=
      fun _ => hst.tables
    rw [resolveFresh_congr rest admins (hsame _)]
    rcases GrantCache.find_insert hfind with ⟨hkey, rfl⟩ | hbefore
    · obtain ⟨-, rfl⟩ := GrantKey.ofRequest_inj.mp hkey
      rw [resolveFresh_eq_answer]
      exact hanswer
    · exact h requested' kept hbefore

end TenantAccess
