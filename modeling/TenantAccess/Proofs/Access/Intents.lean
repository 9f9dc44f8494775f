import TenantAccess.Proofs.Access.Escalation

/-!
# Asking with an intent

A request for one tenant can be made with each of the three intents.  Whatever is granted with the
normal intent is granted with the system intent, and whatever is granted with that one is granted
with the elevated intent, as it is or exceeded: an escalation takes the place of a grant only to
give everything.

* `EffectiveGrant.AtMost`: one grant gives no more than another one.
* `AccessIntent.Allows`: one intent allows all that another one does.
* `MembershipTables.answer_widens`: what an intent gets, an intent that allows more gets too.
* `resolveFresh_widens`: so the normal, the system and the elevated intent come in this order.
-/

namespace TenantAccess

/-! ### Comparing grants -/

/-- The grant reaches no farther than the other one, and what it allows the other one allows. -/
structure EffectiveGrant.AtMost (grant wider : EffectiveGrant) : Prop where
  scope : wider.scope.atLeast grant.scope = true
  can : ∀ c, grant.can c = true → wider.can c = true

namespace EffectiveGrant.AtMost

/-- A grant is at most itself. -/
theorem refl (grant : EffectiveGrant) : grant.AtMost grant :=
  ⟨(Scope.atLeast_iff _ _).mpr (Nat.le_refl _), fun _ h => h⟩

/-- No grant gives more than one that is made up. -/
theorem ephemeral (grant : EffectiveGrant) (client : Option ClientId) (site : Option SiteId) :
    grant.AtMost (.ephemeral client site) where
  scope := by
    show Scope.system.atLeast grant.scope = true
    rcases grant.scope with _ | _ | _ | _ | _ | _ <;> decide
  can c _ := EffectiveGrant.ephemeral_can client site c

end EffectiveGrant.AtMost

/-! ### Comparing intents -/

/-- Memberships that allow escalation with the intent allow it with the other one, and only if it is
the normal one itself is the other one normal. -/
structure AccessIntent.Allows (intent stronger : AccessIntent) : Prop where
  escalates : ∀ records, mayEscalate records intent = true → mayEscalate records stronger = true
  normal : stronger = .normal → intent = .normal

/-- Nobody is allowed less with the system intent than with the normal one. -/
theorem AccessIntent.normal_allows_system : Allows .normal .system where
  escalates _ h := by cases h
  normal h := by cases h

/-- A membership that spans the system spans clients. -/
theorem AccessIntent.system_allows_elevated : Allows .system .elevated where
  escalates records h := by
    rw [mayEscalate_iff] at h ⊢
    obtain ⟨hsystem, -⟩ | ⟨-, record, hrecord, hscope⟩ := h
    · cases hsystem
    · refine .inl ⟨rfl, record, hrecord, ?_⟩
      rw [hscope]
      rfl
  normal h := by cases h

/-! ### What an intent gets -/

namespace MembershipTables

variable {tables : MembershipTables} {admins : List String} {principal : Principal}
  {client : Option ClientId} {site : Option SiteId} {intent stronger : AccessIntent}
  {grant : EffectiveGrant}

/-- Where an intent escalates, one that allows more does. -/
theorem byIntent_of_allows (hallows : intent.Allows stronger)
    (h : tables.byIntent principal.idpId ⟨client, site, intent⟩ = some grant) :
    tables.byIntent principal.idpId ⟨client, site, stronger⟩ = some grant := by
  obtain ⟨named, found, hnamed, hmay, hsite, rfl⟩ := byIntent_eq_some.mp h
  exact byIntent_eq_some.mpr ⟨named, found, hnamed, hallows.escalates _ hmay, hsite, rfl⟩

/-- What is granted without an escalation depends on the intent only in that a bootstrap
administrator who asks for no client needs one. -/
theorem answerTaken_of_allows (hallows : intent.Allows stronger)
    (h : tables.answerTaken admins principal ⟨client, site, intent⟩ = .ok grant) :
    tables.answerTaken admins principal ⟨client, site, stronger⟩ = .ok grant := by
  have htaken : tables.taken principal.idpId ⟨client, site, stronger⟩ =
      tables.taken principal.idpId ⟨client, site, intent⟩ := rfl
  unfold answerTaken at h ⊢
  rw [htaken]
  split at h
  · rename_i hsome
    rw [if_pos hsome]
    exact h
  · rename_i hnone
    rw [if_neg hnone]
    rcases hadmin : bootstraps admins principal ⟨client, site, intent⟩ with _ | _
    · simp [hadmin] at h
    · have hstronger : bootstraps admins principal ⟨client, site, stronger⟩ = true := by
        unfold bootstraps at hadmin ⊢
        simp only [Bool.and_eq_true, Bool.or_eq_true, decide_eq_true_eq] at hadmin ⊢
        exact ⟨hadmin.1.imp_right fun hintent hnormal => hintent (hallows.normal hnormal),
          hadmin.2⟩
      rw [hadmin, if_pos rfl] at h
      rw [hstronger, if_pos rfl]
      exact h

/-- What an intent gets, an intent that allows more gets too, as it is or exceeded. -/
theorem answer_widens (hallows : intent.Allows stronger)
    (h : tables.answer admins principal ⟨client, site, intent⟩ = .ok grant) :
    ∃ wider, tables.answer admins principal ⟨client, site, stronger⟩ = .ok wider ∧
      grant.AtMost wider := by
  have hsites := tables.siteOwned_of_answer admins principal h
  have hstronger : tables.SiteOwned ⟨client, site, stronger⟩ := hsites
  rw [tables.answer_of_siteOwned admins principal hsites] at h
  rw [tables.answer_of_siteOwned admins principal hstronger]
  rcases hescalation : tables.byIntent principal.idpId ⟨client, site, stronger⟩ with _ | wider
  · -- the weaker intent does not escalate either, so both are answered from the memberships
    rcases hweaker : tables.byIntent principal.idpId ⟨client, site, intent⟩ with _ | escalation
    · rw [hweaker] at h
      exact ⟨grant, answerTaken_of_allows hallows h, .refl grant⟩
    · rw [byIntent_of_allows hallows hweaker] at hescalation
      cases hescalation
  · obtain ⟨named, found, -, -, -, rfl⟩ := byIntent_eq_some.mp hescalation
    exact ⟨_, rfl, .ephemeral grant _ _⟩

/-- Every grant that is made up is the one that a bootstrap administrator gets. -/
theorem eq_asBootstrap {requested : RequestedTenant}
    (h : tables.answer admins principal requested = .ok grant)
    (hmade : grant.isEphemeral = true) : grant = tables.asBootstrap requested := by
  obtain ⟨-, hintent | ⟨-, -, -, hgrant⟩⟩ := answer_ephemeral.mp ⟨h, hmade⟩
  · obtain ⟨named, found, hnamed, -, hsite, rfl⟩ := byIntent_eq_some.mp hintent
    unfold asBootstrap
    rw [hnamed]
    dsimp only
    rw [hsite]
  · exact hgrant.symm

end MembershipTables

/-- Whatever the tables hold, and whichever tenant is asked for: what the normal intent gets the
system intent gets, and what that one gets the elevated intent gets, as it is or exceeded; and where
both of these escalate they get the same grant. -/
theorem resolveFresh_widens {ρ : Type} (rest : Platform ρ) (admins : List String)
    (principal : Principal) (client : Option ClientId) (site : Option SiteId)
    (s : AccessState (MembershipTables × ρ)) :
    let answer (intent : AccessIntent) :=
      (MembershipTables.resolver rest admins).resolveFresh principal ⟨client, site, intent⟩ s
    (∀ grant, answer .normal = .ok grant →
        ∃ wider, answer .system = .ok wider ∧ grant.AtMost wider) ∧
      (∀ grant, answer .system = .ok grant →
        ∃ wider, answer .elevated = .ok wider ∧ grant.AtMost wider) ∧
      ∀ ofSystem ofElevated, answer .system = .ok ofSystem → answer .elevated = .ok ofElevated →
        ofSystem.isEphemeral = true → ofElevated.isEphemeral = true → ofSystem = ofElevated := by
  simp only [resolveFresh_eq_answer]
  refine ⟨?_, ?_, ?_⟩
  · intro grant hgrant
    exact MembershipTables.answer_widens AccessIntent.normal_allows_system hgrant
  · intro grant hgrant
    exact MembershipTables.answer_widens AccessIntent.system_allows_elevated hgrant
  · intro ofSystem ofElevated hsystem helevated hmade hmade'
    rw [MembershipTables.eq_asBootstrap hsystem hmade,
      MembershipTables.eq_asBootstrap helevated hmade']
    -- the grant does not depend on the intent
    rfl

end TenantAccess
