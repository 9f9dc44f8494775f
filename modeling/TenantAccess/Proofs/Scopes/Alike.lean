import TenantAccess.Proofs.Scopes.Standing

/-!
# Operations on transactions that stand for each other

An operation is carried out on two open transactions that stand for each other.  It has the same
result on both, and they stand for each other again, or are over; where a nested scope could not be
opened, the second transaction and its ledger may be put back to what they were before.

* `Platform.Nameless`: sessions that answer the same whichever savepoint a call is about.
* `called_alike`: calls on savepoints that stand for each other.
* `Stepped`: what an operation on an open transaction comes to on both sides.
* `openNested_alike`, `releaseNested_alike`, `rollbackNested_alike`, `execute_alike`,
  `commit_alike`, `rollback_alike`, `abandon_alike`: one lemma for each operation.
-/

namespace TenantAccess

variable {σ : Type}

/-! ### Calls on savepoints -/

/-- The sessions of the platform answer a call in the same way whichever savepoint it is about. -/
def Platform.Nameless (platform : Platform σ) : Prop :=
  ∀ session request request', request.unnamed = request'.unnamed →
    platform.sessions.call session request = platform.sessions.call session request'

/-- Sessions that are not told the savepoint answer without regard to it. -/
theorem Platform.unnamed_nameless (platform : Platform σ) : platform.unnamed.Nameless := by
  intro session request request' h
  exact congrArg (platform.sessions.call session) h

variable {platform : Platform σ} {s t : AccessState (σ × Ledger)} {session : SessionId}
  {request request' : SessionCall} {draft draft' : Draft}

/-- A call on an open session that can answer it fails or succeeds as the platform says. -/
theorem call_of_open (hdraft : s.world.2.drafts session = some draft)
    (hrefusal : draft.refusal? request = none) :
    Transaction.call platform.withLedger session request s =
      match platform.sessions.call draft.inner request s.world.1 with
      | (.ok outcome, inner) =>
        (.ok outcome,
          { s with world := (inner, s.world.2.answered session draft outcome request) })
      | (.error e, inner) => (.error (.session e), { s with world := (inner, s.world.2) }) := by
  rw [call_apply]
  unfold Platform.withLedger
  dsimp only
  rw [hdraft]
  dsimp only
  rw [hrefusal]
  dsimp only
  rcases platform.sessions.call draft.inner request s.world.1 with ⟨e | outcome, inner⟩ <;> rfl

/-- The drafts of a session that is open on both sides are the same without savepoints. -/
theorem bare_eq_of_open (hst : platform.bareTandem.Along s t)
    (hdraft : s.world.2.drafts session = some draft)
    (hdraft' : t.world.2.drafts session = some draft') : draft.bare = draft'.bare := by
  rcases Ledger.drafts_of_bare_eq hst.world.2 session with
    ⟨hnone, -⟩ | ⟨first, second, hfirst, hsecond, hsame⟩
  · rw [hdraft] at hnone
    cases hnone
  · obtain rfl := Option.some.inj (hdraft.symm.trans hfirst)
    obtain rfl := Option.some.inj (hdraft'.symm.trans hsecond)
    exact hsame

/-- Calls on open sessions that differ in the savepoint only have the same answer. -/
theorem called_alike (hnameless : platform.Nameless) (hst : platform.bareTandem.Along s t)
    (hdraft : s.world.2.drafts session = some draft)
    (hdraft' : t.world.2.drafts session = some draft')
    (hrefusal : draft.refusal? request = none) (hrefusal' : draft'.refusal? request' = none)
    (hrequest : request.unnamed = request'.unnamed) :
    (∃ e s' t', Transaction.call platform.withLedger session request s = (.error e, s') ∧
        Transaction.call platform.withLedger session request' t = (.error e, t') ∧
        s'.world.2 = s.world.2 ∧ t'.world.2 = t.world.2 ∧ platform.bareTandem.Along s' t') ∨
      ∃ outcome s' t', Transaction.call platform.withLedger session request s = (.ok outcome, s') ∧
        Transaction.call platform.withLedger session request' t = (.ok outcome, t') ∧
        s'.world.2 = s.world.2.answered session draft outcome request ∧
        t'.world.2 = t.world.2.answered session draft' outcome request' ∧
        (s'.world.2.bare = t'.world.2.bare → platform.bareTandem.Along s' t') := by
  have hsame : draft.inner = draft'.inner :=
    (Draft.bare_eq_iff.mp (bare_eq_of_open hst hdraft hdraft')).1
  obtain ⟨⟨hinner, hbare⟩, hgrants, hsites, haround⟩ := hst
  rw [call_of_open hdraft hrefusal, call_of_open hdraft' hrefusal', ← hinner, ← hsame,
    ← hnameless draft.inner request request' hrequest]
  rcases platform.sessions.call draft.inner request s.world.1 with ⟨e | outcome, inner⟩
  · exact .inl ⟨_, _, _, rfl, rfl, rfl, rfl, ⟨rfl, hbare⟩, hgrants, hsites, haround⟩
  · exact .inr ⟨outcome, _, _, rfl, rfl, rfl, rfl,
      fun hafter => ⟨⟨rfl, hafter⟩, hgrants, hsites, haround⟩⟩

/-! ### Putting a policy in force -/

/-- Any surroundings are those of some frames. -/
theorem Layer.exists_surroundings (around : Surroundings) :
    ∃ layers, Layer.surroundings layers = around := by
  obtain ⟨_ | work, _ | reason⟩ := around
  · exact ⟨[], rfl⟩
  · exact ⟨[.bypass reason], rfl⟩
  · exact ⟨[.work work], rfl⟩
  · exact ⟨[.bypass reason, .work work], rfl⟩

/-- Putting the policy of the moment in force changes nothing in the ledger. -/
theorem applyPolicy_ledger (platform : Platform σ) (session : SessionId)
    (s : AccessState (σ × Ledger)) :
    SameLedger s (Transaction.applyPolicy platform.withLedger session s).2 := by
  obtain ⟨layers, hlayers⟩ := Layer.exists_surroundings s.around
  exact applyPolicy_same platform session hlayers.symm

/-- What is in tandem without savepoints comes to the same. -/
theorem same_of_alongside {α : Type} {m m' : Task (σ × Ledger) DataAccessError α}
    (h : platform.bareTandem.Alongside (OutcomesAlike (ErrorsAlike Eq)) m m')
    (hst : platform.bareTandem.Along s t) :
    (m s).1 = (m' t).1 ∧ platform.bareTandem.Along (m s).2 (m' t).2 := by
  obtain ⟨hresult, hafter⟩ := h.along s t hst trivial
  exact ⟨hresult.eq, hafter⟩

/-- A call that names no savepoint comes to the same on both sides. -/
theorem call_alike (session : SessionId) (request : SessionCall)
    (hnamed : request.isNamed = false) (hplain : request.Plain)
    (hst : platform.bareTandem.Along s t) :
    (Transaction.call platform.withLedger session request s).1 =
        (Transaction.call platform.withLedger session request t).1 ∧
      platform.bareTandem.Along (Transaction.call platform.withLedger session request s).2
        (Transaction.call platform.withLedger session request t).2 := by
  have hcalled := same_of_alongside (platform.bareTandem.asking session request hplain) hst
  unfold Transaction.call at hcalled ⊢
  rw [platform.withLedger.withoutSavepoints_call session hnamed] at hcalled
  exact hcalled

/-- Putting the policy of the moment in force comes to the same on both sides. -/
theorem applyPolicy_alike (session : SessionId) (hst : platform.bareTandem.Along s t) :
    (Transaction.applyPolicy platform.withLedger session s).1 =
        (Transaction.applyPolicy platform.withLedger session t).1 ∧
      platform.bareTandem.Along (Transaction.applyPolicy platform.withLedger session s).2
        (Transaction.applyPolicy platform.withLedger session t).2 :=
  same_of_alongside (platform.bareTandem.applyPolicy session) hst

/-! ### Operations on an open transaction -/

/-- The state with another ledger. -/
def AccessState.withWorldLedger (s : AccessState (σ × Ledger)) (ledger : Ledger) :
    AccessState (σ × Ledger) :=
  { s with world := (s.world.1, ledger) }

/-- On both sides a step on a session leaves the others alone, and leaves transactions that stand
for each other, or none. -/
structure Stepped (platform : Platform σ) (room : Nat) (session : SessionId)
    (s t : AccessState (σ × Ledger)) (opened? opened'? : Option OpenTransaction)
    (s' t' : AccessState (σ × Ledger)) : Prop where
  along : platform.bareTandem.Along s' t'
  others : ∀ other, other ≠ session → s'.world.2.drafts other = s.world.2.drafts other
  others' : ∀ other, other ≠ session → t'.world.2.drafts other = t.world.2.drafts other
  twin : Option.Rel (Twin room s'.world.2 t'.world.2) opened? opened'?

section stepped

variable {room : Nat} {opened opened' : OpenTransaction} {u v : AccessState (σ × Ledger)}
  {outcome outcome' : StatementOutcome}

/-- Nothing came of the step on either side. -/
theorem Stepped.idle (halong : platform.bareTandem.Along u v) (hledger : u.world.2 = s.world.2)
    (hledger' : v.world.2 = t.world.2) (htwin : Twin room s.world.2 t.world.2 opened opened') :
    Stepped platform room session s t (some opened) (some opened') u v where
  along := halong
  others other _ := by rw [hledger]
  others' other _ := by rw [hledger']
  twin := by
    rw [hledger, hledger']
    exact .some htwin

/-- The step was one call on either side. -/
theorem Stepped.answered (halong : platform.bareTandem.Along u v)
    (hledger : u.world.2 = s.world.2.answered session draft outcome request)
    (hledger' : v.world.2 = t.world.2.answered session draft' outcome' request')
    (htwin : Twin room (s.world.2.answered session draft outcome request)
      (t.world.2.answered session draft' outcome' request') opened opened') :
    Stepped platform room session s t (some opened) (some opened') u v where
  along := halong
  others other hne := by rw [hledger, s.world.2.drafts_answered draft outcome request hne]
  others' other hne := by rw [hledger', t.world.2.drafts_answered draft' outcome' request' hne]
  twin := by
    rw [hledger, hledger']
    exact .some htwin

end stepped

section opening

variable {tx : Transaction}

/-- Without its savepoint a nested scope is counted and nothing more. -/
theorem openNested_of_error {e : DataAccessError}
    (h : Transaction.call platform.withLedger tx.session (.savepoint tx.nextName) s =
      (.error e, t)) :
    Transaction.openNested platform.withLedger tx s = ((.error e, tx.counted), t) := by
  rcases openNested_cases platform.withLedger tx s with ⟨e', t', hcall, hopen⟩ | ⟨_, t', hcall, -⟩
  · obtain ⟨he, rfl⟩ := Prod.mk.inj (h.symm.trans hcall)
    obtain rfl := Except.error.inj he
    exact hopen
  · cases h.symm.trans hcall

/-- With its savepoint a nested scope is open if the policy of the moment can be put in force. -/
theorem openNested_of_ok {outcome : StatementOutcome}
    (h : Transaction.call platform.withLedger tx.session (.savepoint tx.nextName) s =
      (.ok outcome, t)) :
    Transaction.openNested platform.withLedger tx s =
      let ran := Transaction.applyPolicy platform.withLedger tx.session t
      ((ran.1.map fun _ => tx.nextScope, tx.counted), ran.2) := by
  rcases openNested_cases platform.withLedger tx s with ⟨_, t', hcall, -⟩ | ⟨_, t', hcall, hpolicy⟩
  · cases h.symm.trans hcall
  · obtain ⟨-, rfl⟩ := Prod.mk.inj (h.symm.trans hcall)
    rcases hpolicy with ⟨e, u, happly, hopen⟩ | ⟨policy, u, happly, hopen⟩
    · rw [hopen, happly]
      rfl
    · rw [hopen, happly]
      rfl

end opening

section twins

variable {room : Nat} {opened opened' : OpenTransaction}

/-- The second ledger may be put back to one that is the same without savepoints. -/
theorem Tandem.Along.withWorldLedger (h : platform.bareTandem.Along s t) {ledger : Ledger}
    (hbare : s.world.2.bare = ledger.bare) :
    platform.bareTandem.Along s (t.withWorldLedger ledger) :=
  ⟨⟨h.world.1, hbare⟩, h.grants, h.sites, h.around⟩

/-- A nested scope is opened on both sides, or on neither; then the second one may be put back to
what it was before. -/
theorem openNested_alike (hnameless : platform.Nameless) (hst : platform.bareTandem.Along s t)
    (h : Twin (room + 1) s.world.2 t.world.2 opened opened') :
    let ran := Transaction.openNested platform.withLedger opened.transaction s
    let ran' := Transaction.openNested platform.withLedger opened'.transaction t
    (∃ e, ran.1.1 = .error e ∧ ran'.1.1 = .error e ∧
        Stepped platform room opened.transaction.session s t (some ⟨ran.1.2, opened.scopes⟩)
          (some opened') ran.2 (ran'.2.withWorldLedger t.world.2)) ∨
      ∃ scope scope', ran.1.1 = .ok scope ∧ ran'.1.1 = .ok scope' ∧
        Stepped platform room opened.transaction.session s t
          (some ⟨ran.1.2, scope :: opened.scopes⟩) (some ⟨ran'.1.2, scope' :: opened'.scopes⟩)
          ran.2 ran'.2 := by
  obtain ⟨draft, draft', _, _, hdraft, hdraft', -⟩ := h.standing
  obtain ⟨hrefusal, hrefusal'⟩ := h.fresh hdraft hdraft'
  have hsession : opened.transaction.session = opened'.transaction.session := h.session
  have hwork := (Draft.bare_eq_iff.mp (bare_eq_of_open hst hdraft hdraft')).2
  rcases called_alike hnameless hst hdraft hdraft' hrefusal hrefusal' rfl with
    ⟨e, u, v, hcall, hcall', hledger, -, huv⟩ |
    ⟨outcome, u, v, hcall, hcall', hledger, hledger', huv⟩
  · -- there is no savepoint on either side
    rw [openNested_of_error hcall, openNested_of_error (hsession ▸ hcall')]
    refine .inl ⟨e, rfl, rfl, .idle (huv.withWorldLedger ?_) hledger rfl ?_⟩
    · rw [hledger]
      exact hst.world.2
    · exact h.leftOver hdraft (.inl hdraft)
  · have hbare : u.world.2.bare = s.world.2.bare := by
      rw [hledger, Ledger.bare_savepoint hdraft]
    have hbare' : v.world.2.bare = t.world.2.bare := by
      rw [hledger', Ledger.bare_savepoint hdraft']
    obtain ⟨hresult, hafter⟩ := applyPolicy_alike opened.transaction.session
      (huv (hbare.trans (hst.world.2.trans hbare'.symm)))
    have hmarked := (applyPolicy_ledger platform opened.transaction.session u).ledger.trans hledger
    have hmarked' :=
      (applyPolicy_ledger platform opened.transaction.session v).ledger.trans hledger'
    rw [openNested_of_ok hcall, openNested_of_ok (hsession ▸ hcall'), ← hsession]
    dsimp only
    rw [← hresult]
    rcases (Transaction.applyPolicy platform.withLedger opened.transaction.session u).1 with
      e | policy
    · -- the savepoint is left over on the first side, and undone on the second one
      refine .inl ⟨e, rfl, rfl, hafter.withWorldLedger ?_, ?_, fun _ _ => rfl, ?_⟩
      · rw [hmarked, Ledger.bare_savepoint hdraft]
        exact hst.world.2
      · intro other hne
        rw [hmarked]
        exact Ledger.drafts_put_other _ _ hne
      · refine .some (h.leftOver hdraft (.inr ?_))
        rw [hmarked]
        exact Ledger.drafts_put_self _ _ _
    · refine .inr ⟨_, _, rfl, rfl, .answered hafter hmarked hmarked' ?_⟩
      exact h.nested hdraft hdraft' hwork (Ledger.drafts_put_self _ _ _)
        (Ledger.drafts_put_self _ _ _)

/-- Releasing a nested scope is one call, which leaves the transaction as it is. -/
theorem releaseNested_apply (platform : Platform σ) (scope : NestedScope) (tx : Transaction)
    (s : AccessState σ) :
    Transaction.releaseNested platform scope tx s =
      let ran := Transaction.call platform tx.session (.release scope.name) s
      ((ran.1.map fun _ => (), tx), ran.2) := by
  have hget : (getThe Transaction : TransactionTask σ Transaction) tx s = ((.ok tx, tx), s) := rfl
  unfold Transaction.releaseNested
  rw [TransactionTask.bind_ok hget]
  rcases hcall : Transaction.call platform tx.session (.release scope.name) s with
    ⟨e | outcome, t⟩
  · exact TransactionTask.bind_error (TransactionTask.ofTask_apply tx hcall)
  · exact TransactionTask.bind_ok (TransactionTask.ofTask_apply tx hcall)

/-- Rolling a nested scope back cuts the pending events back once its savepoint was gone back to;
then the scope is released. -/
theorem rollbackNested_apply (platform : Platform σ) (scope : NestedScope) (tx : Transaction)
    (s : AccessState σ) :
    Transaction.rollbackNested platform scope tx s =
      match Transaction.call platform tx.session (.rollbackTo scope.name) s with
      | (.error e, t) => ((.error e, tx), t)
      | (.ok _, t) => Transaction.releaseNested platform scope (tx.cutBack scope.mark) t := by
  have hget : (getThe Transaction : TransactionTask σ Transaction) tx s = ((.ok tx, tx), s) := rfl
  unfold Transaction.rollbackNested
  rw [TransactionTask.bind_ok hget]
  rcases hcall : Transaction.call platform tx.session (.rollbackTo scope.name) s with
    ⟨e | outcome, t⟩
  · exact TransactionTask.bind_error (TransactionTask.ofTask_apply tx hcall)
  · rw [TransactionTask.bind_ok (TransactionTask.ofTask_apply tx hcall)]
    rfl

/-- Two steps on one session make one. -/
theorem Stepped.trans {u v u' v' : AccessState (σ × Ledger)} {session : SessionId}
    {middle? middle'? opened? opened'? : Option OpenTransaction}
    (h : Stepped platform room session s t middle? middle'? u v)
    (h' : Stepped platform room session u v opened? opened'? u' v') :
    Stepped platform room session s t opened? opened'? u' v' where
  along := h'.along
  others other hne := (h'.others other hne).trans (h.others other hne)
  others' other hne := (h'.others' other hne).trans (h.others' other hne)
  twin := h'.twin

variable {tx tx' : Transaction} {scope scope' : NestedScope} {scopes scopes' : List NestedScope}

/-- The innermost scope is released on both sides, or on neither; it is no longer used then. -/
theorem releaseNested_alike (hnameless : platform.Nameless) (hst : platform.bareTandem.Along s t)
    (hsound : s.world.2.Sound) (hsound' : t.world.2.Sound)
    (h : Twin room s.world.2 t.world.2 ⟨tx, scope :: scopes⟩ ⟨tx', scope' :: scopes'⟩) :
    let ran := Transaction.releaseNested platform.withLedger scope tx s
    let ran' := Transaction.releaseNested platform.withLedger scope' tx' t
    ran.1.1 = ran'.1.1 ∧ Stepped platform room tx.session s t
      (some ⟨ran.1.2, scopes⟩) (some ⟨ran'.1.2, scopes'⟩) ran.2 ran'.2 := by
  have hsession : tx.session = tx'.session := h.session
  obtain ⟨draft, draft', _, _, hdraft, hdraft', hstanding, hstanding', -⟩ := h.standing
  rw [releaseNested_apply, releaseNested_apply, ← hsession]
  dsimp only
  rcases called_alike hnameless hst hdraft hdraft' hstanding.refusal?.1 hstanding'.refusal?.1
    rfl with
    ⟨e, u, v, hcall, hcall', hledger, hledger', huv⟩ |
    ⟨outcome, u, v, hcall, hcall', hledger, hledger', huv⟩
  · rw [hcall, hcall']
    exact ⟨rfl, .idle huv hledger hledger' h.drop⟩
  · rw [hcall, hcall']
    have hbare : u.world.2.bare = v.world.2.bare := by
      rw [hledger, hledger', Ledger.bare_release hdraft, Ledger.bare_release hdraft']
      exact hst.world.2
    exact ⟨rfl, .answered (huv hbare) hledger hledger' (h.release hdraft hdraft'
      (hsound.draft _ _ hdraft).2 (hsound'.draft _ _ hdraft').2 outcome)⟩

/-- The innermost scope is rolled back on both sides, or on neither; it is no longer used then. -/
theorem rollbackNested_alike (hnameless : platform.Nameless) (hst : platform.bareTandem.Along s t)
    (hsound : s.world.2.Sound) (hsound' : t.world.2.Sound)
    (h : Twin room s.world.2 t.world.2 ⟨tx, scope :: scopes⟩ ⟨tx', scope' :: scopes'⟩) :
    let ran := Transaction.rollbackNested platform.withLedger scope tx s
    let ran' := Transaction.rollbackNested platform.withLedger scope' tx' t
    ran.1.1 = ran'.1.1 ∧ Stepped platform room tx.session s t
      (some ⟨ran.1.2, scopes⟩) (some ⟨ran'.1.2, scopes'⟩) ran.2 ran'.2 := by
  have hsession : tx.session = tx'.session := h.session
  obtain ⟨draft, draft', _, _, hdraft, hdraft', hstanding, hstanding', -⟩ := h.standing
  have hrefusal := hstanding.refusal?.2
  have hrefusal' := hstanding'.refusal?.2
  obtain ⟨hinner, hwork⟩ := Draft.bare_eq_iff.mp (bare_eq_of_open hst hdraft hdraft')
  rw [rollbackNested_apply, rollbackNested_apply, ← hsession]
  rcases called_alike hnameless hst hdraft hdraft' hrefusal hrefusal' rfl with
    ⟨e, u, v, hcall, hcall', hledger, hledger', huv⟩ |
    ⟨outcome, u, v, hcall, hcall', hledger, hledger', huv⟩
  · rw [hcall, hcall']
    exact ⟨rfl, .idle huv hledger hledger' h.drop⟩
  · rw [hcall, hcall']
    obtain ⟨hleft, htwin⟩ := h.rollbackTo hdraft hdraft' (hsound.draft _ _ hdraft).2
      (hsound'.draft _ _ hdraft').2 hwork outcome
    have hbare : u.world.2.bare = v.world.2.bare := by
      rw [hledger, hledger']
      exact Ledger.bare_put_alike hst.world.2 _ (Draft.bare_eq_iff.mpr ⟨hinner, hleft⟩)
    have hback := Stepped.answered (huv hbare) hledger hledger' htwin
    -- the savepoint is still there, for the scope to be released
    have hafter : u.world.2.Sound := hledger ▸ hsound.answered hdraft hrefusal outcome
    have hafter' : v.world.2.Sound := hledger' ▸ hsound'.answered hdraft' hrefusal' outcome
    have hstill : Twin room u.world.2 v.world.2 ⟨tx.cutBack scope.mark, scope :: scopes⟩
        ⟨tx'.cutBack scope'.mark, scope' :: scopes'⟩ := by
      rw [hledger, hledger']
      exact htwin
    obtain ⟨hresult, hreleased⟩ :=
      releaseNested_alike hnameless hback.along hafter hafter' hstill
    exact ⟨hresult, hback.trans hreleased⟩

/-- A statement is stamped and sent once the policy is in force; its event is pending if it
succeeded. -/
theorem execute_apply (platform : Platform σ) (statement : Statement) (tx : Transaction)
    (s : AccessState σ) :
    Transaction.execute platform statement tx s =
      match Transaction.applyPolicy platform tx.session s with
      | (.error e, t) => ((.error e, tx), t)
      | (.ok policy, t) =>
        match Transaction.call platform tx.session (.execute (Transaction.stamped policy statement))
          t with
        | (.error e, u) => ((.error e, tx), u)
        | (.ok outcome, u) =>
          ((.ok outcome, { tx with pending :=
            tx.pending ++ (Transaction.changeEvent? u.around statement outcome).toList }), u) := by
  have hget : (getThe Transaction : TransactionTask σ Transaction) tx s = ((.ok tx, tx), s) := rfl
  unfold Transaction.execute
  rw [TransactionTask.bind_ok hget]
  rcases happly : Transaction.applyPolicy platform tx.session s with ⟨e | policy, t⟩
  · exact TransactionTask.bind_error (TransactionTask.ofTask_apply tx happly)
  · rw [TransactionTask.bind_ok (TransactionTask.ofTask_apply tx happly)]
    dsimp only
    rcases hcall : Transaction.call platform tx.session
      (.execute (Transaction.stamped policy statement)) t with ⟨e | outcome, u⟩
    · exact TransactionTask.bind_error (TransactionTask.ofTask_apply tx hcall)
    · exact TransactionTask.bind_ok (TransactionTask.ofTask_apply tx hcall)

/-- A statement has the same outcome on both sides, and the same event is pending. -/
theorem execute_alike (hst : platform.bareTandem.Along s t) (statement : Statement)
    (h : Twin room s.world.2 t.world.2 opened opened') :
    let ran := Transaction.execute platform.withLedger statement opened.transaction s
    let ran' := Transaction.execute platform.withLedger statement opened'.transaction t
    ran.1.1 = ran'.1.1 ∧ Stepped platform room opened.transaction.session s t
      (some ⟨ran.1.2, opened.scopes⟩) (some ⟨ran'.1.2, opened'.scopes⟩) ran.2 ran'.2 := by
  obtain ⟨⟨session, pending, count⟩, scopes⟩ := opened
  obtain ⟨⟨session', pending', count'⟩, scopes'⟩ := opened'
  obtain rfl : session = session' := h.session
  rw [execute_apply, execute_apply]
  dsimp only
  obtain ⟨hresult, hpolicy⟩ := applyPolicy_alike session hst
  have hsame := (applyPolicy_ledger platform session s).ledger
  have hsame' := (applyPolicy_ledger platform session t).ledger
  rcases happly : Transaction.applyPolicy platform.withLedger session s with ⟨result, u⟩
  rcases happly' : Transaction.applyPolicy platform.withLedger session t with ⟨result', v⟩
  rw [happly, happly'] at hresult hpolicy
  rw [happly] at hsame
  rw [happly'] at hsame'
  obtain rfl : result = result' := hresult
  rcases result with e | policy
  · exact ⟨rfl, .idle hpolicy hsame hsame' h⟩
  · let sent := Transaction.stamped policy statement
    obtain ⟨hresult, hcalled⟩ := call_alike session (.execute sent) rfl trivial hpolicy
    dsimp only
    rcases hcall : Transaction.call platform.withLedger session (.execute sent) u with ⟨result, u'⟩
    rcases hcall' : Transaction.call platform.withLedger session (.execute sent) v with
      ⟨result', v'⟩
    rw [hcall, hcall'] at hresult hcalled
    obtain rfl : result = result' := hresult
    rcases result with e | outcome
    · exact ⟨rfl, .idle hcalled ((call_error hcall).ledger.trans hsame)
        ((call_error hcall').ledger.trans hsame') h⟩
    · obtain ⟨-, draft, hdraft, -, hledger⟩ := call_ok hcall
      obtain ⟨-, draft', hdraft', -, hledger'⟩ := call_ok hcall'
      rw [hsame] at hdraft hledger
      rw [hsame'] at hdraft' hledger'
      dsimp only
      rw [hcalled.around]
      exact ⟨rfl, .answered hcalled hledger hledger' (h.append hdraft hdraft' outcome sent _)⟩

/-- A transaction that ends on both sides leaves nothing open. -/
theorem Stepped.over {session : SessionId} {u v : AccessState (σ × Ledger)}
    (halong : platform.bareTandem.Along u v)
    (hothers : ∀ other, other ≠ session → u.world.2.drafts other = s.world.2.drafts other)
    (hothers' : ∀ other, other ≠ session → v.world.2.drafts other = t.world.2.drafts other) :
    Stepped platform room session s t none none u v :=
  ⟨halong, hothers, hothers', .none⟩

/-- Committing a transaction leaves the drafts of other sessions alone. -/
theorem commit_others (platform : Platform σ) (tx : Transaction) (s : AccessState (σ × Ledger))
    (other : SessionId) (hne : other ≠ tx.session) :
    (Transaction.commit platform.withLedger tx s).2.world.2.drafts other =
      s.world.2.drafts other := by
  obtain ⟨result, t, hrun, -, hledger⟩ := commit_ledger platform tx s
  rw [hrun]
  rcases result with e | ⟨⟩
  · exact congrArg (Ledger.drafts · other) hledger
  · obtain ⟨draft, -, hcommitted⟩ := hledger
    dsimp only
    rw [hcommitted]
    exact Ledger.drafts_put_other s.world.2 _ hne

/-- A transaction is committed on both sides, or on neither. -/
theorem commit_alike (hst : platform.bareTandem.Along s t)
    (h : Twin room s.world.2 t.world.2 opened opened') :
    let ran := Transaction.commit platform.withLedger opened.transaction s
    let ran' := Transaction.commit platform.withLedger opened'.transaction t
    ran.1 = ran'.1 ∧
      Stepped platform room opened.transaction.session s t none none ran.2 ran'.2 := by
  have hcommit : Transaction.commit platform.withLedger opened'.transaction =
      Transaction.commit platform.withLedger opened.transaction := by
    unfold Transaction.commit
    rw [h.session, h.pending]
  rw [hcommit]
  obtain ⟨hresult, halong⟩ := same_of_alongside (platform.bareTandem.commit opened.transaction) hst
  exact ⟨hresult, .over halong (commit_others platform _ s) (commit_others platform _ t)⟩

/-- Rolling a transaction back leaves the drafts of other sessions alone. -/
theorem rollback_others (platform : Platform σ) (tx : Transaction) (s : AccessState (σ × Ledger))
    (other : SessionId) (hne : other ≠ tx.session) :
    (Transaction.rollback platform.withLedger tx s).2.world.2.drafts other =
      s.world.2.drafts other := by
  obtain ⟨result, t, hrun, -, hledger | hledger⟩ := rollback_ledger platform tx s
  · rw [hrun, hledger]
  · rw [hrun, hledger]
    exact Ledger.drafts_put_other s.world.2 _ hne

/-- A transaction is rolled back on both sides, or on neither. -/
theorem rollback_alike (hst : platform.bareTandem.Along s t)
    (h : Twin room s.world.2 t.world.2 opened opened') :
    let ran := Transaction.rollback platform.withLedger opened.transaction s
    let ran' := Transaction.rollback platform.withLedger opened'.transaction t
    ran.1 = ran'.1 ∧
      Stepped platform room opened.transaction.session s t none none ran.2 ran'.2 := by
  have hrollback : Transaction.rollback platform.withLedger opened'.transaction =
      Transaction.rollback platform.withLedger opened.transaction := by
    unfold Transaction.rollback
    rw [h.session]
  rw [hrollback]
  obtain ⟨hresult, halong⟩ :=
    same_of_alongside (platform.bareTandem.rollback opened.transaction) hst
  exact ⟨hresult, .over halong (rollback_others platform _ s) (rollback_others platform _ t)⟩

/-- Letting go of a transaction leaves the drafts of other sessions alone. -/
theorem abandon_others (platform : Platform σ) (tx : Transaction) (s : AccessState (σ × Ledger))
    (other : SessionId) (hne : other ≠ tx.session) :
    (Transaction.abandon platform.withLedger tx s).2.world.2.drafts other =
      s.world.2.drafts other := by
  obtain ⟨-, hledger | hledger⟩ := abandon_ledger platform tx s
  · rw [hledger]
  · rw [hledger]
    exact Ledger.drafts_put_other s.world.2 _ hne

/-- A transaction is let go of on both sides. -/
theorem abandon_alike (hst : platform.bareTandem.Along s t)
    (h : Twin room s.world.2 t.world.2 opened opened') :
    Stepped platform room opened.transaction.session s t none none
      (Transaction.abandon platform.withLedger opened.transaction s).2
      (Transaction.abandon platform.withLedger opened'.transaction t).2 := by
  have habandon : Transaction.abandon platform.withLedger opened'.transaction =
      Transaction.abandon platform.withLedger opened.transaction := by
    unfold Transaction.abandon
    rw [h.session]
  rw [habandon]
  refine .over ?_ (abandon_others platform _ s) (abandon_others platform _ t)
  obtain ⟨⟨hinner, hbare⟩, hgrants, hsites, haround⟩ := hst
  have hworld : t.world = (s.world.1, t.world.2) := Prod.ext hinner.symm rfl
  have habandoned : SameBare
      (platform.withLedger.sessions.abandon opened.transaction.session s.world).2
      (platform.withLedger.sessions.abandon opened.transaction.session t.world).2 := by
    rw [hworld]
    exact SameBare.abandon platform _ _ hbare
  exact ⟨habandoned, hgrants, hsites, haround⟩

end twins

end TenantAccess
