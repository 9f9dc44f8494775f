import TenantAccess.Proofs.Events.Ledger
import TenantAccess.Proofs.Sessions.Code

/-!
# What the operations of a transaction do to the ledger

Each operation is followed through its calls, whichever of them fails.  What a transaction has
pending changes only where something was carried out or taken back in the ledger.

* `Layer.event?`: the event of a statement, from the frames around its call.
* `execute_ledger`, `openNested_ledger`, `releaseNested_ledger`, `rollbackNested_ledger`: what
  happens to the ledger and to the transaction.
* `commit_ledger`, `rollback_ledger`, `abandon_ledger`: and at its end.
* `executeAlone_ledger`: a statement in a transaction of its own, from begin to end.
-/

namespace TenantAccess

variable {σ : Type} {platform : Platform σ} {s t : AccessState (σ × Ledger)} {session : SessionId}
  {layers : List Layer}

/-! ### The event of a statement -/

/-- The event of a statement with an outcome: there is one if the statement has a target and
affected rows, and it is on behalf of the innermost unit of work. -/
def Layer.event? (layers : List Layer) (statement : Statement) (outcome : StatementOutcome) :
    Option ChangeEvent :=
  match statement.target with
  | some target =>
    if 0 < outcome.rowsAffected then
      let unit? := innermostWork layers
      some {
        resource := target.resource
        op := target.op
        clientId := (unit?.bind (·.grant)).bind (·.clientId)
        siteId := (unit?.bind (·.grant)).bind (·.siteId)
        actor := (unit?.bind (·.principal)).map (·.idpId)
        requestId := unit?.bind (·.metadata.requestId)
        rowsAffected := outcome.rowsAffected }
    else none
  | none => none

/-- Within frames a transaction makes the event of a statement from what these frames set up. -/
theorem changeEvent?_surroundings (layers : List Layer) (statement : Statement)
    (outcome : StatementOutcome) :
    Transaction.changeEvent? (Layer.surroundings layers) statement outcome =
      Layer.event? layers statement outcome := by
  unfold Transaction.changeEvent? Layer.event?
  rcases statement.target with _ | target
  · rfl
  · dsimp only
    by_cases hnone : outcome.rowsAffected = 0
    · rw [if_pos hnone, if_neg (by omega)]
    · rw [if_neg hnone, if_pos (by omega)]
      rfl

/-! ### Statements -/

/-- Putting settings in force changes nothing in the ledger. -/
theorem call_settings_same (platform : Platform σ) (session : SessionId) (values : List Setting)
    (s : AccessState (σ × Ledger)) :
    SameLedger s (Transaction.call platform.withLedger session (.settings values) s).2 := by
  rcases hcall : Transaction.call platform.withLedger session (.settings values) s with
    ⟨e | outcome, t⟩
  · exact call_error hcall
  · obtain ⟨haround, draft, -, -, hledger⟩ := call_ok hcall
    exact ⟨haround, hledger⟩

/-- Putting the policy of the moment in force changes nothing in the ledger. -/
theorem applyPolicy_same (platform : Platform σ) (session : SessionId)
    (h : s.around = Layer.surroundings layers) :
    SameLedger s (Transaction.applyPolicy platform.withLedger session s).2 := by
  obtain ⟨t, hreads, hcurrent⟩ := current_reads platform.withLedger h
  unfold Transaction.applyPolicy
  rcases hrequired : Layer.required platform.withLedger layers s with e | values
  · rw [hrequired] at hcurrent
    rw [Task.bind_error hcurrent]
    exact hreads.sameLedger
  · rw [hrequired] at hcurrent
    obtain ⟨policy, hcurrent, -⟩ := hcurrent
    rw [Task.bind_ok hcurrent]
    have hsettings := call_settings_same platform session policy.settings t
    rcases hcall : Transaction.call platform.withLedger session (.settings policy.settings) t with
      ⟨e | outcome, u⟩
    · rw [hcall] at hsettings
      rw [Task.bind_error hcall]
      exact hreads.sameLedger.trans hsettings
    · rw [hcall] at hsettings
      rw [Task.bind_ok hcall]
      exact hreads.sameLedger.trans hsettings

/-- A statement that fails leaves the ledger and the transaction as they are. One that succeeds was
carried out in the session, and its event is the latest pending one. -/
theorem execute_ledger (platform : Platform σ) (tx : Transaction) (statement : Statement)
    (h : s.around = Layer.surroundings layers) :
    ∃ result tx' t, Transaction.execute platform.withLedger statement tx s = ((result, tx'), t) ∧
      t.around = s.around ∧
      match result with
      | .error _ => tx' = tx ∧ t.world.2 = s.world.2
      | .ok outcome => ∃ draft sent, s.world.2.drafts tx.session = some draft ∧
          EqualUpToOwner statement sent ∧
          t.world.2 = s.world.2.answered tx.session draft outcome (.execute sent) ∧
          tx' = { tx with
            pending := tx.pending ++ (Layer.event? layers statement outcome).toList } := by
  have hget : (getThe Transaction : TransactionTask (σ × Ledger) Transaction) tx s =
      ((.ok tx, tx), s) := rfl
  unfold Transaction.execute
  rw [TransactionTask.bind_ok hget]
  have hpolicy := applyPolicy_same platform tx.session h
  rcases happly : Transaction.applyPolicy platform.withLedger tx.session s with ⟨e | policy, t⟩
  · rw [happly] at hpolicy
    have hfirst := TransactionTask.ofTask_apply tx happly
    exact ⟨_, _, t, TransactionTask.bind_error hfirst, hpolicy.around, rfl, hpolicy.ledger⟩
  · rw [happly] at hpolicy
    rw [TransactionTask.bind_ok (TransactionTask.ofTask_apply tx happly)]
    rcases hcall : Transaction.call platform.withLedger tx.session
      (.execute (Transaction.stamped policy statement)) t with ⟨e | outcome, u⟩
    · have hsame := hpolicy.trans (call_error hcall)
      have hsecond := TransactionTask.ofTask_apply tx hcall
      exact ⟨_, _, u, TransactionTask.bind_error hsecond, hsame.around, rfl, hsame.ledger⟩
    · obtain ⟨haround, draft, hdraft, -, hledger⟩ := call_ok hcall
      rw [hpolicy.ledger] at hdraft hledger
      have haround' : u.around = s.around := haround.trans hpolicy.around
      rw [TransactionTask.bind_ok (TransactionTask.ofTask_apply tx hcall)]
      refine ⟨_, _, u, rfl, haround', draft, _, hdraft, stamped_equalUpToOwner policy statement,
        hledger, ?_⟩
      rw [← changeEvent?_surroundings, ← h, ← haround']

/-! ### Nested scopes -/

/-- Opening a nested scope makes a savepoint, or nothing. Where the policy cannot be put in force
afterwards, the savepoint is there without a scope. -/
theorem openNested_ledger (platform : Platform σ) (tx : Transaction)
    (h : s.around = Layer.surroundings layers) :
    ∃ result tx' t, Transaction.openNested platform.withLedger tx s = ((result, tx'), t) ∧
      t.around = s.around ∧ tx'.session = tx.session ∧ tx'.pending = tx.pending ∧
      (((∃ e, result = .error e) ∧ t.world.2 = s.world.2) ∨
        ∃ draft name outcome, s.world.2.drafts tx.session = some draft ∧
          draft.refusal? (.savepoint name) = none ∧
          t.world.2 = s.world.2.answered tx.session draft outcome (.savepoint name) ∧
          ∀ scope, result = .ok scope → scope = ⟨name, tx.pending.length⟩) := by
  let name := Transaction.savepointName (tx.savepoints + 1)
  rcases openNested_cases platform.withLedger tx s with
    ⟨e, t, hcall, hopen⟩ | ⟨outcome, t, hcall, hpolicy⟩
  · have hsame := call_error hcall
    exact ⟨_, _, t, hopen, hsame.around, rfl, rfl, .inl ⟨⟨e, rfl⟩, hsame.ledger⟩⟩
  · obtain ⟨haround, draft, hdraft, hrefusal, hledger⟩ := call_ok hcall
    have hsame := applyPolicy_same platform tx.session (haround.trans h)
    rcases hpolicy with ⟨e, u, happly, hopen⟩ | ⟨policy, u, happly, hopen⟩
    · rw [happly] at hsame
      refine ⟨_, _, u, hopen, hsame.around.trans haround, rfl, rfl,
        .inr ⟨draft, name, outcome, hdraft, hrefusal, hsame.ledger.trans hledger, ?_⟩⟩
      rintro scope ⟨⟩
    · rw [happly] at hsame
      refine ⟨_, _, u, hopen, hsame.around.trans haround, rfl, rfl,
        .inr ⟨draft, name, outcome, hdraft, hrefusal, hsame.ledger.trans hledger, ?_⟩⟩
      rintro scope ⟨⟩
      rfl

/-- Releasing a nested scope releases its savepoint, or does nothing. -/
theorem releaseNested_ledger (platform : Platform σ) (tx : Transaction) (scope : NestedScope)
    (s : AccessState (σ × Ledger)) :
    ∃ result t, Transaction.releaseNested platform.withLedger scope tx s = ((result, tx), t) ∧
      t.around = s.around ∧
      (t.world.2 = s.world.2 ∨
        ∃ draft outcome, s.world.2.drafts tx.session = some draft ∧
          draft.refusal? (.release scope.name) = none ∧
          t.world.2 = s.world.2.answered tx.session draft outcome (.release scope.name)) := by
  have hget : (getThe Transaction : TransactionTask (σ × Ledger) Transaction) tx s =
      ((.ok tx, tx), s) := rfl
  unfold Transaction.releaseNested
  rw [TransactionTask.bind_ok hget]
  rcases hcall : Transaction.call platform.withLedger tx.session (.release scope.name) s with
    ⟨e | outcome, t⟩
  · have hsame := call_error hcall
    have hfirst := TransactionTask.ofTask_apply tx hcall
    exact ⟨_, t, TransactionTask.bind_error hfirst, hsame.around, .inl hsame.ledger⟩
  · obtain ⟨haround, draft, hdraft, hrefusal, hledger⟩ := call_ok hcall
    have hfirst := TransactionTask.ofTask_apply tx hcall
    exact ⟨_, t, TransactionTask.bind_ok hfirst, haround,
      .inr ⟨draft, outcome, hdraft, hrefusal, hledger⟩⟩

/-- Rolling a nested scope back does nothing, or goes back to its savepoint, takes the events since
then back, and then releases the scope. -/
theorem rollbackNested_ledger (platform : Platform σ) (tx : Transaction) (scope : NestedScope)
    (s : AccessState (σ × Ledger)) :
    (∃ result t, Transaction.rollbackNested platform.withLedger scope tx s = ((result, tx), t) ∧
      SameLedger s t) ∨
      ∃ draft outcome t, s.world.2.drafts tx.session = some draft ∧
        draft.refusal? (.rollbackTo scope.name) = none ∧ t.around = s.around ∧
        t.world.2 = s.world.2.answered tx.session draft outcome (.rollbackTo scope.name) ∧
        Transaction.rollbackNested platform.withLedger scope tx s =
          Transaction.releaseNested platform.withLedger scope
            { tx with pending := tx.pending.take scope.mark } t := by
  have hget : (getThe Transaction : TransactionTask (σ × Ledger) Transaction) tx s =
      ((.ok tx, tx), s) := rfl
  unfold Transaction.rollbackNested
  rw [TransactionTask.bind_ok hget]
  rcases hcall : Transaction.call platform.withLedger tx.session (.rollbackTo scope.name) s with
    ⟨e | outcome, t⟩
  · have hfirst := TransactionTask.ofTask_apply tx hcall
    exact .inl ⟨_, t, TransactionTask.bind_error hfirst, call_error hcall⟩
  · obtain ⟨haround, draft, hdraft, hrefusal, hledger⟩ := call_ok hcall
    rw [TransactionTask.bind_ok (TransactionTask.ofTask_apply tx hcall)]
    exact .inr ⟨draft, outcome, t, hdraft, hrefusal, haround, hledger, rfl⟩

/-! ### The end of a transaction -/

/-- Telling events one after the other adds them to the history. -/
theorem foldl_tell (platform : Platform σ) (pending : List ChangeEvent) (world : σ × Ledger) :
    (pending.foldl (fun world event => platform.withLedger.emit event world) world).2 =
      { world.2 with history := world.2.history ++ pending.map .told } := by
  induction pending generalizing world with
  | nil => simp
  | cons event pending ih =>
    rw [List.foldl_cons, ih]
    simp [Platform.withLedger, Ledger.tell]

/-- A commit that fails changes nothing; after one that succeeds the pending events are told. -/
theorem commit_ledger (platform : Platform σ) (tx : Transaction) (s : AccessState (σ × Ledger)) :
    ∃ result t, Transaction.commit platform.withLedger tx s = (result, t) ∧ t.around = s.around ∧
      match result with
      | .error _ => t.world.2 = s.world.2
      | .ok () => ∃ draft, s.world.2.drafts tx.session = some draft ∧
          t.world.2 = { s.world.2.put tx.session none with
            history := s.world.2.history ++
              .committed tx.session draft.work :: tx.pending.map .told } := by
  unfold Transaction.commit
  rcases hcall : Transaction.call platform.withLedger tx.session .commit s with ⟨e | outcome, t⟩
  · have hsame := call_error hcall
    exact ⟨_, t, Task.bind_error hcall, hsame.around, hsame.ledger⟩
  · obtain ⟨haround, draft, hdraft, -, hledger⟩ := call_ok hcall
    refine ⟨_, _, Task.bind_ok hcall, haround, draft, hdraft, ?_⟩
    rw [foldl_tell, hledger]
    simp [Ledger.answered]

/-- A transaction that is rolled back leaves no work, or stays as it is. -/
theorem rollback_ledger (platform : Platform σ) (tx : Transaction) (s : AccessState (σ × Ledger)) :
    ∃ result t, Transaction.rollback platform.withLedger tx s = (result, t) ∧
      t.around = s.around ∧
      (t.world.2 = s.world.2 ∨ t.world.2 = s.world.2.put tx.session none) := by
  unfold Transaction.rollback
  rcases hcall : Transaction.call platform.withLedger tx.session .rollback s with ⟨e | outcome, t⟩
  · have hsame := call_error hcall
    exact ⟨_, t, Task.bind_error hcall, hsame.around, .inl hsame.ledger⟩
  · obtain ⟨haround, draft, hdraft, -, hledger⟩ := call_ok hcall
    exact ⟨_, t, Task.bind_ok hcall, haround, .inr hledger⟩

/-- A transaction that is let go of leaves no work, or stays as it is. -/
theorem abandon_ledger (platform : Platform σ) (tx : Transaction) (s : AccessState (σ × Ledger)) :
    (Transaction.abandon platform.withLedger tx s).2.around = s.around ∧
      ((Transaction.abandon platform.withLedger tx s).2.world.2 = s.world.2 ∨
        (Transaction.abandon platform.withLedger tx s).2.world.2 =
          s.world.2.put tx.session none) := by
  refine ⟨rfl, ?_⟩
  show (platform.withLedger.sessions.abandon tx.session s.world).2.2 = s.world.2 ∨
    (platform.withLedger.sessions.abandon tx.session s.world).2.2 = s.world.2.put tx.session none
  unfold Platform.withLedger
  dsimp only
  rcases s.world.2.drafts tx.session with _ | draft
  · exact .inl rfl
  · exact .inr rfl

/-- Beginning a transaction opens a session, or does nothing. -/
theorem begin_ledger (platform : Platform σ) (s : AccessState (σ × Ledger)) :
    ∃ result t, Transaction.begin platform.withLedger s = (result, t) ∧ t.around = s.around ∧
      match result with
      | .error _ => t.world.2 = s.world.2
      | .ok tx => tx = { session := s.world.2.opened } ∧
          ∃ inner, t.world.2 = s.world.2.opening inner := by
  refine ⟨_, _, begin_apply platform.withLedger s, rfl, ?_⟩
  unfold Platform.withLedger
  dsimp only
  rcases platform.sessions.begin s.world.1 with ⟨e | session, inner⟩
  · rfl
  · exact ⟨rfl, session, rfl⟩

section lone

variable (platform : Platform σ) (tx : Transaction) {ledger : Ledger} {draft : Draft}

/-- Nothing is left of the next transaction when it is rolled back. -/
theorem rollback_lone (hlone : ledger.Lone s.world.2)
    (hsession : tx.session = ledger.opened)
    (hopen : s.world.2.drafts ledger.opened = some draft) :
    ∃ result t, Transaction.rollback platform.withLedger tx s = (result, t) ∧
      t.around = s.around ∧ ledger.Lone t.world.2 ∧ t.world.2.history = s.world.2.history := by
  obtain ⟨result, t, hrollback, haround, hclosed⟩ := rollback_ledger platform tx s
  refine ⟨result, t, hrollback, haround, ?_⟩
  rcases hclosed with hclosed | hclosed <;> rw [hclosed]
  · exact ⟨hlone, rfl⟩
  · rw [hsession]
    exact ⟨hlone.close hopen, rfl⟩

/-- The work of the next transaction is in the history, followed by its events, if it is
committed. -/
theorem commit_lone (hlone : ledger.Lone s.world.2)
    (hsession : tx.session = ledger.opened)
    (hopen : s.world.2.drafts ledger.opened = some draft) :
    ∃ result t, Transaction.commit platform.withLedger tx s = (result, t) ∧
      t.around = s.around ∧ ledger.Lone t.world.2 ∧
      match result with
      | .error _ => t.world.2.history = s.world.2.history
      | .ok () => t.world.2.history = s.world.2.history ++
          .committed ledger.opened draft.work :: tx.pending.map .told := by
  obtain ⟨result, t, hcommit, haround, hcommitted⟩ := commit_ledger platform tx s
  refine ⟨result, t, hcommit, haround, ?_⟩
  rcases result with e | ⟨⟩
  · have hsame : t.world.2 = s.world.2 := hcommitted
    rw [hsame]
    exact ⟨hlone, rfl⟩
  · obtain ⟨found, hfound, hcommitted⟩ := hcommitted
    rw [hsession] at hfound hcommitted
    obtain rfl := Option.some.inj (hopen.symm.trans hfound)
    rw [hcommitted]
    exact ⟨hlone.commit hopen tx.pending, rfl⟩

end lone

/-- A statement in a transaction of its own uses the next session only. Where it does not succeed,
the history stays as it is; where it does, it was committed and its event was told. -/
theorem executeAlone_ledger (platform : Platform σ) (statement : Statement)
    (h : s.around = Layer.surroundings layers) :
    ∃ result t, Transaction.executeAlone platform.withLedger statement s = (result, t) ∧
      t.around = s.around ∧ s.world.2.Lone t.world.2 ∧
      match result with
      | .error _ => t.world.2.history = s.world.2.history
      | .ok outcome => ∃ number sent, EqualUpToOwner statement sent ∧
          (∀ tx opened, Transaction.begin platform.withLedger s = (.ok tx, opened) →
            tx.session = s.world.2.opened ∧ opened.world.2.written = number) ∧
          t.world.2.history = s.world.2.history ++
            .committed s.world.2.opened [⟨number, sent, outcome⟩] ::
              (Layer.event? layers statement outcome).toList.map .told := by
  obtain ⟨begun, t, hbegin, haround, hledger⟩ := begin_ledger platform s
  rcases begun with e | tx
  · refine ⟨_, t, executeAlone_of_error hbegin, haround, ?_, congrArg Ledger.history hledger⟩
    rw [hledger]
    exact ⟨fun _ _ => rfl, id⟩
  · obtain ⟨rfl, inner, hopening⟩ := hledger
    have hlone : s.world.2.Lone t.world.2 := hopening ▸ .opening _ inner
    have hself : t.world.2.drafts s.world.2.opened = some { inner } := by
      rw [hopening]
      exact Ledger.drafts_put_self _ _ _
    have hhistory : t.world.2.history = s.world.2.history := by
      rw [hopening]
      rfl
    obtain ⟨result, tx', u, hrun, haround', hexecuted⟩ :=
      execute_ledger platform { session := s.world.2.opened } statement (haround.trans h)
    rw [executeAlone_of_ok hbegin hrun]
    rcases result with e | outcome
    · -- nothing was carried out
      obtain ⟨rfl, hsame⟩ := hexecuted
      obtain ⟨rolled, v, hrollback, haround'', hlone', hhistory'⟩ :=
        rollback_lone platform { session := s.world.2.opened } (hsame ▸ hlone) rfl
          (hsame ▸ hself)
      dsimp only
      rw [hrollback]
      refine ⟨_, v, rfl, haround''.trans (haround'.trans haround), hlone', ?_⟩
      rw [hsame] at hhistory'
      exact hhistory'.trans hhistory
    · obtain ⟨draft, sent, hdraft, hequal, hanswered, rfl⟩ := hexecuted
      obtain rfl := Option.some.inj (hself.symm.trans hdraft)
      have hlone' : s.world.2.Lone u.world.2 := hanswered ▸ hlone.answered hself rfl outcome
      have hself' : u.world.2.drafts s.world.2.opened =
          some { inner, work := [⟨t.world.2.written, sent, outcome⟩] } := by
        rw [hanswered]
        exact Ledger.drafts_put_self _ _ _
      have hhistory' : u.world.2.history = s.world.2.history := by
        rw [hanswered]
        exact hhistory
      obtain ⟨ended, v, hcommit, haround'', hlone'', hcommitted⟩ :=
        commit_lone platform
          { session := s.world.2.opened,
            pending := [] ++ (Layer.event? layers statement outcome).toList }
          hlone' rfl hself'
      dsimp only
      rw [hcommit]
      refine ⟨_, v, rfl, haround''.trans (haround'.trans haround), hlone'', ?_⟩
      rw [hhistory'] at hcommitted
      rcases ended with e | ⟨⟩
      · exact hcommitted
      · refine ⟨t.world.2.written, sent, hequal, ?_, hcommitted⟩
        rintro tx opened hbegin'
        obtain ⟨hbegun, rfl⟩ := Prod.mk.inj (hbegin.symm.trans hbegin')
        obtain rfl := Except.ok.inj hbegun
        exact ⟨rfl, rfl⟩

end TenantAccess
