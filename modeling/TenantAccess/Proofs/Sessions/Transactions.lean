import TenantAccess.Proofs.Sessions.Effects
import TenantAccess.Transaction

/-!
# What transactions ask of their sessions

The events that the operations of a transaction add to the log of its session.

* `execute_asks`: a statement is asked for right after the settings that the frames define, equal to
  the given one up to a missing owner; or nothing but the settings is, or nothing at all.
* `Quiet`: no statement is asked for. This holds of every other operation.
-/

namespace TenantAccess

variable {σ : Type} {platform : Platform σ} {s t u : AccessState σ} {session : SessionId}

/-! ### Calls -/

/-- A call changes the world only, and an error of the session is passed on as one. -/
theorem call_apply (platform : Platform σ) (session : SessionId) (request : SessionCall)
    (s : AccessState σ) :
    Transaction.call platform session request s =
      ((platform.sessions.call session request s.world).1.mapError .session,
        { s with world := (platform.sessions.call session request s.world).2 }) := rfl

/-- A transaction is begun in the session that the platform begins, with nothing pending. -/
theorem begin_apply (platform : Platform σ) (s : AccessState σ) :
    Transaction.begin platform s =
      (((platform.sessions.begin s.world).1.mapError .session).map fun session => { session },
        { s with world := (platform.sessions.begin s.world).2 }) := by
  unfold Transaction.begin
  rw [Task.bind_pure_apply]
  rfl

/-- What telling one event to listeners leaves as it is stays as it is when all are told. -/
theorem foldl_emit_unchanged {β : Type} (platform : Platform σ) (f : σ → β)
    (hemit : ∀ event world, f (platform.emit event world) = f world) (pending : List ChangeEvent)
    (world : σ) : f (pending.foldl (fun world event => platform.emit event world) world) =
      f world := by
  induction pending generalizing world with
  | nil => rfl
  | cons event pending ih => rw [List.foldl_cons, ih, hemit]

section calls

variable (log : SessionLog platform) {request : SessionCall}

/-- A call that succeeds is logged. -/
theorem call_asks_of_ok {outcome : StatementOutcome}
    (h : Transaction.call platform session request s = (.ok outcome, t)) :
    Asks log s t session [.called request] := by
  rw [call_apply] at h
  rcases hcall : platform.sessions.call session request s.world with ⟨e | outcome', world'⟩
  · rw [hcall] at h
    cases h
  · rw [hcall] at h
    obtain ⟨-, rfl⟩ := Prod.mk.inj h
    exact ⟨rfl, log.call_ok hcall⟩

/-- A call that fails may be logged. -/
theorem call_asks_of_error {e : DataAccessError}
    (h : Transaction.call platform session request s = (.error e, t)) :
    Silent log s t ∨ Asks log s t session [.called request] := by
  rw [call_apply] at h
  rcases hcall : platform.sessions.call session request s.world with ⟨e | outcome', world'⟩
  · rw [hcall] at h
    obtain ⟨-, rfl⟩ := Prod.mk.inj h
    exact (log.call_error hcall).imp (⟨rfl, ·⟩) (⟨rfl, ·⟩)
  · rw [hcall] at h
    cases h

/-- A call adds itself to the log of its session, or nothing. -/
theorem call_asks (session : SessionId) (request : SessionCall) (s : AccessState σ) :
    ∃ new, Asks log s (Transaction.call platform session request s).2 session new ∧
      (new = [] ∨ new = [.called request]) := by
  rcases hcall : Transaction.call platform session request s with ⟨e | outcome, t⟩
  · rcases call_asks_of_error log hcall with hsilent | hasks
    · exact ⟨[], hsilent.asks session, .inl rfl⟩
    · exact ⟨_, hasks, .inr rfl⟩
  · exact ⟨_, call_asks_of_ok log hcall, .inr rfl⟩

end calls

/-! ### Statements -/

/-- The sent statement is the given one, up to the parameter for its owner: where that was null, it
may have been given a client. -/
def EqualUpToOwner (given sent : Statement) : Prop :=
  sent = given ∨ ∃ target index client value, given.target = some target ∧
    target.ownerParam = some index ∧ given.params[index]? = some value ∧ value.isNull = true ∧
    sent = { given with params := given.params.set index (.uuid client) }

/-- A parameter without an owner is a null in the place for the owner. -/
theorem unownedParam?_eq_some {statement : Statement} {index : Nat}
    (h : statement.unownedParam? = some index) :
    ∃ target value, statement.target = some target ∧ target.ownerParam = some index ∧
      statement.params[index]? = some value ∧ value.isNull = true := by
  unfold Statement.unownedParam? at h
  simp only [Option.bind_eq_bind, Option.bind_eq_some_iff] at h
  obtain ⟨target, htarget, index', hindex, value, hvalue, h⟩ := h
  split at h
  · rename_i hstamps
    obtain rfl := Option.some.inj h
    exact ⟨target, value, htarget, hindex, hvalue, (Bool.and_eq_true_iff.mp hstamps).2⟩
  · cases h

/-- Stamping under a policy changes nothing but a missing owner. -/
theorem stamped_equalUpToOwner (policy : DataAccessPolicy) (statement : Statement) :
    EqualUpToOwner statement (Transaction.stamped policy statement) := by
  unfold Transaction.stamped
  rcases policy.clientId? with _ | client
  · exact .inl rfl
  · dsimp only
    unfold Statement.stampOwner
    rcases hindex : statement.unownedParam? with _ | index
    · exact .inl rfl
    · obtain ⟨target, value, htarget, howner, hvalue, hnull⟩ := unownedParam?_eq_some hindex
      exact .inr ⟨target, index, client.uuid, value, htarget, howner, hvalue, hnull, rfl⟩

/-! ### The policy and the statement -/

section execute

variable (log : SessionLog platform) {layers : List Layer}

/-- Putting the policy of the moment in force asks for the settings that the frames define. -/
theorem applyPolicy_asks (session : SessionId) (h : s.around = Layer.surroundings layers) :
    match Layer.required platform layers s with
    | .error e => ∃ t, Transaction.applyPolicy platform session s = (.error e, t) ∧ Silent log s t
    | .ok values =>
      (∃ policy t, Transaction.applyPolicy platform session s = (.ok policy, t) ∧
        Asks log s t session [.called (.settings values)]) ∨
      ∃ e t, Transaction.applyPolicy platform session s = (.error e, t) ∧
        (Silent log s t ∨ Asks log s t session [.called (.settings values)]) := by
  obtain ⟨t, hreads, hcurrent⟩ := current_reads platform h
  have hsilent := hreads.silent log
  unfold Transaction.applyPolicy
  rcases hrequired : Layer.required platform layers s with e | values
  · rw [hrequired] at hcurrent
    exact ⟨t, Task.bind_error hcurrent, hsilent⟩
  · rw [hrequired] at hcurrent
    obtain ⟨policy, hcurrent, rfl⟩ := hcurrent
    dsimp only
    rw [Task.bind_ok hcurrent]
    rcases hcall : Transaction.call platform session (.settings policy.settings) t with
      ⟨e | outcome, u⟩
    · refine .inr ⟨e, u, Task.bind_error hcall, ?_⟩
      exact (call_asks_of_error log hcall).imp hsilent.trans hsilent.trans_asks
    · refine .inl ⟨policy, u, Task.bind_ok hcall, ?_⟩
      exact hsilent.trans_asks (call_asks_of_ok log hcall)

/-- What a statement adds to the log of its session, when the frames define the settings: nothing,
or the settings, or the settings and the statement. -/
def StatementEvents (values : List Setting) (statement : Statement) (new : List SessionEvent) :
    Prop :=
  new = [] ∨ new = [.called (.settings values)] ∨
    ∃ sent, EqualUpToOwner statement sent ∧
      new = [.called (.settings values), .called (.execute sent)]

/-- A statement is asked for after the settings that the frames define; where they define none it is
refused without any event. -/
theorem execute_asks (tx : Transaction) (statement : Statement)
    (h : s.around = Layer.surroundings layers) :
    ∃ result tx' t, Transaction.execute platform statement tx s = ((result, tx'), t) ∧
      match Layer.required platform layers s with
      | .error e => result = .error e ∧ Silent log s t
      | .ok values => ∃ new, Asks log s t tx.session new ∧ StatementEvents values statement new := by
  have happly := applyPolicy_asks log tx.session h
  have hget : (getThe Transaction : TransactionTask σ Transaction) tx s = ((.ok tx, tx), s) := rfl
  unfold Transaction.execute
  rw [TransactionTask.bind_ok hget]
  rcases hrequired : Layer.required platform layers s with e | values
  · rw [hrequired] at happly
    obtain ⟨t, happly, hsilent⟩ := happly
    have hfirst := TransactionTask.ofTask_apply tx happly
    exact ⟨_, _, t, TransactionTask.bind_error hfirst, rfl, hsilent⟩
  · rw [hrequired] at happly
    rcases happly with ⟨policy, t, happly, hasks⟩ | ⟨e, t, happly, hasks⟩
    · rw [TransactionTask.bind_ok (TransactionTask.ofTask_apply tx happly)]
      have hequal := stamped_equalUpToOwner policy statement
      obtain ⟨new, hcalled, hnew⟩ :=
        call_asks log tx.session (.execute (Transaction.stamped policy statement)) t
      have hevents : StatementEvents values statement ([.called (.settings values)] ++ new) := by
        rcases hnew with rfl | rfl
        · exact .inr (.inl rfl)
        · exact .inr (.inr ⟨_, hequal, rfl⟩)
      rcases hcall : Transaction.call platform tx.session
        (.execute (Transaction.stamped policy statement)) t with ⟨e | outcome, u⟩
      · rw [hcall] at hcalled
        have hsecond := TransactionTask.ofTask_apply tx hcall
        exact ⟨_, _, u, TransactionTask.bind_error hsecond, _, hasks.trans hcalled, hevents⟩
      · rw [hcall] at hcalled
        rw [TransactionTask.bind_ok (TransactionTask.ofTask_apply tx hcall)]
        exact ⟨_, _, u, rfl, _, hasks.trans hcalled, hevents⟩
    · have hfirst := TransactionTask.ofTask_apply tx happly
      refine ⟨_, _, t, TransactionTask.bind_error hfirst, ?_⟩
      rcases hasks with hsilent | hasks
      · exact ⟨[], hsilent.asks _, .inl rfl⟩
      · exact ⟨_, hasks, .inr (.inl rfl)⟩

end execute

/-! ### Opening a nested scope -/

/-- Opening a nested scope asks for a savepoint, whose number is counted whatever comes of it, and
then puts the policy of the moment in force. -/
theorem openNested_cases (platform : Platform σ) (tx : Transaction) (s : AccessState σ) :
    let name := Transaction.savepointName (tx.savepoints + 1)
    let numbered : Transaction := { tx with savepoints := tx.savepoints + 1 }
    (∃ e t, Transaction.call platform tx.session (.savepoint name) s = (.error e, t) ∧
      Transaction.openNested platform tx s = ((.error e, numbered), t)) ∨
    ∃ outcome t, Transaction.call platform tx.session (.savepoint name) s = (.ok outcome, t) ∧
      ((∃ e u, Transaction.applyPolicy platform tx.session t = (.error e, u) ∧
          Transaction.openNested platform tx s = ((.error e, numbered), u)) ∨
        ∃ policy u, Transaction.applyPolicy platform tx.session t = (.ok policy, u) ∧
          Transaction.openNested platform tx s =
            ((.ok ⟨name, tx.pending.length⟩, numbered), u)) := by
  intro name numbered
  have hopen : Transaction.openNested platform tx s = (do
      let _ ← Transaction.ofTask (Transaction.call platform tx.session (.savepoint name))
      let _ ← Transaction.ofTask (Transaction.applyPolicy platform tx.session)
      pure ⟨name, tx.pending.length⟩ : TransactionTask σ NestedScope) numbered s := rfl
  rcases hcall : Transaction.call platform tx.session (.savepoint name) s with ⟨e | outcome, t⟩
  · have hfirst := TransactionTask.ofTask_apply numbered hcall
    exact .inl ⟨e, t, rfl, hopen.trans (TransactionTask.bind_error hfirst)⟩
  · rw [TransactionTask.bind_ok (TransactionTask.ofTask_apply numbered hcall)] at hopen
    refine .inr ⟨outcome, t, rfl, ?_⟩
    rcases happly : Transaction.applyPolicy platform tx.session t with ⟨e | policy, u⟩
    · have hsecond := TransactionTask.ofTask_apply numbered happly
      exact .inl ⟨e, u, rfl, hopen.trans (TransactionTask.bind_error hsecond)⟩
    · rw [TransactionTask.bind_ok (TransactionTask.ofTask_apply numbered happly)] at hopen
      exact .inr ⟨policy, u, rfl, hopen⟩

/-! ### Everything else -/

/-- The event is that a statement was asked for. -/
def SessionEvent.isStatement : SessionEvent → Bool
  | .called (.execute _) => true
  | _ => false

/-- From one state to the other the surroundings stay, and no statement is asked for. -/
structure Quiet (log : SessionLog platform) (s t : AccessState σ) : Prop where
  around : t.around = s.around
  events : ∀ session, ∃ new, log.events t.world session = log.events s.world session ++ new ∧
    ∀ event ∈ new, event.isStatement = false

section quiet

variable {log : SessionLog platform}

/-- Where nothing happened no statement was asked for. -/
theorem Quiet.refl (s : AccessState σ) : Quiet log s s where
  around := rfl
  events _ := ⟨[], by simp, by simp⟩

/-- Two quiet steps make one. -/
theorem Quiet.trans (h : Quiet log s t) (h' : Quiet log t u) : Quiet log s u where
  around := h'.around.trans h.around
  events := by
    intro session
    obtain ⟨new, hnew, hquiet⟩ := h.events session
    obtain ⟨new', hnew', hquiet'⟩ := h'.events session
    refine ⟨new ++ new', ?_, ?_⟩
    · rw [hnew', hnew, List.append_assoc]
    · intro event hevent
      rcases List.mem_append.mp hevent with hevent | hevent
      · exact hquiet event hevent
      · exact hquiet' event hevent

/-- A step is quiet if none of the events that it adds is a statement. -/
theorem Asks.quiet {new : List SessionEvent} (h : Asks log s t session new)
    (hnew : ∀ event ∈ new, event.isStatement = false) : Quiet log s t where
  around := h.around
  events := by
    intro other
    refine ⟨_, h.events other, ?_⟩
    split
    · exact hnew
    · simp

/-- A step without events is quiet. -/
theorem Silent.quiet (h : Silent log s t) : Quiet log s t :=
  (h.asks 0).quiet (by simp)

variable (log)

/-- A call for something else than a statement is quiet, whatever comes of it. -/
theorem call_quiet (session : SessionId) {request : SessionCall}
    (hrequest : (SessionEvent.called request).isStatement = false) (s : AccessState σ) :
    Quiet log s (Transaction.call platform session request s).2 := by
  obtain ⟨new, hasks, hnew⟩ := call_asks log session request s
  apply hasks.quiet
  intro event hevent
  rcases hnew with rfl | rfl
  · cases hevent
  · obtain rfl := List.mem_singleton.mp hevent
    exact hrequest

/-- Putting the policy of the moment in force asks for settings at most. -/
theorem applyPolicy_quiet (session : SessionId) {layers : List Layer}
    (h : s.around = Layer.surroundings layers) :
    Quiet log s (Transaction.applyPolicy platform session s).2 := by
  have happly := applyPolicy_asks log session h
  have hsettings : ∀ values, ∀ event ∈ [SessionEvent.called (.settings values)],
      event.isStatement = false := by
    intro values event hevent
    obtain rfl := List.mem_singleton.mp hevent
    rfl
  rcases hrequired : Layer.required platform layers s with e | values
  · rw [hrequired] at happly
    obtain ⟨t, happly, hsilent⟩ := happly
    rw [happly]
    exact hsilent.quiet
  · rw [hrequired] at happly
    rcases happly with ⟨policy, t, happly, hasks⟩ | ⟨e, t, happly, hsilent | hasks⟩
    · rw [happly]
      exact hasks.quiet (hsettings values)
    · rw [happly]
      exact hsilent.quiet
    · rw [happly]
      exact hasks.quiet (hsettings values)

/-! ### The other operations of a transaction -/

/-- A task is quiet if its first part is, and whatever it goes on with. -/
theorem Quiet.bind {ε α β : Type} {m : Task σ ε α} {f : α → Task σ ε β}
    (h : Quiet log s (m s).2)
    (h' : ∀ value t, m s = (.ok value, t) → Quiet log t (f value t).2) :
    Quiet log s ((m >>= f) s).2 := by
  rcases hrun : m s with ⟨e | value, t⟩
  · rw [hrun] at h
    rw [Task.bind_error hrun]
    exact h
  · rw [hrun] at h
    rw [Task.bind_ok hrun]
    exact h.trans (h' value t hrun)

/-- So is a computation on a transaction. -/
theorem Quiet.bindOn {α β : Type} {m : TransactionTask σ α} {f : α → TransactionTask σ β}
    {tx : Transaction} (h : Quiet log s (m tx s).2)
    (h' : ∀ value tx' t, m tx s = ((.ok value, tx'), t) → Quiet log t (f value tx' t).2) :
    Quiet log s ((m >>= f) tx s).2 := by
  rcases hrun : m tx s with ⟨⟨e | value, tx'⟩, t⟩
  · rw [hrun] at h
    rw [TransactionTask.bind_error hrun]
    exact h
  · rw [hrun] at h
    rw [TransactionTask.bind_ok hrun]
    exact h.trans (h' value tx' t hrun)

/-- Beginning a transaction is quiet. -/
theorem begin_quiet (s : AccessState σ) : Quiet log s (Transaction.begin platform s).2 := by
  refine Quiet.bind log ?_ fun _ _ _ => .refl _
  show Quiet log s { s with world := (platform.sessions.begin s.world).2 }
  rcases hbegin : platform.sessions.begin s.world with ⟨e | session, world'⟩
  · exact Silent.quiet ⟨rfl, log.begin_error hbegin⟩
  · refine Asks.quiet ⟨rfl, log.begin_ok hbegin⟩ ?_
    intro event hevent
    obtain rfl := List.mem_singleton.mp hevent
    rfl

/-- Opening a nested scope is quiet. -/
theorem openNested_quiet (tx : Transaction) {layers : List Layer}
    (h : s.around = Layer.surroundings layers) :
    Quiet log s (Transaction.openNested platform tx s).2 := by
  have hsavepoint : Quiet log s (Transaction.call platform tx.session
      (.savepoint (Transaction.savepointName (tx.savepoints + 1))) s).2 := call_quiet log _ rfl s
  have hpolicy : ∀ t, t.around = s.around →
      Quiet log t (Transaction.applyPolicy platform tx.session t).2 :=
    fun t haround => applyPolicy_quiet log tx.session (haround.trans h)
  rcases openNested_cases platform tx s with
    ⟨e, t, hcall, hopen⟩ | ⟨outcome, t, hcall, ⟨e, u, happly, hopen⟩ | ⟨policy, u, happly, hopen⟩⟩
  · rw [hcall] at hsavepoint
    rw [hopen]
    exact hsavepoint
  all_goals
    rw [hcall] at hsavepoint
    have happlied := hpolicy t hsavepoint.around
    rw [happly] at happlied
    rw [hopen]
    exact hsavepoint.trans happlied

/-- Releasing a nested scope is quiet. -/
theorem releaseNested_quiet (tx : Transaction) (scope : NestedScope) (s : AccessState σ) :
    Quiet log s (Transaction.releaseNested platform scope tx s).2 := by
  apply Quiet.bindOn log (.refl _)
  intro _ tx' t hget
  cases hget
  have hrelease : Quiet log s (Transaction.call platform tx.session (.release scope.name) s).2 :=
    call_quiet log _ rfl s
  exact Quiet.bindOn log hrelease fun _ _ _ _ => .refl _

/-- Rolling a nested scope back is quiet, whether or not it could be released then. -/
theorem rollbackNested_quiet (tx : Transaction) (scope : NestedScope) (s : AccessState σ) :
    Quiet log s (Transaction.rollbackNested platform scope tx s).2 := by
  apply Quiet.bindOn log (.refl _)
  intro _ tx' t hget
  cases hget
  have hback : Quiet log s (Transaction.call platform tx.session (.rollbackTo scope.name) s).2 :=
    call_quiet log _ rfl s
  apply Quiet.bindOn log hback
  intro outcome tx' t _
  exact releaseNested_quiet log { tx' with pending := tx'.pending.take scope.mark } scope t

/-- Committing a transaction is quiet. -/
theorem commit_quiet (tx : Transaction) (s : AccessState σ) :
    Quiet log s (Transaction.commit platform tx s).2 := by
  apply Quiet.bind log (call_quiet log _ rfl s)
  intro outcome t _
  exact Silent.quiet
    ⟨rfl, foldl_emit_unchanged platform log.events (fun _ _ => log.emit) tx.pending t.world⟩

/-- Rolling a transaction back is quiet. -/
theorem rollback_quiet (tx : Transaction) (s : AccessState σ) :
    Quiet log s (Transaction.rollback platform tx s).2 :=
  Quiet.bind log (call_quiet log _ rfl s) fun _ _ _ => .refl _

/-- Letting go of a transaction is quiet. -/
theorem abandon_quiet (tx : Transaction) (s : AccessState σ) :
    Quiet log s (Transaction.abandon platform tx s).2 :=
  Silent.quiet ⟨rfl, log.abandon⟩

/-! ### A statement in a transaction of its own -/

/-- Without a transaction there is no statement. -/
theorem executeAlone_of_error {statement : Statement} {e : DataAccessError}
    (h : Transaction.begin platform s = (.error e, t)) :
    Transaction.executeAlone platform statement s = (.error e, t) :=
  Task.bind_error h

/-- Once the transaction is open, the statement runs in it like any other; then it is committed or
rolled back. -/
theorem executeAlone_of_ok {statement : Statement} {tx tx' : Transaction}
    {result : Except DataAccessError StatementOutcome}
    (h : Transaction.begin platform s = (.ok tx, t))
    (hrun : Transaction.execute platform statement tx t = ((result, tx'), u)) :
    Transaction.executeAlone platform statement s =
      match result with
      | .ok outcome => ((Transaction.commit platform tx' u).1.map fun _ => outcome,
          (Transaction.commit platform tx' u).2)
      | .error e => (.error e, (Transaction.rollback platform tx' u).2) := by
  have hlift : (monadLift ((Transaction.execute platform statement).run tx) :
      Task σ DataAccessError _) t = (.ok (result, tx'), u) := by
    show (Except.ok (Transaction.execute platform statement tx t).1,
      (Transaction.execute platform statement tx t).2) = _
    rw [hrun]
  unfold Transaction.executeAlone
  rw [Task.bind_ok h, Task.bind_ok hlift]
  rcases result with e | outcome
  · rfl
  · dsimp only
    rcases hcommit : Transaction.commit platform tx' u with ⟨e | ⟨⟩, v⟩
    · exact Task.bind_error hcommit
    · exact Task.bind_ok hcommit

/-- A statement of its own is asked for like any other, and nothing but the end of the transaction
comes after it. -/
theorem executeAlone_asks (statement : Statement) {tx : Transaction} {layers : List Layer}
    (h : Transaction.begin platform s = (.ok tx, t))
    (haround : t.around = Layer.surroundings layers) :
    ∃ u, Quiet log u (Transaction.executeAlone platform statement s).2 ∧
      match Layer.required platform layers t with
      | .error e => (Transaction.executeAlone platform statement s).1 = .error e ∧ Silent log t u
      | .ok values => ∃ new, Asks log t u tx.session new ∧ StatementEvents values statement new := by
  obtain ⟨result, tx', u, hrun, hasks⟩ := execute_asks log tx statement haround
  rw [executeAlone_of_ok h hrun]
  refine ⟨u, ?_, ?_⟩
  · rcases result with e | outcome
    · exact rollback_quiet log tx' u
    · exact commit_quiet log tx' u
  · rcases hrequired : Layer.required platform layers t with e | values
    · rw [hrequired] at hasks
      obtain ⟨rfl, hsilent⟩ := hasks
      exact ⟨rfl, hsilent⟩
    · rw [hrequired] at hasks
      exact hasks

end quiet
end TenantAccess
