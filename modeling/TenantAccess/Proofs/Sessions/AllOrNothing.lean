import TenantAccess.Proofs.Sessions.Tandem

/-!
# A statement in a transaction of its own is all or nothing

A statement that runs in a transaction of its own is committed, or it is as if it had not been run:
whichever of the steps fails, what was opened is rolled back once, nothing is told, and the failure
that is returned is the first one.

* `Platform.transcribed`: any platform with a transcript of what is said to its sessions and
  listeners, and of the answers.  Writing it makes no difference (`Platform.transcript`).
* `Tried`: what is said for a statement in an open session.
* `AllOrNothing`: what is said for a statement in a transaction of its own.
* `executeAlone_allOrNothing`: nothing else is.
-/

namespace TenantAccess

variable {σ : Type}

/-! ### Transcripts -/

/-- What is said to the sessions and the listeners of a platform, with the answer. -/
inductive Exchange where
  /-- A session was asked for. -/
  | begun (answer : Except SessionError SessionId)
  /-- Something was asked of a session. -/
  | called (session : SessionId) (request : SessionCall)
    (answer : Except SessionError StatementOutcome)
  /-- A session was let go of. -/
  | abandoned (session : SessionId)
  /-- Listeners were told an event. -/
  | told (event : ChangeEvent)

/-- The platform with a transcript beside it. -/
def Platform.transcribed (platform : Platform σ) : Platform (σ × List Exchange) where
  store := platform.store.lift fun m world =>
    let (a, inner) := m world.1
    (a, (inner, world.2))
  sessions := {
    begin := fun world =>
      let (answer, inner) := platform.sessions.begin world.1
      (answer, (inner, world.2 ++ [.begun answer]))
    call := fun session request world =>
      let (answer, inner) := platform.sessions.call session request world.1
      (answer, (inner, world.2 ++ [.called session request answer]))
    abandon := fun session world =>
      let (a, inner) := platform.sessions.abandon session world.1
      (a, (inner, world.2 ++ [.abandoned session])) }
  audit entry world := (platform.audit entry world.1, world.2)
  emit event world := (platform.emit event world.1, world.2 ++ [.told event])

/-- A platform with a transcript is in tandem with itself without one. -/
def Platform.transcript (platform : Platform σ) : Tandem platform.transcribed platform Eq where
  Agree world inner := world.1 = inner
  Expected _ := True
  sitesFor _ _ := ⟨fun _ h => h, by rintro world _ rfl -; exact ⟨.refl Eq.refl _, rfl⟩⟩
  audit := by rintro entry world _ rfl; rfl
  emit := by rintro event world _ rfl; rfl
  begin := ⟨fun _ h => h, by rintro world _ rfl -; exact ⟨.refl Eq.refl _, rfl⟩⟩
  call _ _ _ := ⟨fun _ h => h, by rintro world _ rfl -; exact ⟨.refl Eq.refl _, rfl⟩⟩
  sitesFor_back _ _ _ := id
  audit_back _ _ := id
  emit_back _ _ := id
  call_back _ _ _ := id
  abandon_back _ _ := id

/-- The state in which nothing has been said. -/
def AccessState.transcribed (s : AccessState σ) : AccessState (σ × List Exchange) where
  world := (s.world, [])
  grants := s.grants
  sites := s.sites
  around := s.around

/-- What the state is without the transcript. -/
def AccessState.untranscribed (s : AccessState (σ × List Exchange)) : AccessState σ where
  world := s.world.1
  grants := s.grants
  sites := s.sites
  around := s.around

section transcript

variable {platform : Platform σ} {α : Type} {m : Task (σ × List Exchange) DataAccessError α}
  {m' : Task σ DataAccessError α}

/-- What is in tandem with a transcript comes to the same without one. -/
theorem untranscribed_of_alongside
    (h : platform.transcript.Alongside (OutcomesAlike (ErrorsAlike Eq)) m m')
    (s : AccessState (σ × List Exchange)) :
    m' s.untranscribed = ((m s).1, (m s).2.untranscribed) := by
  obtain ⟨hresult, hworld, hgrants, hsites, haround⟩ :=
    h.along s s.untranscribed ⟨rfl, rfl, rfl, rfl⟩ trivial
  rcases hrun : m' s.untranscribed with ⟨result, world, grants, sites, around⟩
  rw [hrun] at hresult hworld hgrants hsites haround
  rw [hresult.eq]
  cases hworld
  cases hgrants
  cases hsites
  cases haround
  rfl

end transcript

/-! ### What is said -/

/-- From one state to the other the surroundings stay, and that much is said and answered. -/
structure Exchanged (s t : AccessState (σ × List Exchange)) (exchanges : List Exchange) : Prop where
  around : t.around = s.around
  transcript : t.world.2 = s.world.2 ++ exchanges

/-- What is said in two steps is said one after the other. -/
theorem Exchanged.trans {s t u : AccessState (σ × List Exchange)} {first second : List Exchange}
    (h : Exchanged s t first) (h' : Exchanged t u second) : Exchanged s u (first ++ second) where
  around := h'.around.trans h.around
  transcript := by rw [h'.transcript, h.transcript, List.append_assoc]

section exchanges

variable (platform : Platform σ) {s t : AccessState (σ × List Exchange)}

/-- Finding out the policy of the moment says nothing to the sessions. -/
theorem current_exchanged (s : AccessState (σ × List Exchange)) :
    Exchanged s (DataAccessPolicy.current platform.transcribed s).2 [] := by
  have hreads := current_reading platform.transcribed s
  exact ⟨hreads.around, (hreads.unchanged (·.2) fun _ _ _ => rfl).trans (List.append_nil _).symm⟩

/-- A call is said with its answer, which is passed on. -/
theorem call_exchanged (session : SessionId) (request : SessionCall)
    (s : AccessState (σ × List Exchange)) :
    ∃ answer t, Transaction.call platform.transcribed session request s =
        (answer.mapError .session, t) ∧ Exchanged s t [.called session request answer] :=
  ⟨(platform.sessions.call session request s.world.1).1, _, rfl, rfl, rfl⟩

/-- The state after a session was asked for. -/
def AccessState.afterBegin {σ : Type} (platform : Platform σ) (s : AccessState σ) : AccessState σ :=
  { s with world := (platform.sessions.begin s.world).2 }

/-- A session is asked for, and a transaction is open in it if there is one. -/
theorem begin_exchanged (s : AccessState (σ × List Exchange)) :
    ∃ answer, Exchanged s (s.afterBegin platform.transcribed) [.begun answer] ∧
      Transaction.begin platform.transcribed s =
        ((answer.mapError .session).map ({ session := · }), s.afterBegin platform.transcribed) := by
  refine ⟨(platform.sessions.begin s.world.1).1, ⟨rfl, rfl⟩, ?_⟩
  unfold Transaction.begin
  rw [Task.bind_pure_apply]
  rfl

end exchanges

/-! ### A statement in an open session -/

/-- What is said for a statement in an open session, by the policy that was derived for it: nothing
without a policy; otherwise the settings of the policy and then, if they were made, the
statement. -/
inductive Tried (session : SessionId) (statement : Statement) :
    Except DataAccessError DataAccessPolicy → List Exchange →
      Except DataAccessError StatementOutcome → Prop where
  | underived (e : DataAccessError) : Tried session statement (.error e) [] (.error e)
  | unsettled (policy : DataAccessPolicy) (e : SessionError) : Tried session statement (.ok policy)
    [.called session (.settings policy.settings) (.error e)] (.error (.session e))
  | failed (policy : DataAccessPolicy) (made : StatementOutcome) (e : SessionError) :
    Tried session statement (.ok policy)
      [.called session (.settings policy.settings) (.ok made),
        .called session (.execute (Transaction.stamped policy statement)) (.error e)]
      (.error (.session e))
  | succeeded (policy : DataAccessPolicy) (made outcome : StatementOutcome) :
    Tried session statement (.ok policy)
      [.called session (.settings policy.settings) (.ok made),
        .called session (.execute (Transaction.stamped policy statement)) (.ok outcome)]
      (.ok outcome)

section statements

variable (platform : Platform σ) (statement : Statement)

/-- The policy of the moment is applied, or why that fails is returned. -/
theorem applyPolicy_cases (session : SessionId) (s : AccessState (σ × List Exchange)) :
    (∃ e t, (DataAccessPolicy.current platform.transcribed s).1 = .error e ∧
        Transaction.applyPolicy platform.transcribed session s = (.error e, t) ∧ Exchanged s t []) ∨
      ∃ policy answer t, (DataAccessPolicy.current platform.transcribed s).1 = .ok policy ∧
        Exchanged s t [.called session (.settings policy.settings) answer] ∧
        Transaction.applyPolicy platform.transcribed session s =
          ((answer.mapError .session).map fun _ => policy, t) := by
  have hsilent := current_exchanged platform s
  unfold Transaction.applyPolicy
  rcases hcurrent : DataAccessPolicy.current platform.transcribed s with ⟨e | policy, t⟩
  · rw [hcurrent] at hsilent
    exact .inl ⟨e, t, rfl, Task.bind_error hcurrent, hsilent⟩
  · rw [hcurrent] at hsilent
    obtain ⟨answer, u, hcall, hcalled⟩ :=
      call_exchanged platform session (.settings policy.settings) t
    rw [Task.bind_ok hcurrent, Task.bind_pure_apply fun _ => policy, hcall]
    exact .inr ⟨policy, answer, u, rfl, hsilent.trans hcalled, rfl⟩

/-- A statement in an open session is tried; its event is pending if it succeeded. -/
theorem execute_tried (tx : Transaction) (s : AccessState (σ × List Exchange)) :
    ∃ result tx' t exchanges,
      Transaction.execute platform.transcribed statement tx s = ((result, tx'), t) ∧
      Exchanged s t exchanges ∧ Tried tx.session statement
        (DataAccessPolicy.current platform.transcribed s).1 exchanges result ∧
      tx'.session = tx.session ∧ ∀ outcome, result = .ok outcome → tx'.pending =
        tx.pending ++ (Transaction.changeEvent? s.around statement outcome).toList := by
  have hget : (getThe Transaction : TransactionTask (σ × List Exchange) Transaction) tx s =
      ((.ok tx, tx), s) := rfl
  unfold Transaction.execute
  rw [TransactionTask.bind_ok hget]
  rcases applyPolicy_cases platform tx.session s with
    ⟨e, t, hcurrent, happly, hsilent⟩ | ⟨policy, answer, t, hcurrent, hsettings, happly⟩
  · have hfirst := TransactionTask.ofTask_apply tx happly
    rw [hcurrent]
    exact ⟨_, tx, t, [], TransactionTask.bind_error hfirst, hsilent, .underived e, rfl, nofun⟩
  rw [hcurrent]
  rcases answer with e | made
  · have hfirst := TransactionTask.ofTask_apply tx happly
    exact ⟨_, tx, t, _, TransactionTask.bind_error hfirst, hsettings, .unsettled policy e, rfl,
      nofun⟩
  rw [TransactionTask.bind_ok (TransactionTask.ofTask_apply tx happly)]
  obtain ⟨answer, u, hcall, hexecuted⟩ :=
    call_exchanged platform tx.session (.execute (Transaction.stamped policy statement)) t
  have hexchanged := hsettings.trans hexecuted
  rcases answer with e | outcome
  · have hsecond := TransactionTask.ofTask_apply tx hcall
    exact ⟨_, tx, u, _, TransactionTask.bind_error hsecond, hexchanged, .failed policy made e, rfl,
      nofun⟩
  · rw [TransactionTask.bind_ok (TransactionTask.ofTask_apply tx hcall)]
    refine ⟨_, _, u, _, rfl, hexchanged, .succeeded policy made outcome, rfl, ?_⟩
    rintro _ ⟨⟩
    rw [← hexchanged.around]

end statements

/-! ### A statement in a transaction of its own -/

/-- What is said for a statement in a transaction of its own, in given surroundings, by the policy
that was derived for it once a session was open, and what is returned. -/
inductive AllOrNothing (statement : Statement) (around : Surroundings)
    (derived : Except DataAccessError DataAccessPolicy) :
    List Exchange → Except DataAccessError StatementOutcome → Prop where
  /-- Without a session there is nothing to undo. -/
  | unopened (e : SessionError) :
    AllOrNothing statement around derived [.begun (.error e)] (.error (.session e))
  /-- What failed is rolled back, and its failure is returned whatever the answer to that is. -/
  | undone (session : SessionId) {tried : List Exchange} {e : DataAccessError}
    (rolledBack : Except SessionError StatementOutcome)
    (h : Tried session statement derived tried (.error e)) :
    AllOrNothing statement around derived
      (.begun (.ok session) :: tried ++ [.called session .rollback rolledBack]) (.error e)
  /-- A commit that fails is the failure that is returned. -/
  | uncommitted (session : SessionId) {tried : List Exchange} {outcome : StatementOutcome}
    (e : SessionError) (h : Tried session statement derived tried (.ok outcome)) :
    AllOrNothing statement around derived
      (.begun (.ok session) :: tried ++ [.called session .commit (.error e)]) (.error (.session e))
  /-- The event of the statement is told after the commit. -/
  | done (session : SessionId) {tried : List Exchange} {outcome : StatementOutcome}
    (committed : StatementOutcome) (h : Tried session statement derived tried (.ok outcome)) :
    AllOrNothing statement around derived
      (.begun (.ok session) :: tried ++ .called session .commit (.ok committed) ::
        (Transaction.changeEvent? around statement outcome).toList.map .told) (.ok outcome)

section alone

variable (platform : Platform σ)

/-- Listeners are told one event after the other. -/
theorem foldl_emit_transcribed (pending : List ChangeEvent) (world : σ × List Exchange) :
    (pending.foldl (fun world event => platform.transcribed.emit event world) world).2 =
      world.2 ++ pending.map .told := by
  induction pending generalizing world with
  | nil => simp
  | cons event pending ih =>
    rw [List.foldl_cons, ih]
    simp [Platform.transcribed]

/-- After a commit that succeeds the pending events are told. -/
theorem commit_exchanged (tx : Transaction) (s : AccessState (σ × List Exchange)) :
    ∃ answer t, Transaction.commit platform.transcribed tx s =
        ((answer.mapError .session).map fun _ => (), t) ∧
      Exchanged s t (.called tx.session .commit answer :: match answer with
        | .ok _ => tx.pending.map .told
        | .error _ => []) := by
  unfold Transaction.commit
  obtain ⟨answer, t, hcall, hcommit⟩ := call_exchanged platform tx.session .commit s
  rcases answer with e | committed
  · exact ⟨.error e, t, Task.bind_error hcall, hcommit⟩
  · refine ⟨.ok committed, _, Task.bind_ok hcall, hcommit.trans ⟨rfl, ?_⟩⟩
    exact foldl_emit_transcribed platform tx.pending t.world

/-- Rolling back is said with its answer, whatever that is. -/
theorem rollback_exchanged (tx : Transaction) (s : AccessState (σ × List Exchange)) :
    ∃ answer, Exchanged s (Transaction.rollback platform.transcribed tx s).2
      [.called tx.session .rollback answer] := by
  unfold Transaction.rollback
  obtain ⟨answer, t, hcall, hrollback⟩ := call_exchanged platform tx.session .rollback s
  rw [Task.bind_pure_apply fun _ => (), hcall]
  exact ⟨answer, hrollback⟩

variable (statement : Statement)

/-- Nothing else is said for a statement in a transaction of its own. -/
theorem executeAlone_exchanged (s : AccessState (σ × List Exchange)) :
    ∃ result t exchanges,
      Transaction.executeAlone platform.transcribed statement s = (result, t) ∧
      Exchanged s t exchanges ∧ AllOrNothing statement s.around
        (DataAccessPolicy.current platform.transcribed (s.afterBegin platform.transcribed)).1
        exchanges result := by
  obtain ⟨begun, hbegun, hbegin⟩ := begin_exchanged platform s
  rcases begun with e | session
  · exact ⟨_, _, _, executeAlone_of_error hbegin, hbegun, .unopened e⟩
  obtain ⟨result, tx, t, tried, hrun, htried, hcases, hsession, hpending⟩ :=
    execute_tried platform statement { session } (s.afterBegin platform.transcribed)
  have hsaid := hbegun.trans htried
  rw [executeAlone_of_ok hbegin hrun]
  rcases result with e | outcome
  · obtain ⟨rolledBack, hrollback⟩ := rollback_exchanged platform tx t
    rw [hsession] at hrollback
    exact ⟨_, _, _, rfl, hsaid.trans hrollback, .undone session rolledBack hcases⟩
  · obtain ⟨answer, u, hcommit, hcommitted⟩ := commit_exchanged platform tx t
    rw [hsession, hpending outcome rfl] at hcommitted
    dsimp only
    rw [hcommit]
    rcases answer with e | committed
    · exact ⟨_, u, _, rfl, hsaid.trans hcommitted, .uncommitted session e hcases⟩
    · exact ⟨_, u, _, rfl, hsaid.trans hcommitted, .done session committed hcases⟩

/-- Whatever the sessions answer, a statement in a transaction of its own is all or nothing: with a
transcript beside the platform it comes to the same as without, and the transcript says that. -/
theorem executeAlone_allOrNothing (s : AccessState σ) :
    ∃ result t,
      Transaction.executeAlone platform.transcribed statement s.transcribed = (result, t) ∧
      Transaction.executeAlone platform statement s = (result, t.untranscribed) ∧
      AllOrNothing statement s.around
        (DataAccessPolicy.current platform (s.afterBegin platform)).1 t.world.2 result := by
  obtain ⟨result, t, exchanges, hrun, hexchanged, hcases⟩ :=
    executeAlone_exchanged platform statement s.transcribed
  have hwithout := untranscribed_of_alongside (platform.transcript.executeAlone statement)
    s.transcribed
  have hcurrent := untranscribed_of_alongside platform.transcript.current
    (s.transcribed.afterBegin platform.transcribed)
  have htranscript : t.world.2 = exchanges := hexchanged.transcript
  rw [hrun] at hwithout
  rw [← congrArg Prod.fst hcurrent, ← htranscript] at hcases
  exact ⟨result, t, hrun, hwithout, hcases⟩

end alone

end TenantAccess
