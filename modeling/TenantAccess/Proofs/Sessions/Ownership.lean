import TenantAccess.Proofs.Access.Returned
import TenantAccess.Proofs.Sessions.Extent

/-!
# Owners of what is written

Resources that may belong to no client are written with a parameter for the owner, and a missing
owner is stamped with the client of the grant under which the statement runs.

* `Statement.OwnerGiven`: what the caller gave for the owner.
* `SqlValue.orOwner`, `stamped_eq_set`: what becomes of it, and that nothing else becomes different.
* `Sends`: from one state to another, one statement may have been asked for in one session.
* `Attempt.Arose.sends`: it is the caller's with its owner stamped, however it came to be tried.
* `resolved_write_owner`: under a resolved grant an owner is missing in the end exactly when the
  caller gave none and the grant has no client, which is a grant of a bootstrap administrator.
* `clientless_write_sent`: such a write reaches its session without an owner.
-/

namespace TenantAccess

variable {σ τ : Type} {platform : Platform σ} {s t u : AccessState σ} {session : SessionId}
  {layers : List Layer} {grant : EffectiveGrant} {statement sent : Statement} {index : Nat}
  {value : SqlValue}

/-! ### Stamping -/

/-- The statement writes a resource that may belong to no client, and the caller gave the value for
its owner, at the place in the list of parameters. -/
structure Statement.OwnerGiven (statement : Statement) (index : Nat) (value : SqlValue) : Prop where
  target : ∃ target, statement.target = some target ∧ target.resource.stampsOwner = true ∧
    target.ownerParam = some index
  value : statement.params[index]? = some value

/-- The value, or the client, if there is one, in place of a null. -/
def SqlValue.orOwner (value : SqlValue) (client? : Option ClientId) : SqlValue :=
  match value.isNull, client? with
  | true, some client => .uuid client.uuid
  | _, _ => value

/-- There is no owner in the end when there was none and there is no client either. -/
theorem SqlValue.isNull_orOwner (value : SqlValue) (client? : Option ClientId) :
    (value.orOwner client?).isNull = true ↔ value.isNull = true ∧ client? = none := by
  unfold orOwner
  rcases hnull : value.isNull with _ | _
  · simp [hnull]
  · rcases client? with _ | client
    · simp [hnull]
    · simp [isNull]

namespace Statement.OwnerGiven

/-- The owner has to be stamped where it is null. -/
theorem unownedParam?_eq (h : statement.OwnerGiven index value) :
    statement.unownedParam? = if value.isNull then some index else none := by
  obtain ⟨⟨target, htarget, hstamps, howner⟩, hvalue⟩ := h
  simp [unownedParam?, htarget, howner, hvalue, hstamps]

/-- Putting the given value where it is changes no parameter. -/
theorem set_value (h : statement.OwnerGiven index value) :
    statement.params.set index value = statement.params := by
  obtain ⟨hindex, rfl⟩ := List.getElem?_eq_some_iff.mp h.value
  exact List.set_getElem_self hindex

/-- Under a policy the statement is the caller's, with the owner that the value and the client of
the policy come to. -/
theorem stamped_eq_set (h : statement.OwnerGiven index value) (policy : DataAccessPolicy) :
    Transaction.stamped policy statement =
      { statement with
        params := statement.params.set index (value.orOwner policy.clientId?) } := by
  have hset := h.set_value
  unfold Transaction.stamped SqlValue.orOwner
  rcases policy.clientId? with _ | client
  · simp [hset]
  · dsimp only
    unfold stampOwner
    rw [h.unownedParam?_eq]
    rcases value.isNull with _ | _
    · simp [hset]
    · rfl

end Statement.OwnerGiven

/-! ### The grant that statements run under -/

/-- The grant that decides what statements may see: that of the innermost unit of work, if this is a
request and no bypass is around. -/
def Layer.actingGrant (layers : List Layer) : Option EffectiveGrant :=
  match innermostBypass layers, innermostWork layers with
  | none, some ⟨_, _, grant, .interactive, _⟩ => grant
  | _, _ => none

/-- The policy of a grant is one of its client. -/
theorem ofGrant_clientId? {policy : DataAccessPolicy}
    (h : DataAccessPolicy.ofGrant platform grant s = (.ok policy, t)) :
    policy.clientId? = grant.clientId := by
  unfold DataAccessPolicy.ofGrant at h
  rw [Task.bind_pure_apply] at h
  rcases hsites : (SiteTrees.visibleTo platform grant s).1 with e | sites
  · rw [Task.adapt_apply, hsites] at h
    cases h
  · rw [Task.adapt_apply, hsites] at h
    cases h
    rfl

/-- So is the policy of the moment where the grant decides. -/
theorem current_clientId? {policy : DataAccessPolicy} (haround : s.around = Layer.surroundings layers)
    (hacting : Layer.actingGrant layers = some grant)
    (h : DataAccessPolicy.current platform s = (.ok policy, t)) :
    policy.clientId? = grant.clientId := by
  rw [current_apply haround] at h
  unfold Layer.actingGrant at hacting
  rcases hbypass : Layer.innermostBypass layers with _ | reason
  · rcases hwork : Layer.innermostWork layers with _ | ⟨principal, requested, held, mode, metadata⟩
    · rw [hbypass, hwork] at hacting
      cases hacting
    · rw [hbypass, hwork] at hacting h
      rcases mode with _ | job
      · obtain rfl : held = some grant := hacting
        exact ofGrant_clientId? h
      · cases hacting
  · rw [hbypass] at hacting
    cases hacting

/-- The policy that is put in force has the client of the acting grant. -/
theorem applyPolicy_clientId? {policy : DataAccessPolicy}
    (haround : s.around = Layer.surroundings layers)
    (hacting : Layer.actingGrant layers = some grant)
    (h : Transaction.applyPolicy platform session s = (.ok policy, t)) :
    policy.clientId? = grant.clientId := by
  unfold Transaction.applyPolicy at h
  rcases hcurrent : DataAccessPolicy.current platform s with ⟨e | policy', u⟩
  · rw [Task.bind_error hcurrent] at h
    cases h
  · rw [Task.bind_ok hcurrent, Task.bind_pure_apply] at h
    rcases hcall : (Transaction.call platform session (.settings policy'.settings) u).1 with e | _
    · rw [hcall] at h
      cases h
    · rw [hcall] at h
      cases h
      exact current_clientId? haround hacting hcurrent

/-! ### What is asked for -/

/-- From one state to the other no statement was asked for but the one, in the session. -/
def Sends (log : SessionLog platform) (s t : AccessState σ) (session : SessionId)
    (sent : Statement) : Prop :=
  ∀ other, ∃ new, log.events t.world other = log.events s.world other ++ new ∧
    ∀ statement, .called (.execute statement) ∈ new → other = session ∧ statement = sent

section sends

variable {log : SessionLog platform}

/-- Where no statement was asked for, none but the one was. -/
theorem Quiet.sends (h : Quiet log s t) (session : SessionId) (sent : Statement) :
    Sends log s t session sent := by
  intro other
  obtain ⟨new, hnew, hquiet⟩ := h.events other
  exact ⟨new, hnew, fun statement hstatement => nomatch hquiet _ hstatement⟩

/-- Two steps that ask for the one statement only make one. -/
theorem Sends.trans (h : Sends log s t session sent) (h' : Sends log t u session sent) :
    Sends log s u session sent := by
  intro other
  obtain ⟨new, hnew, honly⟩ := h other
  obtain ⟨new', hnew', honly'⟩ := h' other
  refine ⟨new ++ new', by rw [hnew', hnew, List.append_assoc], ?_⟩
  intro statement hstatement
  exact (List.mem_append.mp hstatement).elim (honly statement) (honly' statement)

/-- A call for the statement asks for no other. -/
theorem call_sends (log : SessionLog platform) (session : SessionId) (sent : Statement)
    (s : AccessState σ) :
    Sends log s (Transaction.call platform session (.execute sent) s).2 session sent := by
  obtain ⟨called, hasks, hcalled⟩ := call_asks log session (.execute sent) s
  refine fun other => ⟨_, hasks.events other, fun statement hstatement => ?_⟩
  split at hstatement
  · rename_i hsession
    rcases hcalled with rfl | rfl
    · cases hstatement
    · cases List.mem_singleton.mp hstatement
      exact ⟨hsession, rfl⟩
  · cases hstatement

/-- A statement that runs under a grant is asked for with the owner that the client of the grant
makes of what the caller gave. -/
theorem execute_sends (log : SessionLog platform) (tx : Transaction)
    (haround : s.around = Layer.surroundings layers)
    (hacting : Layer.actingGrant layers = some grant) (howner : statement.OwnerGiven index value) :
    Sends log s (Transaction.execute platform statement tx s).2 tx.session
      { statement with params := statement.params.set index (value.orOwner grant.clientId) } := by
  have hget : (getThe Transaction : TransactionTask σ Transaction) tx s = ((.ok tx, tx), s) := rfl
  have hsettings := applyPolicy_quiet log tx.session haround
  unfold Transaction.execute
  rw [TransactionTask.bind_ok hget]
  rcases happly : Transaction.applyPolicy platform tx.session s with ⟨e | policy, t⟩
  · rw [TransactionTask.bind_error (TransactionTask.ofTask_apply tx happly)]
    rw [happly] at hsettings
    exact hsettings.sends _ _
  · rw [TransactionTask.bind_ok (TransactionTask.ofTask_apply tx happly),
      howner.stamped_eq_set, applyPolicy_clientId? haround hacting happly]
    rw [happly] at hsettings
    refine (hsettings.sends _ _).trans ?_
    -- what comes after the call concerns the transaction alone, so the call decides, failed or not
    have hcalled := call_sends log tx.session
      { statement with params := statement.params.set index (value.orOwner grant.clientId) } t
    rcases hcall : Transaction.call platform tx.session (.execute
      { statement with params := statement.params.set index (value.orOwner grant.clientId) }) t
      with ⟨e | outcome, u⟩
    · rw [TransactionTask.bind_error (TransactionTask.ofTask_apply tx hcall)]
      rw [hcall] at hcalled
      exact hcalled
    · rw [TransactionTask.bind_ok (TransactionTask.ofTask_apply tx hcall)]
      rw [hcall] at hcalled
      exact hcalled

/-- In whichever way the statement came to be tried, nothing else was asked for meanwhile. -/
theorem Attempt.Arose.sends (log : SessionLog platform) {attempt : Attempt σ}
    (h : attempt.Arose platform)
    (haround : attempt.before.around = Layer.surroundings attempt.layers)
    (hacting : Layer.actingGrant attempt.layers = some grant)
    (howner : attempt.statement.OwnerGiven index value) :
    Sends log attempt.before attempt.after attempt.session
      { attempt.statement with
        params := attempt.statement.params.set index (value.orOwner grant.clientId) } := by
  cases h with
  | @inside tx tx' hsession hrun =>
    have hsends := execute_sends log tx haround hacting howner
    rw [hrun, hsession] at hsends
    exact hsends
  | @alone s tx hsession hbegin hrun =>
    have hsends := execute_sends log tx haround hacting howner
    rcases hexecute : Transaction.execute platform attempt.statement tx attempt.before with
      ⟨⟨e | outcome, tx'⟩, u⟩
    · rw [executeAlone_of_ok hbegin hexecute] at hrun
      obtain ⟨-, hafter⟩ := Prod.mk.inj hrun
      rw [hexecute, hsession] at hsends
      rw [← hafter]
      exact hsends.trans ((rollback_quiet log tx' u).sends _ _)
    · rw [executeAlone_of_ok hbegin hexecute] at hrun
      obtain ⟨-, hafter⟩ := Prod.mk.inj hrun
      rw [hexecute, hsession] at hsends
      rw [← hafter]
      exact hsends.trans ((commit_quiet log tx' u).sends _ _)

end sends

/-! ### Statements that code tries -/

/-- While the statement was tried, the other one was asked for in the session. -/
def Attempt.Sent (log : SessionLog platform) (attempt : Attempt σ) (session : SessionId)
    (sent : Statement) : Prop :=
  ∃ new, log.events attempt.after.world session = log.events attempt.before.world session ++ new ∧
    .called (.execute sent) ∈ new

/-- Whatever code does under a resolved grant, in a transaction or without one: a write of a
resource that may belong to no client is asked for as the caller gave it, except that a missing owner
is the client of the grant.  So an owner is missing in the end exactly when the caller gave none and
the grant has no client, and then the grant is for everything in no client at all, and was given to a
bootstrap administrator who asked with an intent and named no client. -/
theorem resolved_write_owner {resolver : AccessResolver τ} {now : AccessState τ}
    (hreached : resolver.Reached now) {principal : Principal} {requested : RequestedTenant}
    (hresolved : (resolver.resolve principal requested now).1 = .ok grant)
    (log : SessionLog platform) (code : Code) (houtside : s.around = {}) {attempt : Attempt σ}
    (htried : attempt ∈ (code.run platform {} s).1.attempts)
    (hacting : Layer.actingGrant attempt.layers = some grant)
    (howner : attempt.statement.OwnerGiven index value) (hsent : attempt.Sent log session sent) :
    session = attempt.session ∧ ∃ owner,
      sent = { attempt.statement with params := attempt.statement.params.set index owner } ∧
      (value.isNull = false → owner = value) ∧
      (∀ client, value.isNull = true → grant.clientId = some client →
        owner = .uuid client.uuid) ∧
      (owner.isNull = true ↔ value.isNull = true ∧ grant.clientId = none) ∧
      (grant.clientId = none → ∃ other, other.idpId = principal.idpId ∧
        ClientlessGrant resolver.admins other requested grant) := by
  have haround : s.around = Layer.surroundings ({} : Course σ).layers := houtside
  rcases code.exists_tries htried with hbefore | ⟨entries, htries⟩
  · cases hbefore
  · obtain ⟨new, hnew, hmem⟩ := hsent
    have hsends := htries.arose.sends log (htries.surroundings log haround) hacting howner
    obtain ⟨new', hnew', honly⟩ := hsends session
    -- the log grew in one way only, so the statement is among what may have been asked for
    rw [hnew, List.append_cancel_left_eq] at hnew'
    subst hnew'
    obtain ⟨hsession, hequal⟩ := honly sent hmem
    refine ⟨hsession, value.orOwner grant.clientId, hequal, ?_, ?_, value.isNull_orOwner _, ?_⟩
    · intro hvalue
      simp [SqlValue.orOwner, hvalue]
    · intro client hvalue hclient
      simp [SqlValue.orOwner, hvalue, hclient]
    · intro hnone
      obtain ⟨other, hidp, hclient | hlisted⟩ := hreached.resolve_gives hresolved
      · exact absurd hnone hclient
      · exact ⟨other, hidp, hlisted⟩

/-! ### Two requests of a bootstrap administrator -/

/-- A bootstrap administrator who is no member of anything. -/
def root : Principal := .unnamed ⟨"root"⟩ "root@example.org" "root"

/-- The resolver that has it on its list. -/
def resolverOfRoot : AccessResolver World := ⟨World.inMemory, ["root@example.org"]⟩

/-- Nothing is stored, and nothing has happened yet. -/
def untouched : AccessState World := { world := { listener := default } }

/-- Under a grant, a category is written without an owner. -/
def writingUnder (grant : EffectiveGrant) : Code :=
  .framed (.unit { UnitOfWork.interactive root .default {} with grant := some grant })
    (.call (.executeAlone unownedWrite) fun _ => .done) .done

/-- The category is written with a null in the place of its owner. -/
theorem unownedWrite_ownerGiven : unownedWrite.OwnerGiven 0 .nullUuid where
  target := ⟨_, rfl, rfl, rfl⟩
  value := rfl

/-- Everything in the first client. -/
def inFirstClient : EffectiveGrant := .ephemeral (some (.ofNat 1)) none

/-- Under it the category is the client's. -/
theorem resolved_write_owner_in_client :
    (resolverOfRoot.resolve root ⟨some (.ofNat 1), none, .normal⟩ untouched).1 =
        .ok inFirstClient ∧
      ∃ attempt ∈ ((writingUnder inFirstClient).run World.inMemory {} untouched).1.attempts,
        Layer.actingGrant attempt.layers = some inFirstClient ∧
        attempt.Sent World.sessionLog 1 (unownedWrite.stampOwner (.ofNat 1)) ∧
        ∃ owner, (unownedWrite.stampOwner (.ofNat 1)).params = [owner] ∧ owner.isNull = false := by
  obtain ⟨hresolved, hone, htold⟩ :
      (resolverOfRoot.resolve root ⟨some (.ofNat 1), none, .normal⟩ untouched).1 =
          .ok inFirstClient ∧
        ((writingUnder inFirstClient).run World.inMemory {} untouched).1.attempts.length = 1 ∧
        ((writingUnder inFirstClient).run World.inMemory {} untouched).1.attempts.map
            (fun attempt => (Layer.actingGrant attempt.layers, attempt.statement,
              World.sessionLog.events attempt.before.world 1,
              World.sessionLog.events attempt.after.world 1)) =
          [(some inFirstClient, unownedWrite, [.begun],
            [.begun, .called (.settings (Layer.rowPolicyInputs inFirstClient .all)),
              .called (.execute (unownedWrite.stampOwner (.ofNat 1))), .called .commit])] := by
    refine ⟨?_, ?_, ?_⟩ <;> cbv
  obtain ⟨attempt, hattempt⟩ := List.length_eq_one_iff.mp hone
  have htried :
      attempt ∈ ((writingUnder inFirstClient).run World.inMemory {} untouched).1.attempts := by
    rw [hattempt]
    exact List.mem_singleton_self attempt
  rw [hattempt] at htold
  simp only [List.map_cons, List.map_nil, List.cons.injEq, Prod.mk.injEq, and_true] at htold
  obtain ⟨hacting, hstatement, hbefore, hafter⟩ := htold
  have howner : attempt.statement.OwnerGiven 0 .nullUuid := by
    rw [hstatement]
    exact unownedWrite_ownerGiven
  have hsent : attempt.Sent World.sessionLog 1 (unownedWrite.stampOwner (.ofNat 1)) := by
    refine ⟨_, hafter.trans (by rw [hbefore]; rfl), ?_⟩
    simp
  obtain ⟨-, owner, hequal, -, -, hmissing, -⟩ := resolved_write_owner (.fresh rfl) hresolved
    World.sessionLog (writingUnder inFirstClient) rfl htried hacting howner hsent
  refine ⟨hresolved, attempt, htried, hacting, hsent, owner, ?_, ?_⟩
  · rw [hequal, hstatement]
    rfl
  · rw [Bool.eq_false_iff]
    intro hnull
    cases (hmissing.mp hnull).2

/-- A bootstrap administrator who asks with an intent, but for no client, is given everything in no
client at all, and under this grant a category is written that belongs to no client. -/
theorem clientless_write_sent :
    (resolverOfRoot.resolve root ⟨none, none, .elevated⟩ untouched).1 =
        .ok (.ephemeral none none) ∧
      World.sessionLog.events
          ((writingUnder (.ephemeral none none)).run World.inMemory {} untouched).2.world 1 =
        [.begun, .called (.settings (Layer.rowPolicyInputs (.ephemeral none none) .all)),
          .called (.execute unownedWrite), .called .commit] ∧
      unownedWrite.OwnerGiven 0 .nullUuid ∧ SqlValue.nullUuid.isNull = true := by
  refine ⟨?_, ?_, unownedWrite_ownerGiven, rfl⟩
  · cbv
  · cbv

end TenantAccess
