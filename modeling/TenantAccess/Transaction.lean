import TenantAccess.Policy

/-!
# Scoped transactions

All access to the data of tenants goes through transactions that put a policy in force before each
statement: the settings of the policy of the moment, then the statement, in which a missing owner is
stamped.  Writes that affected rows leave change events, which are told once the transaction has
been committed.  A nested scope is a savepoint: rolling it back takes back its events too.
-/

namespace TenantAccess

/-- An open transaction. -/
structure Transaction where
  session : SessionId
  /-- The events to tell after the commit. -/
  pending : List ChangeEvent := []
  /-- How many nested scopes were opened, a number of 32 bits. -/
  savepoints : UInt32 := 0
deriving Inhabited

/-- A nested scope of a transaction. -/
structure NestedScope where
  /-- The name of its savepoint. -/
  name : String
  /-- How many events were pending when it was opened. -/
  mark : Nat
deriving DecidableEq, Repr, Inhabited

/-- A computation on an open transaction that may fail; what it changed before stays changed. -/
abbrev TransactionTask (σ : Type) := ExceptT DataAccessError (StateT Transaction (Work σ))

namespace Transaction

variable {σ : Type}

/-- Ask something of a session. -/
def call (platform : Platform σ) (session : SessionId) (request : SessionCall) :
    Task σ DataAccessError StatementOutcome :=
  ExceptT.adapt .session (ExceptT.mk (Work.ofWorld (platform.sessions.call session request)))

/-- A computation that leaves the transaction itself alone. -/
def ofTask {α : Type} (m : Task σ DataAccessError α) : TransactionTask σ α :=
  ExceptT.mk (monadLift m.run)

/-- Put the policy of the moment in force in a session. -/
def applyPolicy (platform : Platform σ) (session : SessionId) :
    Task σ DataAccessError DataAccessPolicy := do
  let policy ← DataAccessPolicy.current platform
  let _ ← call platform session (.settings policy.settings)
  pure policy

/-- The statement with a missing owner stamped under a policy of a client. -/
def stamped (policy : DataAccessPolicy) (statement : Statement) : Statement :=
  match policy.clientId? with
  | some client => statement.stampOwner client
  | none => statement

/-- The event of a statement that affected rows of its target, in given surroundings. -/
def changeEvent? (around : Surroundings) (statement : Statement) (outcome : StatementOutcome) :
    Option ChangeEvent :=
  match statement.target with
  | none => none
  | some target =>
    if outcome.rowsAffected = 0 then none
    else some {
      resource := target.resource
      op := target.op
      clientId := around.grant.bind (·.clientId)
      siteId := around.grant.bind (·.siteId)
      actor := around.actor
      requestId := around.work.bind (·.metadata.requestId)
      rowsAffected := outcome.rowsAffected }

/-- Run a statement under the policy of the moment. -/
def execute (platform : Platform σ) (statement : Statement) :
    TransactionTask σ StatementOutcome := do
  let session := (← getThe Transaction).session
  let policy ← ofTask (applyPolicy platform session)
  let outcome ← ofTask (call platform session (.execute (stamped policy statement)))
  let around ← ofTask (monadLift (Work.around : Work σ Surroundings))
  let event := changeEvent? around statement outcome
  modifyThe Transaction fun tx => { tx with pending := tx.pending ++ event.toList }
  pure outcome

/-- The name of the savepoint of the nested scope with a number. -/
def savepointName (number : UInt32) : String := "inspectra_sp_" ++ toString number.toNat

/-- Open a nested scope and put the policy of the moment in force in it. -/
def openNested (platform : Platform σ) : TransactionTask σ NestedScope := do
  modifyThe Transaction fun tx => { tx with savepoints := tx.savepoints + 1 }
  let tx ← getThe Transaction
  let name := savepointName tx.savepoints
  let _ ← ofTask (call platform tx.session (.savepoint name))
  let _ ← ofTask (applyPolicy platform tx.session)
  pure ⟨name, tx.pending.length⟩

/-- Close a nested scope and keep what was done in it. -/
def releaseNested (platform : Platform σ) (scope : NestedScope) : TransactionTask σ Unit := do
  let tx ← getThe Transaction
  let _ ← ofTask (call platform tx.session (.release scope.name))

/-- Close a nested scope and take back what was done in it, its events included. -/
def rollbackNested (platform : Platform σ) (scope : NestedScope) : TransactionTask σ Unit := do
  let tx ← getThe Transaction
  let _ ← ofTask (call platform tx.session (.rollbackTo scope.name))
  modifyThe Transaction fun tx => { tx with pending := tx.pending.take scope.mark }
  releaseNested platform scope

/-- Open a transaction. -/
def begin (platform : Platform σ) : Task σ DataAccessError Transaction := do
  let session ← ExceptT.adapt .session (ExceptT.mk (Work.ofWorld platform.sessions.begin))
  pure { session }

/-- Commit a transaction, then tell its events. -/
def commit (platform : Platform σ) (tx : Transaction) : Task σ DataAccessError Unit := do
  let _ ← call platform tx.session .commit
  modify fun state =>
    { state with world := tx.pending.foldl (fun world e => platform.emit e world) state.world }

/-- Roll a transaction back; its events are not told. -/
def rollback (platform : Platform σ) (tx : Transaction) : Task σ DataAccessError Unit := do
  let _ ← call platform tx.session .rollback

/-- Let go of a transaction; the backend rolls it back as it sees fit. -/
def abandon (platform : Platform σ) (tx : Transaction) : Work σ Unit :=
  Work.ofWorld (platform.sessions.abandon tx.session)

/-- Run one statement in a transaction of its own: committed when the statement succeeds, rolled back
when it fails. -/
def executeAlone (platform : Platform σ) (statement : Statement) :
    Task σ DataAccessError StatementOutcome := do
  let tx ← begin platform
  let (result, tx) ← monadLift ((execute platform statement).run tx)
  match result with
  | .ok outcome =>
    commit platform tx
    pure outcome
  | .error e =>
    let _ ← monadLift (rollback platform tx).run
    throw e

end Transaction
end TenantAccess
