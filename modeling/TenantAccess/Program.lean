import TenantAccess.Frame
import TenantAccess.Resolution
import TenantAccess.Transaction

/-!
# Programs

What code does with the access layer, as data: it resolves grants, runs statements, and nests units
of work, bypasses, jobs, transactions and nested scopes in each other.  Instructions of other kinds
come from outside.  A run gives a report of each step.
-/

namespace TenantAccess

/-- Where a unit of work has its grant from. -/
inductive GrantSource where
  | given (grant : EffectiveGrant)
  /-- The latest grant that was resolved, if there is one. -/
  | latest
deriving DecidableEq, Inhabited

/-- How a transaction ends. -/
inductive TransactionEnd where
  | commit
  | rollback
  /-- Nobody ends it. -/
  | abandon
deriving DecidableEq, Repr, Inhabited

/-- How a nested scope ends. -/
inductive ScopeEnd where
  | release
  | rollback
  /-- Nobody ends it; it stays open to the end of the transaction. -/
  | abandon
deriving DecidableEq, Repr, Inhabited

/-- A step of a program, with other instructions in `ι`. -/
inductive Step (ι : Type) where
  | instruction (instruction : ι)
  | resolve (principal : Principal) (requested : RequestedTenant)
  /-- Run a statement in the innermost transaction, or else in one of its own. -/
  | execute (statement : Statement)
  | unit (work : UnitOfWork) (grant : Option GrantSource) (body : List (Step ι))
  | bypass (reason : String) (body : List (Step ι))
  | job (name : String) (body : List (Step ι))
  | transaction (body : List (Step ι)) (ending : TransactionEnd)
  | nested (body : List (Step ι)) (ending : ScopeEnd)

instance {ι : Type} [Inhabited ι] : Inhabited (Step ι) := ⟨.instruction default⟩

/-- The report of a step, with answers of other instructions in `ρ` and observations in `ο`. -/
inductive Report (ρ ο : Type) where
  | instruction (answer : ρ) (seen : ο)
  | resolved (result : Except AccessError EffectiveGrant) (seen : ο)
  | executed (result : Except DataAccessError StatementOutcome) (seen : ο)
  | unit (body : List (Report ρ ο))
  /-- A bypass or a job. -/
  | framed (body : List (Report ρ ο)) (seen : ο)
  /-- A transaction or a nested scope that could not be opened. -/
  | notOpened (error : DataAccessError) (seen : ο)
  /-- A transaction or a nested scope; the latter has a name. A scope that nobody ended has no
  result. -/
  | opened (name : Option String) (seenFirst : ο) (body : List (Report ρ ο))
      (result : Option (Except DataAccessError Unit)) (seenLast : ο)
  /-- A nested scope outside of any transaction. -/
  | misplaced

/-- What a run has at hand, apart from the state. -/
structure RunState where
  /-- The innermost transaction. -/
  transaction : Option Transaction := none
  /-- The latest grant that was resolved. -/
  latest : Option EffectiveGrant := none
deriving Inhabited

/-- A computation in a run. -/
abbrev Run (σ : Type) := StateT RunState (Work σ)

namespace Run

variable {σ α : Type}

/-- Run inside a frame. -/
def framed (frame : Work σ (α × RunState) → Work σ (α × RunState)) (m : Run σ α) : Run σ α :=
  fun state => frame (m state)

/-- The grant of a source. -/
def grantOf (source : GrantSource) : Run σ (Option EffectiveGrant) := do
  match source with
  | .given grant => return some grant
  | .latest => return (← get).latest

/-- Remember a resolved grant. -/
def remember (result : Except AccessError EffectiveGrant) : Run σ Unit :=
  match result with
  | .ok grant => modify fun state => { state with latest := some grant }
  | .error _ => pure ()

/-- A computation on the innermost transaction; nothing outside of any transaction. -/
def inTransaction? (m : TransactionTask σ α) : Run σ (Option (Except DataAccessError α)) := do
  match (← get).transaction with
  | none => return none
  | some transaction =>
    let (result, transaction) ← liftM (m.run.run transaction)
    modify fun state => { state with transaction := some transaction }
    return some result

/-- Run a statement in the innermost transaction, or else in one of its own. -/
def execute (platform : Platform σ) (statement : Statement) :
    Run σ (Except DataAccessError StatementOutcome) := do
  match ← inTransaction? (Transaction.execute platform statement) with
  | some result => return result
  | none => liftM (Transaction.executeAlone platform statement).run

/-- End a transaction. -/
def endTransaction (platform : Platform σ) (transaction : Transaction) :
    TransactionEnd → Work σ (Option (Except DataAccessError Unit))
  | .commit => some <$> (transaction.commit platform).run
  | .rollback => some <$> (transaction.rollback platform).run
  | .abandon => do
    transaction.abandon platform
    return none

/-- End a nested scope of the innermost transaction. -/
def endNested (platform : Platform σ) (scope : NestedScope) :
    ScopeEnd → Run σ (Option (Except DataAccessError Unit))
  | .release => inTransaction? (Transaction.releaseNested platform scope)
  | .rollback => inTransaction? (Transaction.rollbackNested platform scope)
  | .abandon => return none

/-- Run with a transaction as the innermost one, and return to the one around it. The result comes
with the transaction as it has become. -/
def withTransaction (transaction : Transaction) (m : Run σ α) : Run σ (α × Transaction) := do
  let before := (← get).transaction
  modify fun state => { state with transaction := some transaction }
  let a ← m
  let after := (← get).transaction.getD transaction
  modify fun state => { state with transaction := before }
  return (a, after)

end Run

/-- What runs programs: a resolver, the meaning of other instructions, and what is to be seen after
a step. -/
structure Runner (σ ι ρ ο : Type) where
  resolver : AccessResolver σ
  perform : ι → Run σ ρ
  observe : Work σ ο

namespace Runner

variable {σ ι ρ ο : Type}

mutual

/-- Run a step. -/
def step (runner : Runner σ ι ρ ο) : Step ι → Run σ (Report ρ ο)
  | .instruction instruction => do
    let answer ← runner.perform instruction
    return .instruction answer (← runner.observe)
  | .resolve principal requested => do
    let result ← runner.resolver.resolve principal requested
    Run.remember result
    return .resolved result (← runner.observe)
  | .execute statement => do
    let result ← Run.execute runner.resolver.platform statement
    return .executed result (← runner.observe)
  | .unit work source body => do
    let grant ← match source with
      | none => pure none
      | some source => Run.grantOf source
    return .unit (← Run.framed (Work.withWork { work with grant }) (runner.steps body))
  | .bypass reason body => do
    let reports ← Run.framed (Work.bypassing runner.resolver.platform reason) (runner.steps body)
    return .framed reports (← runner.observe)
  | .job name body => do
    let reports ← Run.framed (Work.asJob runner.resolver.platform name) (runner.steps body)
    return .framed reports (← runner.observe)
  | .transaction body ending => do
    match ← liftM (Transaction.begin runner.resolver.platform).run with
    | .error e => return .notOpened e (← runner.observe)
    | .ok transaction =>
      let seenFirst ← runner.observe
      let (reports, transaction) ← Run.withTransaction transaction (runner.steps body)
      let result ← Run.endTransaction runner.resolver.platform transaction ending
      return .opened none seenFirst reports result (← runner.observe)
  | .nested body ending => do
    match ← Run.inTransaction? (Transaction.openNested runner.resolver.platform) with
    | none => return .misplaced
    | some (.error e) => return .notOpened e (← runner.observe)
    | some (.ok scope) =>
      let seenFirst ← runner.observe
      let reports ← runner.steps body
      let result ← Run.endNested runner.resolver.platform scope ending
      return .opened (some scope.name) seenFirst reports result (← runner.observe)

/-- Run steps, one after the other. -/
def steps (runner : Runner σ ι ρ ο) : List (Step ι) → Run σ (List (Report ρ ο))
  | [] => return []
  | first :: rest => do
    let report ← runner.step first
    return report :: (← runner.steps rest)

end

end Runner
end TenantAccess
