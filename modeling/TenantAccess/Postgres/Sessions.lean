import TenantAccess.Postgres.Pool
import TenantAccess.Session

/-!
# Sessions on a PostgreSQL server

Sessions as transactions of a PostgreSQL server.  Settings are made for the transaction only, so a
connection carries none of them over to its next user.  The rows of a query are fetched as documents.
-/

namespace TenantAccess.Postgres

/-- The failure as an error of an operation on a session. -/
def Failure.inSession (operation : String) : Failure → SessionError
  | refused code explanation =>
    .database (operation ++ " failed (" ++ code ++ "): " ++ explanation)
  | closed => .database ("connection pool closed in " ++ operation)
  | broken => .database ("sqlx error in " ++ operation)

namespace Request

/-- The placeholder of a parameter, counted from one. -/
def placeholder (index : Nat) : String := "$" ++ toString index

/-- The calls that make settings, the first one's value having the given placeholder before it. -/
def settingCalls : Nat → List Setting → List String
  | _, [] => []
  | bound, _ :: rest =>
    ("set_config(" ++ placeholder (bound + 1) ++ ", " ++ placeholder (bound + 2) ++ ", true)")
      :: settingCalls (bound + 2) rest

/-- The request that makes settings for the rest of the transaction. -/
def ofSettings (values : List Setting) : Request where
  text := "SELECT " ++ ", ".intercalate (settingCalls 0 values)
  params := values.flatMap fun setting => [.text setting.name, .text setting.value]

/-- A statement without blanks around it and without the semicolons at its end. -/
def body (sql : String) : String :=
  String.ofList ((Text.trimChars sql.toList).reverse.dropWhile (· = ';')).reverse

/-- The request that runs a statement. -/
def ofStatement (statement : Statement) : Request where
  text := match statement.kind with
    | .query => "WITH q AS (" ++ body statement.sql ++ ") SELECT to_jsonb(q) AS row FROM q"
    | .execute => body statement.sql
  params := statement.params.map Datum.ofParam

end Request

/-- The outcome that an answer to a statement stands for. -/
def Reply.outcome (kind : StatementKind) (reply : Reply) : Except Failure StatementOutcome :=
  match kind with
  | .execute => .ok { rowsAffected := reply.affected }
  | .query =>
    match reply.rows.mapM fun row => Row.required row "row" Datum.jsonb? with
    | some rows => .ok { rowsAffected := rows.length, rows }
    | none => .error .broken

namespace Pool

variable {σ : Type}

/-- Send a request whose answer tells nothing. -/
def sendPlain (pool : Pool σ) (connection : Connection) (operation : String)
    (request : Request) : StateM σ (Except SessionError StatementOutcome) := do
  match ← pool.send connection request with
  | .ok _ => return .ok {}
  | .error e => return .error (e.inSession operation)

/-- Send a command about a savepoint. -/
def sendSavepoint (pool : Pool σ) (connection : Connection) (operation command : String)
    (name : String) : StateM σ (Except SessionError StatementOutcome) :=
  match checkSavepointName name with
  | .error e => return .error e
  | .ok () => pool.sendPlain connection operation { text := command ++ " " ++ name }

/-- Run a statement. -/
def sendStatement (pool : Pool σ) (connection : Connection) (statement : Statement) :
    StateM σ (Except SessionError StatementOutcome) := do
  match ← pool.send connection (.ofStatement statement) with
  | .error e => return .error (e.inSession statement.kind.text)
  | .ok reply => return (reply.outcome statement.kind).mapError (·.inSession statement.kind.text)

/-- The backend whose sessions are the transactions of the pool. -/
def sessions (pool : Pool σ) : SessionBackend σ where
  begin := do return (← pool.begin).mapError (·.inSession "begin")
  call connection
    | .settings [] => return .ok {}
    | .settings values => pool.sendPlain connection "apply_settings" (.ofSettings values)
    | .execute statement => pool.sendStatement connection statement
    | .savepoint name => pool.sendSavepoint connection "savepoint" "SAVEPOINT" name
    | .release name => pool.sendSavepoint connection "release_savepoint" "RELEASE SAVEPOINT" name
    | .rollbackTo name =>
      pool.sendSavepoint connection "rollback_to_savepoint" "ROLLBACK TO SAVEPOINT" name
    | .commit => do
      return ((← pool.commit connection).map fun _ => {}).mapError (·.inSession "commit")
    | .rollback => do
      return ((← pool.rollback connection).map fun _ => {}).mapError (·.inSession "rollback")
  abandon := pool.abandon

end Pool
end TenantAccess.Postgres
