import TenantAccess.Postgres.Datum

/-!
# Transactions on a PostgreSQL server

A pool opens transactions, each on a connection of its own, and sends requests in them.  However a
transaction ends, the server is told: one that could not be committed or rolled back as asked, and
one that is let go of, is rolled back.
-/

namespace TenantAccess.Postgres

/-- Why a request was not carried out. -/
inductive Failure where
  /-- The server refused it. -/
  | refused (code explanation : String)
  /-- The pool has been closed. -/
  | closed
  /-- The connection was lost, or the answer was not one to the request. -/
  | broken
deriving DecidableEq, Repr, Inhabited

/-- What is sent to the server: a text with the values for its placeholders. -/
structure Request where
  text : String
  params : List Datum := []
deriving Inhabited

/-- What the server answers. -/
structure Reply where
  rows : List Row := []
  /-- How many rows were affected or returned. -/
  affected : Nat := 0
deriving Inhabited

/-- The number of a connection on which a transaction was opened. No two transactions that a pool
opens share one. -/
abbrev Connection := Nat

/-- Connections to a server, in state `σ`. -/
structure Pool (σ : Type) where
  /-- Open a transaction. -/
  begin : StateM σ (Except Failure Connection)
  /-- Send a request in the transaction that was opened on a connection. -/
  send : Connection → Request → StateM σ (Except Failure Reply)

namespace Pool

variable {σ : Type}

/-- The pool as part of a larger state. -/
def lift {τ : Type} (embed : {α : Type} → StateM τ α → StateM σ α) (pool : Pool τ) : Pool σ where
  begin := embed pool.begin
  send connection request := embed (pool.send connection request)

/-- Let go of a transaction: it is rolled back, whether or not that succeeds. -/
def abandon (pool : Pool σ) (connection : Connection) : StateM σ Unit := do
  let _ ← pool.send connection { text := "ROLLBACK" }

/-- End a transaction; let go of it if that fails. -/
def finish (pool : Pool σ) (connection : Connection) (text : String) :
    StateM σ (Except Failure Reply) := do
  match ← pool.send connection { text } with
  | .ok reply => return .ok reply
  | .error e =>
    pool.abandon connection
    return .error e

/-- Commit a transaction. -/
def commit (pool : Pool σ) (connection : Connection) : StateM σ (Except Failure Reply) :=
  pool.finish connection "COMMIT"

/-- Roll a transaction back. -/
def rollback (pool : Pool σ) (connection : Connection) : StateM σ (Except Failure Reply) :=
  pool.finish connection "ROLLBACK"

end Pool
end TenantAccess.Postgres
