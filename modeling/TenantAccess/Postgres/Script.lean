import TenantAccess.Json.Normal
import TenantAccess.Json.Writer
import TenantAccess.Postgres.Pool
import TenantAccess.Text.Ascii

/-!
# Scripted servers

A server that goes by rules: the first rule that fits a request answers it, whatever the request is.
The server writes down what it receives, with blanks in texts made uniform, so that the layout of a
text does not matter.  Transactions are numbered in the order in which they begin; a request belongs
to the one that its connection began last.
-/

namespace TenantAccess.Postgres

/-- What a rule answers. -/
inductive ScriptedAnswer where
  /-- Close the connection. -/
  | hangUp
  | refuse (code explanation : String)
  | rows (rows : List Row)
  | affected (count : Nat)
deriving Inhabited

/-- A rule for the requests whose text has a given part. -/
structure ScriptedRule where
  part : String
  /-- The value that the first parameter must have, if that matters. -/
  firstParam : Option Json
  answer : ScriptedAnswer
deriving Inhabited

/-- The characters that become one blank when they stand in a row. -/
def isLayout (c : Char) : Bool := c = ' ' || c = '\t' || c = '\r' || c = '\n'

/-- The characters with each row of blanks made one blank. -/
def foldLayout : List Char → List Char
  | [] => []
  | c :: rest =>
    if isLayout c then
      match foldLayout rest with
      | ' ' :: folded => ' ' :: folded
      | folded => ' ' :: folded
    else c :: foldLayout rest

/-- The request with the blanks of its text made uniform. -/
def Request.folded (request : Request) : Request :=
  { request with text := String.ofList (foldLayout request.text.toList) }

/-- The rule fits a request. -/
def ScriptedRule.fits (rule : ScriptedRule) (request : Request) : Bool :=
  Text.occursIn rule.part.toList request.text.toList &&
    match rule.firstParam with
    | none => true
    | some wanted =>
      match request.params.head? with
      | some param => param.valueJson.normal.text == wanted.normal.text
      | none => false

/-- The number of a transaction, counted from one over all connections. -/
abbrev TransactionNumber := Nat

/-- The server's side of a connection. -/
structure ScriptedConnection where
  /-- The number of the transaction begun last, zero before the first one. -/
  transaction : TransactionNumber := 0
  /-- The server has closed the connection. -/
  closed : Bool := false
deriving Inhabited

/-- A server that goes by rules, with what it has received. -/
structure ScriptedServer where
  rules : List ScriptedRule := []
  /-- How many transactions were begun. -/
  begun : Nat := 0
  /-- The connections in the order of their opening, each at its own number. -/
  connections : List ScriptedConnection := []
  /-- The pool of its connections has been closed. -/
  closed : Bool := false
  /-- What was received, in order, with the number of the transaction. -/
  received : List (TransactionNumber × Request) := []

instance : Inhabited ScriptedServer := ⟨{}⟩

/-- The request that begins a transaction. -/
def Request.begin : Request := { text := "BEGIN" }

/-- The request begins a transaction, as it also does when it is sent as a statement. -/
def Request.isBegin (request : Request) : Bool := request.text == Request.begin.text

namespace ScriptedServer

/-- The server's side of a connection. -/
def connection (server : ScriptedServer) (connection : Connection) : ScriptedConnection :=
  server.connections[connection]?.getD {}

/-- The server with a change made to a connection. -/
def adjust (server : ScriptedServer) (connection : Connection)
    (change : ScriptedConnection → ScriptedConnection) : ScriptedServer :=
  { server with connections := server.connections.modify connection change }

/-- The server with the next transaction begun on a connection, in place of the one before. -/
def beginOn (server : ScriptedServer) (connection : Connection) : ScriptedServer :=
  let number := server.begun + 1
  { server with begun := number }.adjust connection fun c => { c with transaction := number }

/-- The answer to a request. -/
def answer (server : ScriptedServer) (request : Request) : ScriptedAnswer :=
  ((server.rules.find? (·.fits request)).map (·.answer)).getD (.affected 0)

/-- Write a request down in the transaction of its connection, after beginning the transaction that
it asks for. -/
def note (server : ScriptedServer) (connection : Connection) (request : Request) :
    ScriptedServer :=
  let server := if request.isBegin then server.beginOn connection else server
  { server with
    received := server.received ++ [((server.connection connection).transaction, request)] }

/-- Receive a request over a connection and answer it. -/
def receive (connection : Connection) (request : Request) :
    StateM ScriptedServer (Except Failure Reply) := fun server =>
  let request := request.folded
  let server := server.note connection request
  match server.answer request with
  | .hangUp => (.error .broken, server.adjust connection fun c => { c with closed := true })
  | .refuse code explanation => (.error (.refused code explanation), server)
  | .rows rows => (.ok { rows, affected := rows.length }, server)
  | .affected affected => (.ok { affected }, server)

/-- The connections to the server. Nothing arrives over a connection that was closed. -/
def pool : Pool ScriptedServer where
  begin := do
    let server ← get
    if server.closed then return .error .closed
    else
      let connection := server.connections.length
      set { server with connections := server.connections ++ [({} : ScriptedConnection)] }
      return (← receive connection .begin).map fun _ => connection
  send connection request := do
    if ((← get).connection connection).closed then return .error .broken
    else receive connection request

/-- What was received since, by transactions, and the server with nothing received. -/
def takeReceived (server : ScriptedServer) :
    List (TransactionNumber × Request) × ScriptedServer :=
  (server.received.mergeSort fun a b => decide (a.1 ≤ b.1), { server with received := [] })

end ScriptedServer
end TenantAccess.Postgres
