import TenantAccess.AccessState
import TenantAccess.Fault
import TenantAccess.Postgres.Memberships
import TenantAccess.Postgres.Script
import TenantAccess.Postgres.Sessions
import TenantAccess.Recording

/-!
# Worlds

A world for the access layer to work in.  Its data is in memory with recorded sessions, or on a
scripted PostgreSQL server.  Operations of the store and of sessions can have faults.  What happens
in a world can be observed: each observation tells what is new since the one before.
-/

namespace TenantAccess

/-- The world around a state. -/
structure World where
  tables : MembershipTables := {}
  recording : Recording (List ResponseRule) := { responder := [] }
  server : Postgres.ScriptedServer := {}
  storeFaults : Table StoreOperation StoreError := {}
  sessionFaults : Table SessionOperation String := {}
  /-- The entries of the audit trail that have not been observed. -/
  trail : List AuditEntry := []
  listener : EventBuffer
  /-- How many events of the recording have been observed. -/
  observed : Nat := 0

namespace World

/-! ## Parts -/

/-- A computation on the tables in memory. -/
def onTables {α : Type} (m : StateM MembershipTables α) : StateM World α := fun world =>
  let (a, tables) := m world.tables
  (a, { world with tables })

/-- A computation on the recording of sessions. -/
def onRecording {α : Type} (m : StateM (Recording (List ResponseRule)) α) : StateM World α :=
  fun world =>
    let (a, recording) := m world.recording
    (a, { world with recording })

/-- A computation on the server. -/
def onServer {α : Type} (m : StateM Postgres.ScriptedServer α) : StateM World α := fun world =>
  let (a, server) := m world.server
  (a, { world with server })

/-- Write an entry to the audit trail. -/
def audit (entry : AuditEntry) (world : World) : World :=
  { world with trail := world.trail ++ [entry] }

/-- Tell the listener an event. -/
def emit (event : ChangeEvent) (world : World) : World :=
  { world with listener := world.listener.emit event }

/-! ## Platforms -/

/-- A world as a platform, with the faults of the world. -/
def platform (store : MembershipStore World) (sessions : SessionBackend World) :
    Platform World where
  store := store.withFaults fun operation world => world.storeFaults.get? operation
  sessions := sessions.withFaults fun operation world => world.sessionFaults.get? operation
  audit := audit
  emit := emit

/-- The platform whose data is in memory. -/
def inMemory : Platform World :=
  platform (MembershipTables.store.lift onTables)
    ((Recording.backend ResponseRule.respond).lift onRecording)

/-- The platform whose data is on the server. -/
def onPostgres : Platform World :=
  let pool := Postgres.ScriptedServer.pool.lift onServer
  platform (pool.memberships audit) pool.sessions

/-! ## Changes -/

/-- Let an operation of the store fail, or no longer. -/
def setStoreFault (operation : StoreOperation) (fault : Option StoreError) (world : World) :
    World :=
  { world with storeFaults := match fault with
      | some e => world.storeFaults.insert operation e
      | none => world.storeFaults.erase operation }

/-- Let an operation on sessions fail, or no longer. -/
def setSessionFault (operation : SessionOperation) (fault : Option String) (world : World) :
    World :=
  { world with sessionFaults := match fault with
      | some explanation => world.sessionFaults.insert operation explanation
      | none => world.sessionFaults.erase operation }

/-- Change the tables in memory. -/
def changeTables (change : MembershipTables → MembershipTables) (world : World) : World :=
  { world with tables := change world.tables }

/-- Change the server. -/
def changeServer (change : Postgres.ScriptedServer → Postgres.ScriptedServer) (world : World) :
    World :=
  { world with server := change world.server }

end World

/-! ## Observations -/

/-- What is new in a world. -/
structure Observation where
  /-- What happened in sessions. -/
  log : List (SessionId × SessionEvent)
  trail : List AuditEntry
  /-- What the listener was told. -/
  events : List Json
  /-- What the server received. -/
  received : List (Postgres.TransactionNumber × Postgres.Request)
  /-- How many reads of memberships and of site lists there have been in all. -/
  grantReads : Nat
  siteReads : Nat

namespace Observation

/-- A list as a field; an empty one has no field. -/
def listField (name : String) (items : List Json) : List (String × Json) :=
  if items.isEmpty then [] else [(name, .array items)]

/-- The observation as the fields of a document. -/
def fields (observation : Observation) : List (String × Json) :=
  listField "log" (observation.log.map fun entry => .array [.nat entry.1, entry.2.toJson])
    ++ listField "audit" (observation.trail.map AuditEntry.toJson)
    ++ listField "events" observation.events
    ++ listField "sql" (observation.received.map fun entry => .array [
      .nat entry.1, .string entry.2.text, .array (entry.2.params.map Postgres.Datum.toJson)])
    ++ [("reads", .array [.nat observation.grantReads, .nat observation.siteReads])]

end Observation

/-- Observe a world. -/
def World.observe : StateM World Observation := fun world =>
  let (received, server) := world.server.takeReceived
  let observation := {
    log := world.recording.log.drop world.observed
    trail := world.trail
    events := world.listener.told
    received
    grantReads := world.tables.grantReads
    siteReads := world.tables.siteReads }
  (observation, { world with
    server
    trail := []
    listener := world.listener.taken
    observed := world.recording.log.length })

end TenantAccess
