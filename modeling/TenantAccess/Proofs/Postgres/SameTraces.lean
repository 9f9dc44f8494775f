import TenantAccess.Proofs.Postgres.Commands
import TenantAccess.Proofs.Sessions.TandemCode

/-!
# The same code with recorded sessions and on a server

Code is run twice, once with sessions that are recorded and once with sessions on a server, and both
give its statements the same results: rows, numbers of affected rows, and failures.  Then the server
receives exactly the requests that carry out what is recorded, and the code is told the same.

A text alone does not tell the server whether it is a statement, which may well be `COMMIT`.  So the
server answers the requests by their places, with what the log of the recording has in those places.

* `Assignment`: the results of statements; `Assignment.Pairs` are the errors that stand for the same
  failure.
* `AnsweringServer`: a server that answers by place, and writes down what it receives.
* `InStep`: a recording and a server that have been asked for the same.
* `sent_as_recorded`: they stay so whatever the code does.
-/

namespace TenantAccess

variable {ω β : Type}

/-- The platform with other sessions, the state of which is beside that of the rest. -/
def Platform.withSessions (rest : Platform ω) (backend : SessionBackend β) : Platform (ω × β) where
  store := rest.store.lift fun m world =>
    let (a, inner) := m world.1
    (a, (inner, world.2))
  sessions := backend.lift fun m world =>
    let (a, inner) := m world.2
    (a, (world.1, inner))
  audit entry world := (rest.audit entry world.1, world.2)
  emit event world := (rest.emit event world.1, world.2)

/-- The state with that of sessions beside the world. -/
def AccessState.beside (s : AccessState ω) (sessions : β) : AccessState (ω × β) where
  world := (s.world, sessions)
  grants := s.grants
  sites := s.sites
  around := s.around

namespace Postgres

/-! ### Results of statements -/

/-- What comes of a statement. -/
inductive Assigned where
  /-- A query returns the rows; another statement affects that many. -/
  | returned (rows : List Json) (affected : Nat)
  /-- The statement fails: what a recorded session says, and what happens on the server. -/
  | failed (recorded : SessionError) (refused : Failure)

/-- The outcome in a recorded session. -/
def Assigned.outcome (kind : StatementKind) : Assigned → Except SessionError StatementOutcome
  | returned rows affected => .ok (match kind with
    | .query => { rowsAffected := rows.length, rows }
    | .execute => { rowsAffected := affected })
  | failed recorded _ => .error recorded

/-- The answer of the server, which has each row as a document in its only column. -/
def Assigned.answer : Assigned → Except Failure Reply
  | returned rows affected => .ok { rows := rows.map fun row => [("row", .jsonb row)], affected }
  | failed _ refused => .error refused

/-- What comes of a statement after those before it, in whichever sessions they were. -/
abbrev Assignment := List Statement → Statement → Assigned

/-- The statement that was asked for, if it was one. -/
def statement? : SessionEvent → Option Statement
  | .called (.execute statement) => some statement
  | _ => none

/-- The statements in a log. -/
def statementsOf (log : List (SessionId × SessionEvent)) : List Statement :=
  log.filterMap fun entry => statement? entry.2

namespace Assignment

variable (assignment : Assignment)

/-- Answer the statements of recorded sessions, with those before as the state. -/
def respond (statement : Statement) :
    StateM (List Statement) (Except SessionError StatementOutcome) := fun earlier =>
  ((assignment earlier statement).outcome statement.kind, earlier ++ [statement])

/-- The answer of the server to what carries an event out: a statement has its result, and anything
else succeeds. -/
def answerTo (earlier : List Statement) (event : SessionEvent) : Except Failure Reply :=
  match statement? event with
  | some statement => (assignment earlier statement).answer
  | none => .ok {}

/-- The answer to the request in a place, which carries out what the log has there. -/
def answers (log : List (SessionId × SessionEvent)) (index : Nat) : Except Failure Reply :=
  match log[index]? with
  | some (_, event) => assignment.answerTo (statementsOf (log.take index)) event
  | none => .ok {}

/-- The two errors are reported for the same failure of a statement. -/
def Pairs (recorded sent : SessionError) : Prop :=
  ∃ earlier statement refused, assignment earlier statement = .failed recorded refused ∧
    sent = refused.inSession statement.kind.text

end Assignment

/-! ### The server -/

/-- A server that writes down what it receives, with the connection. -/
structure AnsweringServer where
  received : List (Connection × Request) := []
  /-- How many connections were opened. -/
  opened : Nat := 0

namespace AnsweringServer

/-- The server with one more request. -/
def note (server : AnsweringServer) (connection : Connection) (request : Request) :
    AnsweringServer :=
  { server with received := server.received ++ [(connection, request)] }

variable (answers : Nat → Except Failure Reply)

/-- Receive a request, and answer it by its place. -/
def receive (connection : Connection) (request : Request) :
    StateM AnsweringServer (Except Failure Reply) := fun server =>
  (answers server.received.length, server.note connection request)

/-- The connections to the server; a transaction is begun on the next one. -/
def pool : Pool AnsweringServer where
  begin := fun server =>
    let connection := server.opened + 1
    let (answer, server) :=
      receive answers connection { text := "BEGIN" } { server with opened := connection }
    (answer.map fun _ => connection, server)
  send := receive answers

/-- What was received on one connection. -/
def requestsOf (server : AnsweringServer) (connection : Connection) : List Request :=
  (server.received.filter (·.1 == connection)).map (·.2)

end AnsweringServer

/-! ### In step -/

/-- The request was received for the entry of the log, on the connection of its session. -/
structure Matches (entry : SessionId × SessionEvent) (sent : Connection × Request) : Prop where
  connection : entry.1 = sent.1
  carriesOut : CarriesOut entry.2 sent.2

/-- The recording and the server have been asked for the same. -/
structure InStep (recording : Recording (List Statement)) (server : AnsweringServer) : Prop where
  opened : recording.opened = server.opened
  earlier : recording.responder = statementsOf recording.log
  received : List.Forall₂ Matches recording.log server.received

namespace InStep

variable {recording : Recording (List Statement)} {server : AnsweringServer}

/-- In each session the requests carry out what happened in it. -/
theorem requestsOf (h : InStep recording server) (session : SessionId) :
    List.Forall₂ CarriesOut (recording.eventsOf session) (server.requestsOf session) := by
  have hkept : List.Forall₂ Matches (recording.log.filter (·.1 == session))
      (server.received.filter (·.1 == session)) := by
    refine List.rel_filter ?_ h.received
    intro entry sent hmatches
    show (entry.1 == session) = true ↔ (sent.1 == session) = true
    rw [hmatches.connection]
  unfold Recording.eventsOf AnsweringServer.requestsOf
  rw [List.forall₂_map_left_iff, List.forall₂_map_right_iff]
  exact hkept.imp fun _ _ hmatches => hmatches.carriesOut

variable {assignment : Assignment} {log : List (SessionId × SessionEvent)} {session : SessionId}
  {event : SessionEvent} {request : Request}

/-- Both go on with the event and a request that carries it out. -/
theorem next (h : InStep recording server) (hcarries : CarriesOut event request)
    (session : SessionId) :
    InStep
      { recording.record session event with
        responder := recording.responder ++ statementsOf [(session, event)] }
      (server.note session request) where
  opened := h.opened
  earlier := by
    show recording.responder ++ _ = statementsOf (recording.log ++ _)
    rw [h.earlier]
    exact (List.filterMap_append ..).symm
  received := List.rel_append h.received (.cons ⟨rfl, hcarries⟩ .nil)

/-- What is no statement does not come before any. -/
theorem next_of_plain (h : InStep recording server) (hcarries : CarriesOut event request)
    (hevent : statement? event = none) (session : SessionId) :
    InStep (recording.record session event) (server.note session request) := by
  have hnone : statementsOf [(session, event)] = [] := by
    simp [statementsOf, hevent]
  have hnext := h.next hcarries session
  rw [hnone, List.append_nil] at hnext
  exact hnext

/-- The answer to the next request is for the entry that the log goes on with. -/
theorem answers_next (h : InStep recording server)
    (hlog : (recording.record session event).log <+: log) :
    assignment.answers log server.received.length =
      assignment.answerTo recording.responder event := by
  obtain ⟨later, rfl⟩ := hlog
  rw [← h.received.length_eq, h.earlier]
  have hentry : ((recording.record session event).log ++ later)[recording.log.length]? =
      some (session, event) := by
    show (recording.log ++ [(session, event)] ++ later)[recording.log.length]? = _
    simp
  have htake : ((recording.record session event).log ++ later).take recording.log.length =
      recording.log := by
    show (recording.log ++ [(session, event)] ++ later).take recording.log.length = _
    simp
  unfold Assignment.answers
  rw [hentry, htake]

end InStep

/-- A log is the beginning of the one with one more event. -/
theorem log_record {τ : Type} {recording : Recording τ} {log : List (SessionId × SessionEvent)}
    {session : SessionId} {event : SessionEvent}
    (h : (recording.record session event).log <+: log) : recording.log <+: log :=
  (List.prefix_append _ _).trans h

/-! ### In tandem -/

section backends

variable (assignment : Assignment) (log : List (SessionId × SessionEvent)) {session : SessionId}

/-- Sessions that are recorded. -/
abbrev Assignment.recorded : SessionBackend (Recording (List Statement)) :=
  Recording.backend assignment.respond

/-- Sessions on the server, which has the answers for the log. -/
abbrev Assignment.sent : SessionBackend AnsweringServer :=
  (AnsweringServer.pool (assignment.answers log)).sessions

/-- Lockstep of recorded sessions and sessions on the server, as long as the log is followed. -/
abbrev InLockstep {α : Type} (V : α → α → Prop)
    (m : StateM (Recording (List Statement)) α) (m' : StateM AnsweringServer α) : Prop :=
  Lockstep InStep (fun recording => recording.log <+: log) V m m'

/-- Sessions are begun in lockstep. -/
theorem begin_inLockstep :
    InLockstep log (OutcomesAlike assignment.Pairs) assignment.recorded.begin
      (assignment.sent log).begin := by
  refine ⟨fun _ hs => log_record hs, ?_⟩
  rintro recording ⟨received, opened⟩ h hlog
  obtain rfl : recording.opened = opened := h.opened
  have hopened : InStep { recording with opened := recording.opened + 1 }
      ⟨received, recording.opened + 1⟩ :=
    ⟨rfl, h.earlier, h.received⟩
  have hanswer : assignment.answers log received.length = .ok {} := hopened.answers_next hlog
  have hsent : ((assignment.sent log).begin ⟨received, recording.opened⟩).1 =
      .ok (recording.opened + 1) := by
    show ((assignment.answers log received.length).map fun _ => recording.opened + 1).mapError
      (·.inSession "begin") = _
    rw [hanswer]
    rfl
  refine ⟨?_, hopened.next_of_plain .begun rfl _⟩
  rw [hsent]
  exact .ok _

/-- A call for anything but a statement runs in lockstep if it succeeds with recorded sessions, and
on the server once the request for it does. -/
theorem call_inLockstep_of_plain {call : SessionCall} {request : Request}
    (hcall : statement? (.called call) = none) (hcarries : CarriesOut (.called call) request)
    (hrecorded : ∀ recording, assignment.recorded.call session call recording =
      (.ok {}, recording.record session (.called call)))
    (hsent : ∀ server, (AnsweringServer.pool (assignment.answers log)).send session request server =
        (.ok {}, server.note session request) →
      (assignment.sent log).call session call server = (.ok {}, server.note session request)) :
    InLockstep log (OutcomesAlike assignment.Pairs) (assignment.recorded.call session call)
      ((assignment.sent log).call session call) := by
  refine ⟨?_, ?_⟩
  · intro recording hlog
    rw [hrecorded] at hlog
    exact log_record hlog
  · intro recording server h hlog
    rw [hrecorded] at hlog
    have hanswer : assignment.answers log server.received.length = .ok {} := by
      rw [h.answers_next hlog, Assignment.answerTo, hcall]
    have hreceived : (AnsweringServer.pool (assignment.answers log)).send session request server =
        (.ok {}, server.note session request) := by
      rw [← hanswer]
      rfl
    rw [hrecorded, hsent server hreceived]
    exact ⟨.ok _, h.next_of_plain hcarries hcall session⟩

/-- A statement has the result that is assigned to it on both sides. -/
theorem execute_inLockstep (statement : Statement) :
    InLockstep log (OutcomesAlike assignment.Pairs)
      (assignment.recorded.call session (.execute statement))
      ((assignment.sent log).call session (.execute statement)) := by
  refine ⟨fun _ hlog => log_record hlog, ?_⟩
  intro recording server h hlog
  have hanswer : assignment.answers log server.received.length =
      (assignment recording.responder statement).answer := h.answers_next hlog
  have hreceived : (AnsweringServer.pool (assignment.answers log)).send session
      (.ofStatement statement) server = ((assignment recording.responder statement).answer,
        server.note session (.ofStatement statement)) := by
    rw [← hanswer]
    rfl
  have hnext := h.next (carriesOut_ofStatement statement) session
  have hrecorded : assignment.recorded.call session (.execute statement) recording =
      ((assignment recording.responder statement).outcome statement.kind,
        { recording.record session (.called (.execute statement)) with
          responder := recording.responder ++ [statement] }) := rfl
  show OutcomesAlike _ _ (Pool.sendStatement _ session statement server).1 ∧
    InStep _ (Pool.sendStatement _ session statement server).2
  rw [hrecorded]
  simp only [Pool.sendStatement, bind, StateT.bind, hreceived]
  rcases hassigned : assignment recording.responder statement with
    ⟨rows, affected⟩ | ⟨recorded, refused⟩
  · refine ⟨?_, hnext⟩
    show OutcomesAlike _ _ ((Reply.outcome statement.kind _).mapError _)
    rw [outcome_of_returned]
    exact .ok _
  · exact ⟨.error ⟨_, statement, refused, hassigned, rfl⟩, hnext⟩

/-- Calls whose savepoints have proper names run in lockstep. -/
theorem call_inLockstep {request : SessionCall} (h : request.Plain) :
    InLockstep log (OutcomesAlike assignment.Pairs) (assignment.recorded.call session request)
      ((assignment.sent log).call session request) := by
  cases request with
  | settings values =>
    apply call_inLockstep_of_plain assignment log rfl (carriesOut_ofSettings values)
      (fun _ => rfl)
    intro server hreceived
    rcases values with _ | ⟨setting, rest⟩
    · exact absurd rfl h
    · exact Pool.sendPlain_of_ok hreceived "apply_settings"
  | execute statement => exact execute_inLockstep assignment log statement
  | savepoint name =>
    apply call_inLockstep_of_plain assignment log rfl (.savepoint name)
    · intro recording
      have hcheck : checkSavepointName name = .ok () := if_pos h
      simp only [Recording.backend, hcheck]
    · intro server hreceived
      exact Pool.sendSavepoint_of_ok h hreceived "savepoint"
  | release name =>
    apply call_inLockstep_of_plain assignment log rfl (.release name) (fun _ => rfl)
    intro server hreceived
    exact Pool.sendSavepoint_of_ok h hreceived "release_savepoint"
  | rollbackTo name =>
    apply call_inLockstep_of_plain assignment log rfl (.rollbackTo name) (fun _ => rfl)
    intro server hreceived
    exact Pool.sendSavepoint_of_ok h hreceived "rollback_to_savepoint"
  | commit =>
    apply call_inLockstep_of_plain assignment log rfl .commit (fun _ => rfl)
    intro server hreceived
    exact Pool.ending_of_ok hreceived "commit"
  | rollback =>
    apply call_inLockstep_of_plain assignment log rfl .rollback (fun _ => rfl)
    intro server hreceived
    exact Pool.ending_of_ok hreceived "rollback"

/-- A call that is recorded follows the one before it; one that is not leaves the log as it is. -/
theorem call_back (request : SessionCall) (recording : Recording (List Statement))
    (h : (assignment.recorded.call session request recording).2.log <+: log) :
    recording.log <+: log := by
  cases request with
  | savepoint name =>
    rcases hcheck : checkSavepointName name with e | ⟨⟩
    · simpa only [Recording.backend, hcheck] using h
    · simp only [Recording.backend, hcheck] at h
      exact log_record h
  | _ => exact log_record h

end backends

/-! ### The whole platforms -/

section platforms

variable {ω : Type} (rest : Platform ω) (assignment : Assignment)
  (log : List (SessionId × SessionEvent))

/-- The worlds apart from the sessions are the same, and the sessions are in step. -/
def WorldsInStep (left : ω × Recording (List Statement)) (right : ω × AnsweringServer) : Prop :=
  left.1 = right.1 ∧ InStep left.2 right.2

/-- What is in lockstep on the sessions, is so beside the rest of the world. -/
theorem beside_inLockstep {α : Type} {V : α → α → Prop}
    {m : StateM (Recording (List Statement)) α} {m' : StateM AnsweringServer α}
    (h : InLockstep log V m m') :
    Lockstep WorldsInStep (fun world => world.2.log <+: log) V
      (fun world : ω × Recording (List Statement) => ((m world.2).1, (world.1, (m world.2).2)))
      (fun world : ω × AnsweringServer => ((m' world.2).1, (world.1, (m' world.2).2))) where
  back world hlog := h.back world.2 hlog
  along left right hstep hlog := by
    obtain ⟨hvalue, hafter⟩ := h.along left.2 right.2 hstep.2 hlog
    exact ⟨hvalue, hstep.1, hafter⟩

/-- Both platforms are in tandem as long as the first one follows the log that the server has the
answers for. -/
def sessionsTandem : Tandem (rest.withSessions assignment.recorded)
    (rest.withSessions (assignment.sent log)) assignment.Pairs where
  Agree := WorldsInStep
  Expected world := world.2.log <+: log
  sitesFor client around := by
    refine ⟨fun _ _ => trivial, ?_⟩
    rintro ⟨world, recording⟩ ⟨_, server⟩ ⟨rfl, hstep⟩ _
    exact ⟨.refl (fun _ => rfl) _, rfl, hstep⟩
  audit entry left right h := ⟨congrArg (rest.audit entry) h.1, h.2⟩
  emit event left right h := ⟨congrArg (rest.emit event) h.1, h.2⟩
  begin := beside_inLockstep log (begin_inLockstep assignment log)
  call session request hplain := beside_inLockstep log (call_inLockstep assignment log hplain)
  sitesFor_back _ _ _ h := h
  audit_back _ _ h := h
  emit_back _ _ h := h
  call_back session request world h := call_back assignment log request world.2 h
  abandon_back _ _ h := h

end platforms

/-- The server receives exactly what is recorded: whatever code does that ends its transactions by
committing them or rolling them back, and whatever its statements come to, each session on the
server receives the requests that carry out, one by one, what is recorded in that session.  The code
is told the same of both, but for the errors that are reported for the same failure, and the rest of
the world comes to the same. -/
theorem sent_as_recorded {ω : Type} (rest : Platform ω) (assignment : Assignment) (code : Code)
    (hdrops : code.NeverDrops) (hindifferent : code.Indifferent assignment.Pairs)
    (start : AccessState ω) :
    let recorder := rest.withSessions assignment.recorded
    let recorded := (code.run recorder {} (start.beside { responder := [] })).2.world
    let server := rest.withSessions (assignment.sent recorded.2.log)
    let served := (code.run server {} (start.beside {})).2.world
    (∀ session, List.Forall₂ CarriesOut (recorded.2.eventsOf session)
        (served.2.requestsOf session)) ∧
      List.Forall₂ (RepliesAlike assignment.Pairs)
        (code.told recorder {} (start.beside { responder := [] }))
        (code.told server {} (start.beside {})) ∧
      recorded.1 = served.1 := by
  intro recorder recorded server served
  let tandem := sessionsTandem rest assignment recorded.2.log
  have hdesk : ({} : Course (ω × Recording (List Statement))).SameDesk
      ({} : Course (ω × AnsweringServer)) :=
    ⟨rfl, fun _ hopened => nomatch hopened⟩
  have hstart : tandem.Along (start.beside { responder := [] }) (start.beside {}) :=
    ⟨⟨rfl, rfl, rfl, .nil⟩, rfl, rfl, rfl⟩
  have hexpected : tandem.Expected recorded := List.prefix_rfl
  obtain ⟨htold, -, hafter⟩ := tandem.run code hdrops hindifferent hdesk hstart hexpected
  exact ⟨hafter.world.2.requestsOf, htold, hafter.world.1⟩

/-- A query, and then a write in a nested scope, which is rolled back if the write fails. -/
def fallingBack : Code :=
  .framed (.bypass "maintenance")
    (.call .begin fun _ =>
      .call (.execute 0 (.plain .query " SELECT $1 AS n;\n" [.int 7])) fun _ =>
      .call (.openNested 0) fun _ =>
      .call (.execute 0 (.plain .execute "UPDATE t SET n = $1" [.nullUuid])) fun answer =>
      .call (match answer with
        | some (.ok _) => .releaseNested 0
        | _ => .rollbackNested 0) fun _ =>
      .call (.commit 0) fun _ => .done)
    .done

/-- Queries return a row, and writes fail. -/
def refusingWrites : Assignment := fun _ statement =>
  match statement.kind with
  | .query => .returned [.int 7] 1
  | .execute => .failed (.database "refused") (.refused "23505" "duplicate key")

/-- The write fails with other words on the server, where its scope is rolled back as well. -/
theorem sent_as_recorded_fallback :
    let start : AccessState World := { world := { listener := default } }
    let recorder := World.inMemory.withSessions refusingWrites.recorded
    let recorded := (fallingBack.run recorder {} (start.beside { responder := [] })).2.world
    let server := World.inMemory.withSessions (refusingWrites.sent recorded.2.log)
    let served := (fallingBack.run server {} (start.beside {})).2.world
    List.Forall₂ CarriesOut (recorded.2.eventsOf 1) (served.2.requestsOf 1) ∧
      (served.2.requestsOf 1).map (·.text) = [
        "BEGIN",
        "SELECT set_config($1, $2, true)",
        "WITH q AS (SELECT $1 AS n) SELECT to_jsonb(q) AS row FROM q",
        "SAVEPOINT inspectra_sp_1",
        "SELECT set_config($1, $2, true)",
        "SELECT set_config($1, $2, true)",
        "UPDATE t SET n = $1",
        "ROLLBACK TO SAVEPOINT inspectra_sp_1",
        "RELEASE SAVEPOINT inspectra_sp_1",
        "COMMIT"] := by
  have hdrops : fallingBack.NeverDrops := by
    refine ⟨⟨nofun, fun _ => ⟨nofun, fun _ => ⟨nofun, fun _ => ⟨nofun, fun answer => ?_⟩⟩⟩⟩, trivial⟩
    refine ⟨?_, fun _ => ⟨nofun, fun _ => trivial⟩⟩
    rcases answer with _ | _ | _ <;> nofun
  have hindifferent : fallingBack.Indifferent refusingWrites.Pairs := by
    refine ⟨⟨fun _ _ _ => rfl, fun _ => ⟨fun _ _ _ => rfl, fun _ => ⟨fun _ _ _ => rfl, fun _ =>
      ⟨?_, fun _ => ⟨fun _ _ _ => rfl, fun _ => ⟨fun _ _ _ => rfl, fun _ => trivial⟩⟩⟩⟩⟩⟩, trivial⟩
    intro answer answer' halike
    rcases halike with ⟨⟨_⟩ | ⟨_⟩⟩ | _ <;> rfl
  refine ⟨(sent_as_recorded World.inMemory refusingWrites fallingBack hdrops hindifferent _).1 1, ?_⟩
  cbv

end Postgres
end TenantAccess
