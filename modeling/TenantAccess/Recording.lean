import TenantAccess.Session

/-!
# Recorded sessions

A backend that carries nothing out: it writes down what is asked of its sessions, in order, and
lets a responder answer statements.
-/

namespace TenantAccess

/-- Something that happened in a session. -/
inductive SessionEvent where
  | begun
  | called (call : SessionCall)
deriving Inhabited

/-- The event as a document. -/
def SessionEvent.toJson : SessionEvent → Json
  | begun => .string "begin"
  | called (.settings values) => .object [("settings", .array (values.map Setting.toJson))]
  | called (.execute statement) => .object [("statement", statement.toJson)]
  | called (.savepoint name) => .object [("savepoint", .string name)]
  | called (.release name) => .object [("release", .string name)]
  | called (.rollbackTo name) => .object [("rollback_to", .string name)]
  | called .commit => .string "commit"
  | called .rollback => .string "rollback"

/-- What was recorded, with the state of the responder. -/
structure Recording (τ : Type) where
  responder : τ
  /-- What happened, each with the number of its session. -/
  log : List (SessionId × SessionEvent) := []
  /-- How many sessions were opened. -/
  opened : Nat := 0

namespace Recording

variable {τ : Type}

/-- The recording with one more event. -/
def record (recording : Recording τ) (session : SessionId) (event : SessionEvent) : Recording τ :=
  { recording with log := recording.log ++ [(session, event)] }

/-- What happened in one session. -/
def eventsOf (recording : Recording τ) (session : SessionId) : List SessionEvent :=
  (recording.log.filter (·.1 == session)).map (·.2)

/-- Open the next session. -/
def opening (recording : Recording τ) : Recording τ :=
  record { recording with opened := recording.opened + 1 } (recording.opened + 1) .begun

/-- A backend that records. Sessions never fail of themselves, but savepoints have to be named by
savepoint names, and statements have the outcome that the responder gives. -/
def backend (respond : Statement → StateM τ (Except SessionError StatementOutcome)) :
    SessionBackend (Recording τ) where
  begin := fun recording => (.ok (recording.opened + 1), recording.opening)
  call session request := fun recording =>
    let recorded := recording.record session (.called request)
    match request with
    | .savepoint name =>
      match checkSavepointName name with
      | .ok () => (.ok {}, recorded)
      | .error e => (.error e, recording)
    | .execute statement =>
      let (answer, responder) := respond statement recorded.responder
      (answer, { recorded with responder })
    | _ => (.ok {}, recorded)
  abandon _ := pure ()

/-- The recording shown by its size. -/
def display (recording : Recording τ) : String :=
  "RecordingSessionBackend \x7b sessions: " ++ toString recording.opened ++ ", .. \x7d"

end Recording

/-- A responder's rule for statements with a given part. -/
structure ResponseRule where
  part : String
  answer : Except SessionError StatementOutcome
deriving Inhabited

namespace ResponseRule

/-- The outcome of a statement that no rule is for. -/
def unruled (statement : Statement) : StatementOutcome :=
  match statement.kind with
  | .query => {}
  | .execute => { rowsAffected := 1 }

/-- Answer a statement by the first rule whose part occurs in it. -/
def outcome (rules : List ResponseRule) (statement : Statement) :
    Except SessionError StatementOutcome :=
  match rules.find? fun rule => Text.occursIn rule.part.toList statement.sql.toList with
  | some rule => rule.answer
  | none => .ok (unruled statement)

/-- A responder that goes by rules. -/
def respond (statement : Statement) :
    StateM (List ResponseRule) (Except SessionError StatementOutcome) :=
  fun rules => (outcome rules statement, rules)

end ResponseRule
end TenantAccess
