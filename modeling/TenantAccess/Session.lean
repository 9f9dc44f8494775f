import TenantAccess.Statement

/-!
# Sessions

A session is one open transaction of a database.  All that is asked of it is a call; a backend opens
sessions and answers calls.  Settings hold to the end of the transaction they are made in.
-/

namespace TenantAccess

/-- A setting of a session. -/
structure Setting where
  name : String
  value : String
deriving DecidableEq, Repr, Inhabited

/-- The setting as a document. -/
def Setting.toJson (setting : Setting) : Json := Json.strings [setting.name, setting.value]

/-- Something asked of an open session. -/
inductive SessionCall where
  /-- Make settings for the rest of the transaction. -/
  | settings (values : List Setting)
  | execute (statement : Statement)
  | savepoint (name : String)
  | release (name : String)
  | rollbackTo (name : String)
  | commit
  | rollback
deriving Inhabited

/-- What is asked of a backend, apart from the particulars. -/
inductive SessionOperation where
  | begin
  | settings
  | execute
  | savepoint
  | release
  | rollbackTo
  | commit
  | rollback
deriving DecidableEq, Repr, Inhabited

/-- What a call asks for. -/
def SessionCall.operation : SessionCall → SessionOperation
  | settings _ => .settings
  | execute _ => .execute
  | savepoint _ => .savepoint
  | release _ => .release
  | rollbackTo _ => .rollbackTo
  | commit => .commit
  | rollback => .rollback

/-- The call ends the session, whether it succeeds or not. -/
def SessionCall.isLast : SessionCall → Bool
  | commit | rollback => true
  | _ => false

/-- Why a session did not do what was asked. -/
inductive SessionError where
  | database (explanation : String)
  | invalidSavepoint (name : String)
  | unsupported (explanation : String)
deriving DecidableEq, Repr

namespace SessionError

/-- The error as a message. -/
def message : SessionError → String
  | database explanation => "database error: " ++ explanation
  | invalidSavepoint name => "invalid savepoint name '" ++ name ++ "'"
  | unsupported explanation => "unsupported statement: " ++ explanation

/-- The kind of the error. -/
def kind : SessionError → String
  | database _ => "Database"
  | invalidSavepoint _ => "InvalidSavepoint"
  | unsupported _ => "Unsupported"

end SessionError

/-- A character that a savepoint name may begin with. -/
def isSavepointStart (c : Char) : Bool := c.isLower || c = '_'

/-- A character that a savepoint name may contain. -/
def isSavepointChar (c : Char) : Bool := c.isLower || c.isDigit || c = '_'

/-- Savepoint names become part of a statement, so they are plain: 1 to 63 small letters, digits and
underscores, no digit first. -/
def isSavepointName (name : String) : Bool :=
  match name.toList with
  | [] => false
  | first :: rest =>
    Text.octets (first :: rest) ≤ 63 && isSavepointStart first &&
      (first :: rest).all isSavepointChar

/-- Refuse a name that is no savepoint name. -/
def checkSavepointName (name : String) : Except SessionError Unit :=
  if isSavepointName name then .ok () else .error (.invalidSavepoint name)

/-- The number of an opened session. -/
abbrev SessionId := Nat

/-- Opens sessions and answers what is asked of them, in state `σ`. -/
structure SessionBackend (σ : Type) where
  /-- Open a session. -/
  begin : StateM σ (Except SessionError SessionId)
  /-- Ask something of an open session. Calls other than statements bring about nothing that has to
  be told. -/
  call : SessionId → SessionCall → StateM σ (Except SessionError StatementOutcome)
  /-- Let go of a session that was neither committed nor rolled back. -/
  abandon : SessionId → StateM σ Unit

/-- What came of the calls on a session. -/
structure Conversation where
  /-- The answers to the calls that were made, in order. -/
  answers : List (Except SessionError StatementOutcome)
  /-- No call ended the session, and it was let go of. -/
  abandoned : Bool

/-- Make calls on an open session up to one that ends it. -/
def SessionBackend.converse {σ : Type} (backend : SessionBackend σ) (session : SessionId) :
    List SessionCall → StateM σ Conversation
  | [] => do
    backend.abandon session
    return ⟨[], true⟩
  | call :: rest => do
    let answer ← backend.call session call
    if call.isLast then return ⟨[answer], false⟩
    else
      let conversation ← backend.converse session rest
      return { conversation with answers := answer :: conversation.answers }

/-- The backend as part of a larger state. -/
def SessionBackend.lift {τ σ : Type} (embed : {α : Type} → StateM τ α → StateM σ α)
    (backend : SessionBackend τ) : SessionBackend σ where
  begin := embed backend.begin
  call session request := embed (backend.call session request)
  abandon session := embed (backend.abandon session)

end TenantAccess
