import Mathlib
import TenantAccess.World

/-!
# Logs of sessions

What happened in the sessions of a platform is told by a log: for each session its events, in
order.  `SessionLog` says what a log has to do with the operations of the platform and leaves open
what they answer.

* `World.sessionLog`: the recorded sessions of a world in memory have a log.
* `Platform.journal`: any platform has one, once a journal is kept beside it.
-/

namespace TenantAccess

variable {σ : Type}

/-- From one log to the other the events are added in the session, and nothing is in any other. -/
def AddsEvents (before after : SessionId → List SessionEvent) (session : SessionId)
    (new : List SessionEvent) : Prop :=
  ∀ other, after other = before other ++ if other = session then new else []

/-- The events of the sessions of a platform. Beginning a session and asking something of it add one
event to it; a failing call may come too early to be logged. Nothing else is an event. -/
structure SessionLog (platform : Platform σ) where
  /-- What has happened in a session. -/
  events : σ → SessionId → List SessionEvent
  begin_ok : ∀ {world world' session},
    platform.sessions.begin world = (.ok session, world') →
      AddsEvents (events world) (events world') session [.begun]
  begin_error : ∀ {world world' e},
    platform.sessions.begin world = (.error e, world') → events world' = events world
  call_ok : ∀ {world world' session request outcome},
    platform.sessions.call session request world = (.ok outcome, world') →
      AddsEvents (events world) (events world') session [.called request]
  call_error : ∀ {world world' session request e},
    platform.sessions.call session request world = (.error e, world') →
      events world' = events world ∨
        AddsEvents (events world) (events world') session [.called request]
  abandon : ∀ {world session},
    events (platform.sessions.abandon session world).2 = events world
  sitesFor : ∀ {world client around},
    events (platform.store.sitesFor client around world).2 = events world
  audit : ∀ {world entry}, events (platform.audit entry world) = events world
  emit : ∀ {world event}, events (platform.emit event world) = events world

/-! ### Recorded sessions -/

/-- What a journal has about a session. -/
def journalOf (journal : List (SessionId × SessionEvent)) (session : SessionId) :
    List SessionEvent :=
  (journal.filter (·.1 == session)).map (·.2)

/-- One more entry in a journal is one more event of its session. -/
theorem journalOf_append (journal : List (SessionId × SessionEvent)) (session : SessionId)
    (event : SessionEvent) :
    AddsEvents (journalOf journal) (journalOf (journal ++ [(session, event)])) session [event] := by
  intro other
  unfold journalOf
  by_cases h : session = other
  · simp [h]
  · simp [h, Ne.symm h]

namespace Recording

variable {τ : Type}

/-- Recording an event adds it to its session. -/
theorem record_adds (recording : Recording τ) (session : SessionId) (event : SessionEvent) :
    AddsEvents recording.eventsOf (recording.record session event).eventsOf session [event] := by
  exact journalOf_append recording.log session event

/-- A call on a recorded session adds an event, unless it fails. -/
theorem call_adds (respond : Statement → StateM τ (Except SessionError StatementOutcome))
    (session : SessionId) (request : SessionCall) (recording : Recording τ) :
    AddsEvents recording.eventsOf ((backend respond).call session request recording).2.eventsOf
        session [.called request] ∨
      (∃ e, ((backend respond).call session request recording).1 = .error e) ∧
        ((backend respond).call session request recording).2 = recording := by
  have hadds := recording.record_adds session (.called request)
  rcases request with values | statement | name | name | name | _ | _
  · exact .inl hadds
  · exact .inl hadds
  · unfold backend
    dsimp only
    rcases checkSavepointName name with e | _
    · exact .inr ⟨⟨e, rfl⟩, rfl⟩
    · exact .inl hadds
  · exact .inl hadds
  · exact .inl hadds
  · exact .inl hadds
  · exact .inl hadds

end Recording

namespace World

/-- In memory a session is begun unless that is made to fail. -/
theorem inMemory_begin (world : World) :
    inMemory.sessions.begin world =
      match world.sessionFaults.get? .begin with
      | some explanation => (.error (.database explanation), world)
      | none =>
        (.ok (world.recording.opened + 1), { world with recording := world.recording.opening }) := by
  show unlessFault (fun world : World => (world.sessionFaults.get? .begin).map SessionError.database)
    _ world = _
  unfold unlessFault
  dsimp only
  rcases world.sessionFaults.get? .begin with _ | explanation <;> rfl

/-- In memory a call is answered and recorded unless its operation is made to fail. -/
theorem inMemory_call (session : SessionId) (request : SessionCall) (world : World) :
    inMemory.sessions.call session request world =
      match world.sessionFaults.get? request.operation with
      | some explanation => (.error (.database explanation), world)
      | none =>
        let answer := (Recording.backend ResponseRule.respond).call session request world.recording
        (answer.1, { world with recording := answer.2 }) := by
  unfold inMemory platform SessionBackend.withFaults
  dsimp only
  rcases world.sessionFaults.get? request.operation with _ | explanation
  · rfl
  · rcases request.isLast with _ | _ <;> rfl

/-- The recorded sessions of a world in memory. -/
def sessionLog : SessionLog inMemory where
  events world := world.recording.eventsOf
  begin_ok := by
    intro world world' session h
    rw [inMemory_begin] at h
    rcases hfault : world.sessionFaults.get? .begin with _ | explanation <;> rw [hfault] at h
    · obtain ⟨hsession, rfl⟩ := Prod.mk.inj h
      obtain rfl := Except.ok.inj hsession
      exact Recording.record_adds { world.recording with opened := world.recording.opened + 1 } _ _
    · cases h
  begin_error := by
    intro world world' e h
    rw [inMemory_begin] at h
    rcases hfault : world.sessionFaults.get? .begin with _ | explanation <;> rw [hfault] at h
    · cases h
    · obtain ⟨-, rfl⟩ := Prod.mk.inj h
      rfl
  call_ok := by
    intro world world' session request outcome h
    rw [inMemory_call] at h
    rcases hfault : world.sessionFaults.get? request.operation with _ | explanation <;>
      rw [hfault] at h
    · obtain ⟨hanswer, rfl⟩ := Prod.mk.inj h
      rcases world.recording.call_adds ResponseRule.respond session request with hadds | ⟨⟨e, he⟩, -⟩
      · exact hadds
      · rw [he] at hanswer
        cases hanswer
    · cases h
  call_error := by
    intro world world' session request e h
    rw [inMemory_call] at h
    rcases hfault : world.sessionFaults.get? request.operation with _ | explanation <;>
      rw [hfault] at h
    · obtain ⟨-, rfl⟩ := Prod.mk.inj h
      rcases world.recording.call_adds ResponseRule.respond session request with hadds | ⟨-, hsame⟩
      · exact .inr hadds
      · exact .inl (congrArg Recording.eventsOf hsame)
    · obtain ⟨-, rfl⟩ := Prod.mk.inj h
      exact .inl rfl
  abandon := rfl
  sitesFor := by
    intro world client around
    show (unlessFault (fun world : World => world.storeFaults.get? .sitesFor) _
      world).2.recording.eventsOf = _
    unfold unlessFault
    dsimp only
    rcases world.storeFaults.get? .sitesFor with _ | e <;> rfl
  audit := rfl
  emit := rfl

end World

/-! ### Journals -/

/-- The platform with a journal beside it of the sessions begun and of everything asked of them. -/
def Platform.journaled (platform : Platform σ) :
    Platform (σ × List (SessionId × SessionEvent)) where
  store := platform.store.lift fun m world =>
    let (a, inner) := m world.1
    (a, (inner, world.2))
  sessions := {
    begin := fun world =>
      match platform.sessions.begin world.1 with
      | (.ok session, inner) => (.ok session, (inner, world.2 ++ [(session, .begun)]))
      | (.error e, inner) => (.error e, (inner, world.2))
    call := fun session request world =>
      let (answer, inner) := platform.sessions.call session request world.1
      (answer, (inner, world.2 ++ [(session, .called request)]))
    abandon := fun session world =>
      let (a, inner) := platform.sessions.abandon session world.1
      (a, (inner, world.2)) }
  audit entry world := (platform.audit entry world.1, world.2)
  emit event world := (platform.emit event world.1, world.2)

/-- The journal is a log of the sessions, whatever they answer. -/
def Platform.journal (platform : Platform σ) : SessionLog platform.journaled where
  events world := journalOf world.2
  begin_ok := by
    intro world world' session h
    unfold Platform.journaled at h
    dsimp only at h
    rcases hbegin : platform.sessions.begin world.1 with ⟨e | opened, inner⟩
    · rw [hbegin] at h
      cases h
    · rw [hbegin] at h
      obtain ⟨hsession, rfl⟩ := Prod.mk.inj h
      obtain rfl := Except.ok.inj hsession
      exact journalOf_append _ _ _
  begin_error := by
    intro world world' e h
    unfold Platform.journaled at h
    dsimp only at h
    rcases hbegin : platform.sessions.begin world.1 with ⟨e | opened, inner⟩
    · rw [hbegin] at h
      obtain ⟨-, rfl⟩ := Prod.mk.inj h
      rfl
    · rw [hbegin] at h
      cases h
  call_ok := by
    intro world world' session request outcome h
    obtain ⟨-, rfl⟩ := Prod.mk.inj h
    exact journalOf_append _ _ _
  call_error := by
    intro world world' session request e h
    obtain ⟨-, rfl⟩ := Prod.mk.inj h
    exact .inr (journalOf_append _ _ _)
  abandon := rfl
  sitesFor := rfl
  audit := rfl
  emit := rfl

end TenantAccess
