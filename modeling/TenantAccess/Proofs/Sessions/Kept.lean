import TenantAccess.Proofs.Sessions.Code

/-!
# What data access keeps

Data access changes the state by finding the policy of the moment and by asking the world for what
it offers.  A property of states that each of these keeps is kept by every operation on data, and it
holds wherever a statement is tried.

* `KeptByAccess`: each of them keeps the property.
* `KeptByAccess.perform`: so does every operation.
* `Attempt.Arose`: the two ways in which a statement comes to be tried.
* `KeptByAccess.tried`: every statement that an operation tries arose in one of them, in the frames
  of the operation, where the property held.
-/

namespace TenantAccess

variable {σ ε α β : Type} {platform : Platform σ} {P : AccessState σ → Prop}

/-! ### Computations that keep a property -/

/-- From every state with the property the task leads to one with it. -/
def Keeps (P : AccessState σ → Prop) (m : Task σ ε α) : Prop := ∀ s, P s → P (m s).2

/-- So does the computation, whatever the transaction. -/
def KeepsOn (P : AccessState σ → Prop) (m : TransactionTask σ α) : Prop :=
  ∀ tx s, P s → P (m tx s).2

/-- A value keeps any property. -/
theorem Keeps.pure (value : α) : Keeps P (pure value : Task σ ε α) := fun _ hs => hs

/-- A task that keeps the property may go on with others that do. -/
theorem Keeps.bind {m : Task σ ε α} {f : α → Task σ ε β} (h : Keeps P m)
    (h' : ∀ value, Keeps P (f value)) : Keeps P (m >>= f) := by
  intro s hs
  have hfirst := h s hs
  rcases hrun : m s with ⟨e | value, t⟩
  · rw [hrun] at hfirst
    rw [Task.bind_error hrun]
    exact hfirst
  · rw [hrun] at hfirst
    rw [Task.bind_ok hrun]
    exact h' value t hfirst

namespace KeepsOn

/-- A value keeps any property, whatever the transaction. -/
theorem pure (value : α) : KeepsOn P (pure value : TransactionTask σ α) := fun _ _ hs => hs

/-- So does looking at the transaction. -/
theorem get : KeepsOn P (getThe Transaction : TransactionTask σ Transaction) := fun _ _ hs => hs

/-- So does changing the transaction, which is no part of the state. -/
theorem modify (change : Transaction → Transaction) :
    KeepsOn P (modifyThe Transaction change : TransactionTask σ PUnit) := fun _ _ hs => hs

/-- A task that keeps the property does so beside any transaction. -/
theorem ofTask {m : Task σ DataAccessError α} (h : Keeps P m) :
    KeepsOn P (Transaction.ofTask m) := fun _ s hs => h s hs

/-- A computation that keeps the property may go on with others that do. -/
theorem bind {m : TransactionTask σ α} {f : α → TransactionTask σ β} (h : KeepsOn P m)
    (h' : ∀ value, KeepsOn P (f value)) : KeepsOn P (m >>= f) := by
  intro tx s hs
  have hfirst := h tx s hs
  rcases hrun : m tx s with ⟨⟨e | value, tx'⟩, t⟩
  · rw [hrun] at hfirst
    rw [TransactionTask.bind_error hrun]
    exact hfirst
  · rw [hrun] at hfirst
    rw [TransactionTask.bind_ok hrun]
    exact h' value tx' t hfirst

end KeepsOn

/-! ### Properties that data access keeps -/

/-- The property is kept when the policy of the moment is found, and by everything that sessions and
listeners are asked for. -/
structure KeptByAccess (platform : Platform σ) (P : AccessState σ → Prop) : Prop where
  policy : Keeps P (DataAccessPolicy.current platform)
  begin : ∀ s, P s → P { s with world := (platform.sessions.begin s.world).2 }
  call : ∀ session request s, P s →
    P { s with world := (platform.sessions.call session request s.world).2 }
  abandon : ∀ session s, P s → P { s with world := (platform.sessions.abandon session s.world).2 }
  emit : ∀ event s, P s → P { s with world := platform.emit event s.world }

namespace KeptByAccess

variable (h : KeptByAccess platform P)
include h

/-- A call keeps the property. -/
theorem asking (session : SessionId) (request : SessionCall) :
    Keeps P (Transaction.call platform session request) := h.call session request

/-- Putting the policy of the moment in force keeps it: the policy is found, and settings are asked
for. -/
theorem applyPolicy (session : SessionId) : Keeps P (Transaction.applyPolicy platform session) := by
  unfold Transaction.applyPolicy
  apply h.policy.bind
  intro policy
  apply (h.asking session (.settings policy.settings)).bind
  intro _
  exact .pure policy

/-- A statement keeps it, wherever it fails. -/
theorem execute (statement : Statement) : KeepsOn P (Transaction.execute platform statement) := by
  unfold Transaction.execute
  refine KeepsOn.bind .get ?_
  intro tx
  apply (KeepsOn.ofTask (h.applyPolicy tx.session)).bind
  intro policy
  apply (KeepsOn.ofTask (h.asking tx.session _)).bind
  intro outcome
  have haround : Keeps (ε := DataAccessError) P (monadLift (Work.around : Work σ Surroundings)) :=
    fun _ hs => hs
  apply (KeepsOn.ofTask haround).bind
  intro around
  refine KeepsOn.bind (.modify _) ?_
  intro _
  exact .pure outcome

/-- Opening a nested scope keeps it, wherever it fails. -/
theorem openNested : KeepsOn P (Transaction.openNested platform) := by
  unfold Transaction.openNested
  refine KeepsOn.bind (.modify _) ?_
  intro _
  refine KeepsOn.bind .get ?_
  intro tx
  apply (KeepsOn.ofTask (h.asking tx.session _)).bind
  intro _
  apply (KeepsOn.ofTask (h.applyPolicy tx.session)).bind
  intro _
  exact .pure _

/-- Releasing a nested scope keeps it. -/
theorem releaseNested (scope : NestedScope) :
    KeepsOn P (Transaction.releaseNested platform scope) := by
  unfold Transaction.releaseNested
  refine KeepsOn.bind .get ?_
  intro tx
  apply (KeepsOn.ofTask (h.asking tx.session _)).bind
  intro _
  exact .pure _

/-- Rolling a nested scope back keeps it, wherever it fails. -/
theorem rollbackNested (scope : NestedScope) :
    KeepsOn P (Transaction.rollbackNested platform scope) := by
  unfold Transaction.rollbackNested
  refine KeepsOn.bind .get ?_
  intro tx
  apply (KeepsOn.ofTask (h.asking tx.session _)).bind
  intro _
  refine KeepsOn.bind (.modify _) ?_
  intro _
  exact h.releaseNested scope

/-- Beginning a transaction keeps it. -/
theorem beginning : Keeps P (Transaction.begin platform) := by
  have hbegin : Keeps P (ExceptT.adapt DataAccessError.session
      (ExceptT.mk (Work.ofWorld platform.sessions.begin))) := h.begin
  unfold Transaction.begin
  apply hbegin.bind
  intro session
  exact .pure _

/-- Telling all that is pending keeps it, by induction on what is left to tell. -/
theorem emitAll (pending : List ChangeEvent) {s : AccessState σ} (hs : P s) :
    P { s with world := pending.foldl (fun world e => platform.emit e world) s.world } := by
  induction pending generalizing s with
  | nil => exact hs
  | cons event pending ih => exact ih (h.emit event s hs)

/-- A commit keeps it; the pending events are told only if it succeeds. -/
theorem commit (tx : Transaction) : Keeps P (Transaction.commit platform tx) := by
  unfold Transaction.commit
  apply (h.asking tx.session .commit).bind
  intro _ s hs
  exact h.emitAll tx.pending hs

/-- Rolling a transaction back keeps it. -/
theorem rollback (tx : Transaction) : Keeps P (Transaction.rollback platform tx) := by
  unfold Transaction.rollback
  apply (h.asking tx.session .rollback).bind
  intro _
  exact .pure _

/-- A statement in a transaction of its own keeps it, whichever way that transaction ends. -/
theorem executeAlone (statement : Statement) :
    Keeps P (Transaction.executeAlone platform statement) := by
  unfold Transaction.executeAlone
  apply h.beginning.bind
  intro tx
  have hrun : Keeps (ε := DataAccessError) P
      (monadLift ((Transaction.execute platform statement).run tx)) :=
    fun s hs => h.execute statement tx s hs
  apply hrun.bind
  rintro ⟨e | outcome, tx'⟩
  · have hrollback : Keeps (ε := DataAccessError) P
        (monadLift (Transaction.rollback platform tx').run) := h.rollback tx'
    exact hrollback.bind fun _ _ hs => hs
  · exact (h.commit tx').bind fun _ _ hs => hs

/-! ### Operations -/

variable (course : Course σ) {s : AccessState σ}

/-- Whatever operation is carried out on an open transaction. -/
theorem performOn (opened : OpenTransaction) (request : DataCall) (hs : P s) :
    P (DataCall.performOn platform course opened request s).2 := by
  cases request with
  | executeAlone statement => exact hs
  | begin => exact hs
  | execute number statement => exact h.execute statement opened.transaction s hs
  | openNested number => exact h.openNested opened.transaction s hs
  | releaseNested number =>
    unfold DataCall.performOn
    rcases opened.scopes with _ | ⟨scope, scopes⟩
    · exact hs
    · exact h.releaseNested scope opened.transaction s hs
  | rollbackNested number =>
    unfold DataCall.performOn
    rcases opened.scopes with _ | ⟨scope, scopes⟩
    · exact hs
    · exact h.rollbackNested scope opened.transaction s hs
  | dropNested number => exact hs
  | commit number => exact h.commit opened.transaction s hs
  | rollback number => exact h.rollback opened.transaction s hs
  | drop number => exact h.abandon _ s hs

/-- Whatever operation is carried out on the transaction that it is on, if that is open. -/
theorem performOpen (request : DataCall) (hs : P s) :
    P (DataCall.performOpen platform course request s).2 := by
  unfold DataCall.performOpen
  rcases request.number?.bind course.open? with _ | opened
  · exact hs
  · exact h.performOn course opened request hs

/-- A statement in a transaction of its own, as an operation of code. -/
theorem runAlone (statement : Statement) (hs : P s) :
    P (DataCall.runAlone platform course statement s).2 := by
  have hrun := h.executeAlone statement s hs
  unfold DataCall.runAlone
  rcases Transaction.begin platform s with ⟨e | tx, opened⟩
  · exact hrun
  · exact hrun

/-- Whatever operation is carried out. -/
theorem perform (request : DataCall) (hs : P s) : P (request.perform platform course s).2 := by
  obtain ⟨statement, rfl⟩ | rfl | hopen := request.perform_cases platform course
  · exact h.runAlone course statement hs
  · exact h.beginning s hs
  · rw [hopen]
    exact h.performOpen course request hs

end KeptByAccess

/-! ### Statements that are tried -/

/-- How the statement came to be tried: in a transaction that was open, or in one of its own right
after that was begun. -/
inductive Attempt.Arose (platform : Platform σ) (attempt : Attempt σ) : Prop where
  | inside {tx tx' : Transaction} (hsession : tx.session = attempt.session)
    (hrun : Transaction.execute platform attempt.statement tx attempt.before =
      ((attempt.result, tx'), attempt.after))
  | alone {s : AccessState σ} {tx : Transaction} (hsession : tx.session = attempt.session)
    (hbegin : Transaction.begin platform s = (.ok tx, attempt.before))
    (hrun : Transaction.executeAlone platform attempt.statement s =
      (attempt.result, attempt.after))

/-- The statements that were tried from one course to the other arose in the frames of the first
one, where the property held; the frames are still the same ones. -/
structure TriedHere (platform : Platform σ) (P : AccessState σ → Prop)
    (course course' : Course σ) : Prop where
  layers : course'.layers = course.layers
  attempts : ∃ tried, course'.attempts = course.attempts ++ tried ∧ ∀ attempt ∈ tried,
    attempt.layers = course.layers ∧ P attempt.before ∧ attempt.Arose platform

namespace TriedHere

variable {course course' : Course σ}

/-- Nothing was tried. -/
theorem nothing (hlayers : course'.layers = course.layers)
    (hattempts : course'.attempts = course.attempts) : TriedHere platform P course course' :=
  ⟨hlayers, [], by rw [hattempts, List.append_nil], by simp⟩

/-- One statement was tried. -/
theorem one {attempt : Attempt σ} (hlayers : course'.layers = course.layers)
    (hattempts : course'.attempts = course.attempts ++ [attempt])
    (hhere : attempt.layers = course.layers) (hbefore : P attempt.before)
    (harose : attempt.Arose platform) : TriedHere platform P course course' := by
  refine ⟨hlayers, [attempt], hattempts, ?_⟩
  intro other hother
  obtain rfl := List.mem_singleton.mp hother
  exact ⟨hhere, hbefore, harose⟩

end TriedHere

namespace KeptByAccess

variable (h : KeptByAccess platform P) (course : Course σ) {s : AccessState σ}

/-- Whatever operation on an open transaction tries a statement. -/
theorem triedOn (opened : OpenTransaction) (request : DataCall) (hs : P s) :
    TriedHere platform P course (DataCall.performOn platform course opened request s).1.2 := by
  cases request with
  | executeAlone statement => exact .nothing rfl rfl
  | begin => exact .nothing rfl rfl
  | execute number statement => exact .one rfl rfl rfl hs (.inside rfl rfl)
  | openNested number => exact .nothing rfl rfl
  | releaseNested number =>
    unfold DataCall.performOn
    rcases opened.scopes with _ | ⟨scope, scopes⟩ <;> exact .nothing rfl rfl
  | rollbackNested number =>
    unfold DataCall.performOn
    rcases opened.scopes with _ | ⟨scope, scopes⟩ <;> exact .nothing rfl rfl
  | dropNested number => exact .nothing rfl rfl
  | commit number => exact .nothing rfl rfl
  | rollback number => exact .nothing rfl rfl
  | drop number => exact .nothing rfl rfl

/-- Whatever operation tries a statement in the transaction that it is on. -/
theorem triedOpen (request : DataCall) (hs : P s) :
    TriedHere platform P course (DataCall.performOpen platform course request s).1.2 := by
  unfold DataCall.performOpen
  rcases request.number?.bind course.open? with _ | opened
  · exact .nothing rfl rfl
  · exact triedOn course opened request hs

include h

/-- A statement of its own is tried right after its transaction was begun, or not at all. -/
theorem triedAlone (statement : Statement) (hs : P s) :
    TriedHere platform P course (DataCall.runAlone platform course statement s).1.2 := by
  have hbegun := h.beginning s hs
  unfold DataCall.runAlone
  rcases hbegin : Transaction.begin platform s with ⟨e | tx, opened⟩
  · exact .nothing rfl rfl
  · rw [hbegin] at hbegun
    exact .one rfl rfl rfl hbegun (.alone rfl hbegin rfl)

/-- Whatever operation is carried out. -/
theorem tried (request : DataCall) (hs : P s) :
    TriedHere platform P course (request.perform platform course s).1.2 := by
  obtain ⟨statement, rfl⟩ | rfl | hopen := request.perform_cases platform course
  · exact h.triedAlone course statement hs
  · exact .nothing rfl rfl
  · rw [hopen]
    exact triedOpen course request hs

end KeptByAccess

/-! ### Statements that are refused -/

/-- The statement failed for the reason, and nothing was asked of a session meanwhile but to roll
back. -/
structure Attempt.Stopped (log : SessionLog platform) (attempt : Attempt σ) (e : DataAccessError) :
    Prop where
  result : attempt.result = .error e
  events : ∀ session, ∃ new, log.events attempt.after.world session =
    log.events attempt.before.world session ++ new ∧ ∀ event ∈ new, event = .called .rollback

/-- Where the frames define no settings, the statement is refused: in an open transaction nothing is
asked of the session, and a transaction of its own is rolled back. -/
theorem Attempt.Arose.stopped (log : SessionLog platform) {attempt : Attempt σ}
    (h : attempt.Arose platform)
    (haround : attempt.before.around = Layer.surroundings attempt.layers) {e : DataAccessError}
    (he : Layer.required platform attempt.layers attempt.before = .error e) :
    attempt.Stopped log e := by
  cases h with
  | @inside tx tx' hsession hrun =>
    obtain ⟨result, tx'', t, hrun', hrefused⟩ := execute_asks log tx attempt.statement haround
    rw [he] at hrefused
    obtain ⟨rfl, hsilent⟩ := hrefused
    rw [hrun] at hrun'
    obtain ⟨hresult, rfl⟩ := Prod.mk.inj hrun'
    refine ⟨congrArg Prod.fst hresult, ?_⟩
    intro session
    refine ⟨[], ?_, by simp⟩
    rw [hsilent.events, List.append_nil]
  | @alone s tx hsession hbegin hrun =>
    obtain ⟨result, tx', u, hrun', hrefused⟩ := execute_asks log tx attempt.statement haround
    rw [he] at hrefused
    obtain ⟨rfl, hsilent⟩ := hrefused
    rw [executeAlone_of_ok hbegin hrun'] at hrun
    obtain ⟨hresult, hafter⟩ := Prod.mk.inj hrun
    obtain ⟨new, hasks, hnew⟩ := call_asks log tx'.session .rollback u
    have hrolled : (Transaction.rollback platform tx' u).2 =
        (Transaction.call platform tx'.session .rollback u).2 := by
      unfold Transaction.rollback
      rcases hcall : Transaction.call platform tx'.session .rollback u with ⟨e' | outcome, t⟩
      · rw [Task.bind_error hcall]
      · rw [Task.bind_ok hcall]
        rfl
    refine ⟨hresult.symm, ?_⟩
    intro session
    rw [← hafter, hrolled, hasks.events session, hsilent.events]
    refine ⟨_, rfl, ?_⟩
    intro event hevent
    split at hevent
    · rcases hnew with rfl | rfl
      · cases hevent
      · exact List.mem_singleton.mp hevent
    · cases hevent

/-! ### Properties kept by all data access -/

/-- Two properties that data access keeps, it keeps together. -/
theorem KeptByAccess.and {Q : AccessState σ → Prop} (h : KeptByAccess platform P)
    (h' : KeptByAccess platform Q) : KeptByAccess platform (fun s => P s ∧ Q s) where
  policy s hs := ⟨h.policy s hs.1, h'.policy s hs.2⟩
  begin s hs := ⟨h.begin s hs.1, h'.begin s hs.2⟩
  call session request s hs := ⟨h.call session request s hs.1, h'.call session request s hs.2⟩
  abandon session s hs := ⟨h.abandon session s hs.1, h'.abandon session s hs.2⟩
  emit event s hs := ⟨h.emit event s hs.1, h'.emit event s hs.2⟩

/-- Data access keeps the surroundings. -/
theorem around_keptByAccess (platform : Platform σ) (around : Surroundings) :
    KeptByAccess platform (fun s => s.around = around) where
  policy s hs := (current_reading platform s).around.trans hs
  begin _ hs := hs
  call _ _ _ hs := hs
  abandon _ _ hs := hs
  emit _ _ hs := hs

end TenantAccess
