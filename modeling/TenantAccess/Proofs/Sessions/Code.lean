import TenantAccess.Proofs.Sessions.Transactions

/-!
# Code that accesses data

Code calls the operations of transactions, any number of which may be open, in frames that nest in
any way; what it does next depends on what it was told.  Running it is running those operations and
frames, with a note of every statement that was tried: where, in which frames and what came of it.

* `DataCall`, `Code`: the operations and the code made of them.
* `Course.open?_set`, `Course.open?_start`, `Course.Apart`: the transactions that are open.
* `Code.run`: what the code does.
* `Frame.entered_around`: what runs in a frame, begins in the surroundings of the frames and the one
  more.
-/

namespace TenantAccess

/-! ### Frames -/

/-- A frame that code runs in. -/
inductive Frame where
  | unit (work : UnitOfWork)
  | bypass (reason : String)
  | job (name : String)

namespace Frame

/-- What the frame puts around code. -/
def layer : Frame → Layer
  | unit work => .work work
  | bypass reason => .bypass reason
  | job name => .work (.scheduled name)

variable {σ α : Type}

/-- Run in the frame. -/
def enclose (platform : Platform σ) : Frame → Work σ α → Work σ α
  | unit work => Work.withWork work
  | bypass reason => Work.bypassing platform reason
  | job name => Work.asJob platform name

/-- The surroundings after the frame: those before it in what it had changed. -/
def left (before after : Surroundings) : Frame → Surroundings
  | bypass _ => { after with bypass := before.bypass }
  | unit _ | job _ => { after with work := before.work }

/-- After a frame the frames around it are there again, grown by what was attached inside it. -/
theorem left_grown (frame : Frame) {layers layers' : List Layer}
    (h : Layer.Grown (frame.layer :: layers) layers') :
    Layer.Grown layers layers'.tail ∧
      frame.left (Layer.surroundings layers) (Layer.surroundings layers') =
        Layer.surroundings layers'.tail := by
  have hbypass := h.innermostBypass_eq
  have hwork : ∀ work, frame.layer = .work work →
      Layer.Grown layers layers'.tail ∧
        ({ Layer.surroundings layers' with work := Layer.innermostWork layers } : Surroundings) =
          Layer.surroundings layers'.tail := by
    intro work hlayer
    rw [hlayer] at h hbypass
    rw [h.of_work]
    refine ⟨.refl _, ?_⟩
    unfold Layer.surroundings
    rw [hbypass]
    rfl
  rcases frame with work | reason | name
  · exact hwork work rfl
  · obtain ⟨hgrown, hinnermost⟩ := Layer.Grown.of_bypass h
    refine ⟨hgrown, ?_⟩
    unfold left Layer.surroundings
    rw [hgrown.innermostBypass_eq, ← hinnermost]
  · exact hwork (.scheduled name) rfl

/-- The state in which what runs in the frame begins. -/
def entered (platform : Platform σ) (frame : Frame) (s : AccessState σ) : AccessState σ :=
  (frame.enclose platform get s).1

variable {platform : Platform σ} {s : AccessState σ} {layers : List Layer}

/-- Code in a frame runs in the state that entering leads to, and then the frame is left. -/
theorem enclose_eq (frame : Frame) (m : Work σ α) (s : AccessState σ) :
    frame.enclose platform m s =
      let inner := m (frame.entered platform s)
      (inner.1, { inner.2 with around := frame.left s.around inner.2.around }) := by
  rcases frame with work | reason | name <;> rfl

/-- What runs in a frame begins in the surroundings of the frames and the one more. -/
theorem entered_around (platform : Platform σ) (frame : Frame)
    (h : s.around = Layer.surroundings layers) :
    (frame.entered platform s).around = Layer.surroundings (frame.layer :: layers) := by
  have hwork : ∀ work : UnitOfWork, ({ s.around with work := some work } : Surroundings) =
      Layer.surroundings (.work work :: layers) := by
    intro work
    rw [h]
    rfl
  rcases frame with work | reason | name
  · exact hwork work
  · show ({ s.around with bypass := some reason } : Surroundings) = _
    rw [h]
    rfl
  · exact hwork (.scheduled name)

/-- All that entering a frame may do to the world is to write an entry to the audit trail. -/
theorem entered_world (platform : Platform σ) (frame : Frame) (s : AccessState σ) :
    (frame.entered platform s).world = s.world ∨
      ∃ entry, (frame.entered platform s).world = platform.audit entry s.world := by
  rcases frame with work | reason | name
  · exact .inl rfl
  · exact .inr ⟨_, rfl⟩
  · exact .inr ⟨_, rfl⟩

/-- Entering a frame is no event. -/
theorem entered_events (log : SessionLog platform) (frame : Frame) (s : AccessState σ) :
    log.events (frame.entered platform s).world = log.events s.world := by
  rcases frame.entered_world platform s with hsame | ⟨entry, haudit⟩
  · rw [hsame]
  · rw [haudit, log.audit]

end Frame

/-! ### Operations -/

/-- An open transaction and its nested scopes, the innermost first. -/
structure OpenTransaction where
  transaction : Transaction
  scopes : List NestedScope := []

/-- An operation on data. Transactions are numbered in the order in which they were begun. -/
inductive DataCall where
  | executeAlone (statement : Statement)
  | begin
  | execute (number : Nat) (statement : Statement)
  | openNested (number : Nat)
  | releaseNested (number : Nat)
  | rollbackNested (number : Nat)
  | dropNested (number : Nat)
  | commit (number : Nat)
  | rollback (number : Nat)
  | drop (number : Nat)

/-- What is told of an operation; nothing when it was on a transaction that is not open. -/
abbrev Reply := Option (Except DataAccessError StatementOutcome)

/-- A statement that was tried in a session. -/
structure Attempt (σ : Type) where
  /-- The frames around the call. -/
  layers : List Layer
  session : SessionId
  statement : Statement
  /-- The state when the session was asked for the statement. -/
  before : AccessState σ
  result : Except DataAccessError StatementOutcome
  /-- The state when the call returned. -/
  after : AccessState σ

/-- How far code has come: the frames it runs in, the transactions it has begun, of which those that
are over have left their places, and the statements it has tried. -/
structure Course (σ : Type) where
  layers : List Layer := []
  desk : List (Option OpenTransaction) := []
  attempts : List (Attempt σ) := []

namespace Course

variable {σ : Type}

/-- The open transaction with a number. -/
def open? (course : Course σ) (number : Nat) : Option OpenTransaction :=
  course.desk[number]?.join

/-- The course with another transaction in the place of a number, or none any more. -/
def put (course : Course σ) (number : Nat) (transaction? : Option OpenTransaction) : Course σ :=
  { course with desk := course.desk.set number transaction? }

/-- The course with one more transaction begun, or tried to. -/
def start (course : Course σ) (transaction? : Option OpenTransaction) : Course σ :=
  { course with desk := course.desk ++ [transaction?] }

/-- The course with one more statement tried. -/
def note (course : Course σ) (attempt : Attempt σ) : Course σ :=
  { course with attempts := course.attempts ++ [attempt] }

/-- Putting a transaction in its place changes what is open there and nowhere else. -/
theorem open?_set {course course' : Course σ} {number : Nat} {opened : OpenTransaction}
    {opened? : Option OpenTransaction} (hopen : course.open? number = some opened)
    (hdesk : course'.desk = course.desk.set number opened?) (other : Nat) :
    course'.open? other = if other = number then opened? else course.open? other := by
  have hlt : number < course.desk.length := by
    by_contra hge
    unfold open? at hopen
    rw [List.getElem?_eq_none (by omega)] at hopen
    cases hopen
  unfold open?
  rw [hdesk, List.getElem?_set]
  by_cases hsame : number = other
  · subst hsame
    simp [hlt]
  · simp [hsame, Ne.symm hsame]

/-- A transaction that was begun is open in the next place, and nothing else changes. -/
theorem open?_start (course : Course σ) (opened? : Option OpenTransaction) (other : Nat) :
    (course.start opened?).open? other =
      if other = course.desk.length then opened? else course.open? other := by
  unfold open? start
  dsimp only
  split
  · rename_i hlast
    subst hlast
    simp
  · rename_i hne
    rcases Nat.lt_or_gt_of_ne hne with hlt | hgt
    · rw [List.getElem?_append_left hlt]
    · rw [List.getElem?_eq_none (by simp; omega), List.getElem?_eq_none (by omega)]

/-- With one more transaction begun, it is the last one, and the others are those there were. -/
theorem open?_start_cases {course : Course σ} {opened? : Option OpenTransaction}
    {number : Nat} {opened : OpenTransaction}
    (h : (course.start opened?).open? number = some opened) :
    course.open? number = some opened ∨ (number = course.desk.length ∧ opened? = some opened) := by
  rw [open?_start] at h
  split at h
  · rename_i hlast
    exact .inr ⟨hlast, h⟩
  · exact .inl h

/-- No two open transactions have a session in common. -/
def Apart (course : Course σ) : Prop :=
  ∀ number number' opened opened', course.open? number = some opened →
    course.open? number' = some opened' →
    opened.transaction.session = opened'.transaction.session → number = number'

namespace Apart

variable {course course' : Course σ}

/-- So it is where no other transactions are open. -/
theorem mono (h : course.Apart)
    (hopen : ∀ number opened, course'.open? number = some opened →
      course.open? number = some opened) : course'.Apart :=
  fun first second opened opened' hfirst hsecond =>
    h first second opened opened' (hopen _ _ hfirst) (hopen _ _ hsecond)

/-- A transaction that is still open is so in its own session. -/
theorem set (h : course.Apart) {number : Nat} {opened : OpenTransaction}
    {opened? : Option OpenTransaction} (hopen : course.open? number = some opened)
    (hdesk : course'.desk = course.desk.set number opened?)
    (hsession : ∀ opened', opened? = some opened' →
      opened'.transaction.session = opened.transaction.session) : course'.Apart := by
  have hbefore : ∀ other opened', course'.open? other = some opened' →
      ∃ before, course.open? other = some before ∧
        opened'.transaction.session = before.transaction.session := by
    intro other opened' hother
    rw [open?_set hopen hdesk] at hother
    split at hother
    · rename_i hsame
      subst hsame
      exact ⟨opened, hopen, hsession opened' hother⟩
    · exact ⟨opened', hother, rfl⟩
  intro first second opened' opened'' hfirst hsecond hsame
  obtain ⟨before, hbefore', heq⟩ := hbefore first opened' hfirst
  obtain ⟨before', hbefore'', heq'⟩ := hbefore second opened'' hsecond
  exact h first second before before' hbefore' hbefore'' (by rw [← heq, ← heq', hsame])

/-- One more transaction is in a session that no other one is in. -/
theorem start (h : course.Apart) {opened? : Option OpenTransaction}
    (hnew : ∀ number before opened, course.open? number = some before → opened? = some opened →
      before.transaction.session ≠ opened.transaction.session) : (course.start opened?).Apart := by
  intro first second opened opened' hfirst hsecond hsame
  rcases open?_start_cases hfirst with hbefore | ⟨hlast, hopened⟩ <;>
    rcases open?_start_cases hsecond with hbefore' | ⟨hlast', hopened'⟩
  · exact h first second opened opened' hbefore hbefore' hsame
  · exact absurd hsame (hnew first opened opened' hbefore hopened')
  · exact absurd hsame.symm (hnew second opened' opened hbefore' hopened)
  · exact hlast.trans hlast'.symm

end Apart
end Course

/-- What is told of an operation without an outcome of its own. -/
def reply {α : Type} (result : Except DataAccessError α) : Reply :=
  some (result.map fun _ => {})

namespace DataCall

variable {σ : Type} (platform : Platform σ) (course : Course σ)

/-- Run a statement on an open transaction. -/
def runOn (number : Nat) (statement : Statement) (opened : OpenTransaction) :
    Work σ (Reply × Course σ) := fun s =>
  let ((result, transaction), t) := Transaction.execute platform statement opened.transaction s
  let attempt : Attempt σ :=
    ⟨course.layers, opened.transaction.session, statement, s, result, t⟩
  ((some result, (course.put number (some { opened with transaction })).note attempt), t)

/-- Run a statement in a transaction of its own. It is tried only once that is open. -/
def runAlone (statement : Statement) : Work σ (Reply × Course σ) := fun s =>
  let (result, t) := Transaction.executeAlone platform statement s
  match Transaction.begin platform s with
  | (.ok transaction, opened) =>
    let attempt : Attempt σ :=
      ⟨course.layers, transaction.session, statement, opened, result, t⟩
    ((some result, course.note attempt), t)
  | (.error _, _) => ((some result, course), t)

/-- Carry an operation out on an open transaction. -/
def performOn (opened : OpenTransaction) : DataCall → Work σ (Reply × Course σ)
  | executeAlone _ | begin => pure (none, course)
  | execute number statement => runOn platform course number statement opened
  | openNested number => do
    let (result, transaction) ← (Transaction.openNested platform).run opened.transaction
    let scopes := match result with
      | .ok scope => scope :: opened.scopes
      | .error _ => opened.scopes
    pure (reply result, course.put number (some ⟨transaction, scopes⟩))
  | releaseNested number =>
    match opened.scopes with
    | [] => pure (none, course)
    | scope :: scopes => do
      let (result, transaction) ← (Transaction.releaseNested platform scope).run opened.transaction
      pure (reply result, course.put number (some ⟨transaction, scopes⟩))
  | rollbackNested number =>
    match opened.scopes with
    | [] => pure (none, course)
    | scope :: scopes => do
      let (result, transaction) ← (Transaction.rollbackNested platform scope).run opened.transaction
      pure (reply result, course.put number (some ⟨transaction, scopes⟩))
  | dropNested number =>
    pure (none, course.put number (some { opened with scopes := opened.scopes.tail }))
  | commit number => do
    let result ← (Transaction.commit platform opened.transaction).run
    pure (reply result, course.put number none)
  | rollback number => do
    let result ← (Transaction.rollback platform opened.transaction).run
    pure (reply result, course.put number none)
  | drop number => do
    Transaction.abandon platform opened.transaction
    pure (none, course.put number none)

section NestedScopes

variable {platform course} {opened : OpenTransaction} {number : Nat} {s t : AccessState σ}
  {transaction : Transaction}

/-- A nested scope that could be opened is the innermost one. -/
theorem performOn_openNested_ok {scope : NestedScope}
    (h : Transaction.openNested platform opened.transaction s = ((.ok scope, transaction), t)) :
    performOn platform course opened (.openNested number) s =
      ((reply (.ok scope),
        course.put number (some ⟨transaction, scope :: opened.scopes⟩)), t) := by
  simp only [performOn, bind, StateT.bind, ExceptT.run, h]
  rfl

/-- Where a nested scope could not be opened, the scopes stay as they are. -/
theorem performOn_openNested_error {e : DataAccessError}
    (h : Transaction.openNested platform opened.transaction s = ((.error e, transaction), t)) :
    performOn platform course opened (.openNested number) s =
      ((reply (.error e : Except _ NestedScope),
        course.put number (some ⟨transaction, opened.scopes⟩)), t) := by
  simp only [performOn, bind, StateT.bind, ExceptT.run, h]
  rfl

end NestedScopes

/-- The number of the transaction that an operation is on. -/
def number? : DataCall → Option Nat
  | executeAlone _ | begin => none
  | execute number _ | openNested number | releaseNested number | rollbackNested number
  | dropNested number | commit number | rollback number | drop number => some number

/-- Carry an operation out on the transaction that it is on, if that one is open. -/
def performOpen (request : DataCall) : Work σ (Reply × Course σ) :=
  match request.number?.bind course.open? with
  | none => pure (none, course)
  | some opened => performOn platform course opened request

/-- Carry an operation out. -/
def perform (request : DataCall) : Work σ (Reply × Course σ) :=
  match request with
  | executeAlone statement => runAlone platform course statement
  | begin => do
    let result ← (Transaction.begin platform).run
    pure (reply result, course.start (result.toOption.map ({ transaction := · })))
  | request => performOpen platform course request

/-- Every operation but two is on a transaction that is open already. -/
theorem perform_cases (request : DataCall) :
    (∃ statement, request = .executeAlone statement) ∨ request = .begin ∨
      request.perform platform course = request.performOpen platform course := by
  cases request with
  | executeAlone statement => exact .inl ⟨statement, rfl⟩
  | begin => exact .inr (.inl rfl)
  | _ => exact .inr (.inr rfl)

end DataCall

/-! ### Code -/

/-- Code: operations on data, each with what follows for each reply, grants attached to the unit of
work around, and code in frames. -/
inductive Code where
  | done
  | call (request : DataCall) (next : Reply → Code)
  | attach (grant : EffectiveGrant) (next : Code)
  | framed (frame : Frame) (body : Code) (next : Code)

/-- Run code. -/
def Code.run {σ : Type} (platform : Platform σ) : Code → Course σ → Work σ (Course σ)
  | done, course => pure course
  | call request next, course => do
    let (answer, course) ← request.perform platform course
    (next answer).run platform course
  | attach grant next, course => do
    let _ ← Work.attachGrant grant
    next.run platform { course with layers := Layer.attach grant course.layers }
  | framed frame body next, course => do
    let inner ← frame.enclose platform
      (body.run platform { course with layers := frame.layer :: course.layers })
    next.run platform { inner with layers := inner.layers.tail }

/-- A call is carried out, and its reply decides how the code goes on. -/
theorem Code.run_call {σ : Type} (platform : Platform σ) (request : DataCall) (next : Reply → Code)
    (course : Course σ) (s : AccessState σ) :
    (call request next).run platform course s =
      let called := request.perform platform course s
      (next called.1.1).run platform called.1.2 called.2 := rfl

/-- The body of a frame runs inside of it, and what comes next runs around it. -/
theorem Code.run_framed {σ : Type} (platform : Platform σ) (frame : Frame) (body next : Code)
    (course : Course σ) (s : AccessState σ) :
    (framed frame body next).run platform course s =
      let inner := frame.enclose platform
        (body.run platform { course with layers := frame.layer :: course.layers }) s
      next.run platform { inner.1 with layers := inner.1.layers.tail } inner.2 := rfl

end TenantAccess
