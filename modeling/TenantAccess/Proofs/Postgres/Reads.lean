import TenantAccess.Proofs.Computation
import TenantAccess.Proofs.Postgres.Rows

/-!
# Reads of memberships run in a transaction of their own

A read of the membership tables opens a transaction, turns row policies off in it, sends its
request and commits.  Whatever the server answers, the request is not sent unless the steps before it
succeeded, nothing is returned unless the commit succeeded too, and a step that fails makes the store
unavailable.

* `Turn`, `Pool.transcribed`: what is said to any server, written down beside it with its answers.
* `ReadCourse`: how a read can go.  `Transacted` is what that comes to (`ReadCourse.transacted`).
* `readRows_of_answered`, `read_of_committed` and the lemmas around them: what a read comes to, step
  by step.
* `read_course`: every read goes so.
* `reads_transacted`: the four reads, with what they make of the rows.
-/

namespace TenantAccess.Postgres

variable {σ α β : Type}

/-! ### Transcripts -/

/-- One turn in the conversation with a server: what was asked for, with the answer. -/
inductive Turn where
  /-- A transaction was to be opened. -/
  | opened (answer : Except Failure Connection)
  /-- A request was sent in the transaction on a connection. -/
  | sent (connection : Connection) (request : Request) (answer : Except Failure Reply)

/-- The pool with a transcript beside it. -/
def Pool.transcribed (pool : Pool σ) : Pool (σ × List Turn) where
  begin := fun world =>
    let (answer, inner) := pool.begin world.1
    (answer, (inner, world.2 ++ [.opened answer]))
  send connection request := fun world =>
    let (answer, inner) := pool.send connection request world.1
    (answer, (inner, world.2 ++ [.sent connection request answer]))

/-- The request that ends a transaction and keeps what was done in it. -/
def Request.commit : Request := { text := "COMMIT" }

/-- The request that ends a transaction and undoes what was done in it. -/
def Request.rollback : Request := { text := "ROLLBACK" }

/-! ### The course of a read -/

/-- The course of a read: what is said to the server, with the answers, and what is returned. What
`Unfit` says of the rows of the answer ends the read before it is committed, what `Meant` says of
them is the result of one that is committed. -/
inductive ReadCourse (operation : StoreOperation) (request : Request)
    (Unfit : List Row → StoreError → Prop) (Meant : List Row → Except StoreError β → Prop) :
    List Turn → Except StoreError β → Prop where
  /-- Without a transaction nothing is sent. -/
  | unopened (e : Failure) :
    ReadCourse operation request Unfit Meant [.opened (.error e)] (.error (e.inStore operation))
  /-- Row policies could not be turned off. -/
  | restricted (connection : Connection) (e : Failure) (undone : Except Failure Reply) :
    ReadCourse operation request Unfit Meant
      [.opened (.ok connection), .sent connection .bypassPolicies (.error e),
        .sent connection .rollback undone]
      (.error (e.inStore operation))
  /-- The request was not answered. -/
  | unanswered (connection : Connection) (made : Reply) (e : Failure)
    (undone : Except Failure Reply) :
    ReadCourse operation request Unfit Meant
      [.opened (.ok connection), .sent connection .bypassPolicies (.ok made),
        .sent connection request (.error e), .sent connection .rollback undone]
      (.error (e.inStore operation))
  /-- The answer does not fit the request. -/
  | unfit (connection : Connection) (made reply : Reply) {error : StoreError}
    (h : Unfit reply.rows error) (undone : Except Failure Reply) :
    ReadCourse operation request Unfit Meant
      [.opened (.ok connection), .sent connection .bypassPolicies (.ok made),
        .sent connection request (.ok reply), .sent connection .rollback undone]
      (.error error)
  /-- The transaction could not be committed. -/
  | uncommitted (connection : Connection) (made reply : Reply) (e : Failure)
    (undone : Except Failure Reply) :
    ReadCourse operation request Unfit Meant
      [.opened (.ok connection), .sent connection .bypassPolicies (.ok made),
        .sent connection request (.ok reply), .sent connection .commit (.error e),
        .sent connection .rollback undone]
      (.error (e.inStore operation))
  /-- The rows are made something of only after the commit. -/
  | committed (connection : Connection) (made reply done : Reply) {result : Except StoreError β}
    (h : Meant reply.rows result) :
    ReadCourse operation request Unfit Meant
      [.opened (.ok connection), .sent connection .bypassPolicies (.ok made),
        .sent connection request (.ok reply), .sent connection .commit (.ok done)]
      result

/-! ### What follows from the course -/

/-- A step of a read that failed: its transaction was not opened, or a request was not carried out.
Rolling back is no step of a read. -/
inductive Turn.Failed : Turn → Prop where
  | opened (e : Failure) : Turn.Failed (.opened (.error e))
  | sent (connection : Connection) {request : Request} (e : Failure) (h : request ≠ .rollback) :
    Turn.Failed (.sent connection request (.error e))

/-- Whatever the answer to it, going back is no step that failed. -/
theorem Turn.not_failed_rollback (connection : Connection) (undone : Except Failure Reply) :
    ¬ Turn.Failed (.sent connection .rollback undone) := by
  rintro ⟨⟩
  contradiction

/-- The error says that the store is not available, and in which operation. -/
def UnavailableIn (operation : StoreOperation) (error : StoreError) : Prop :=
  ∃ before after, error = .unavailable (before ++ operation.text ++ after)

/-- A failure of the server in an operation makes the store unavailable in it. -/
theorem unavailableIn_inStore (operation : StoreOperation) (e : Failure) :
    UnavailableIn operation (e.inStore operation) := by
  cases e with
  | refused code explanation =>
    exact ⟨"database error in ", " (" ++ code ++ "): " ++ explanation, by
      simp only [Failure.inStore, String.append_assoc]⟩
  | closed => exact ⟨"connection pool closed in ", "", by simp [Failure.inStore]⟩
  | broken => exact ⟨"sqlx error in ", "", by simp [Failure.inStore]⟩

/-- All that is said when each step of a read succeeds. -/
def wholeRead (connection : Connection) (request : Request) (made reply done : Reply) :
    List Turn :=
  [.opened (.ok connection), .sent connection .bypassPolicies (.ok made),
    .sent connection request (.ok reply), .sent connection .commit (.ok done)]

/-- A read that runs in a transaction of its own. -/
structure Transacted (operation : StoreOperation) (request : Request)
    (Unfit : List Row → StoreError → Prop) (Meant : List Row → Except StoreError β → Prop)
    (turns : List Turn) (result : Except StoreError β) : Prop where
  course : ReadCourse operation request Unfit Meant turns result
  /-- The request is sent only in a transaction that was opened, and in which row policies were
  turned off before. -/
  bypassed : ∀ connection answer, .sent connection request answer ∈ turns →
    ∃ made, [.opened (.ok connection), .sent connection .bypassPolicies (.ok made),
      .sent connection request answer] <+: turns
  /-- There is a value only if each step succeeded, up to the commit. -/
  complete : ∀ value, result = .ok value → ∃ connection made reply done,
    turns = wholeRead connection request made reply done
  /-- A step that fails makes the store unavailable in the operation. -/
  unavailable : ∀ turn ∈ turns, turn.Failed →
    ∃ error, result = .error error ∧ UnavailableIn operation error
  /-- What is returned after a commit is what the rows mean. -/
  meant : ∀ connection made reply done, turns = wholeRead connection request made reply done →
    Meant reply.rows result

/-- The request is none of those that a read sends beside its own. -/
def Request.IsPlain (request : Request) : Prop :=
  request.text ∉ [Request.bypassPolicies.text, Request.commit.text, Request.rollback.text]

instance (request : Request) : Decidable request.IsPlain :=
  inferInstanceAs (Decidable (request.text ∉ _))

namespace ReadCourse

variable {operation : StoreOperation} {request : Request} {Unfit : List Row → StoreError → Prop}
  {Meant : List Row → Except StoreError β → Prop} {turns : List Turn}
  {result : Except StoreError β}

/-- A request in a transcript comes right after its transaction was opened and row policies were
turned off in it. -/
theorem bypassed (h : ReadCourse operation request Unfit Meant turns result)
    (hplain : request.IsPlain) {connection : Connection} {answer : Except Failure Reply}
    (hmem : .sent connection request answer ∈ turns) :
    ∃ made, [.opened (.ok connection), .sent connection .bypassPolicies (.ok made),
      .sent connection request answer] <+: turns := by
  have hbypass : request ≠ .bypassPolicies := by rintro rfl; exact hplain (by simp)
  have hcommit : request ≠ .commit := by rintro rfl; exact hplain (by simp)
  have hrollback : request ≠ .rollback := by rintro rfl; exact hplain (by simp)
  cases h
  all_goals
    simp only [List.mem_cons, List.not_mem_nil, or_false, reduceCtorEq, Turn.sent.injEq, hbypass,
      hcommit, hrollback, false_and, and_false, true_and, false_or] at hmem
  all_goals
    obtain ⟨rfl, rfl⟩ := hmem
    exact ⟨_, _, rfl⟩

/-- A read with a step that failed returns that the store is unavailable. -/
theorem unavailable (h : ReadCourse operation request Unfit Meant turns result) {turn : Turn}
    (hmem : turn ∈ turns) (hfailed : turn.Failed) :
    ∃ error, result = .error error ∧ UnavailableIn operation error := by
  cases h with
  | unopened e => exact ⟨_, rfl, unavailableIn_inStore operation e⟩
  | restricted _ e _ => exact ⟨_, rfl, unavailableIn_inStore operation e⟩
  | unanswered _ _ e _ => exact ⟨_, rfl, unavailableIn_inStore operation e⟩
  | uncommitted _ _ _ e _ => exact ⟨_, rfl, unavailableIn_inStore operation e⟩
  -- In the other courses nothing but rolling back can have failed.
  | unfit connection made reply _ undone =>
    simp only [List.mem_cons, List.not_mem_nil, or_false] at hmem
    rcases hmem with rfl | rfl | rfl | rfl
    · cases hfailed
    · cases hfailed
    · cases hfailed
    · exact absurd hfailed (Turn.not_failed_rollback connection undone)
  | committed =>
    simp only [List.mem_cons, List.not_mem_nil, or_false] at hmem
    rcases hmem with rfl | rfl | rfl | rfl <;> cases hfailed

/-- A read whose steps all succeed returns what the rows of the answer mean. -/
theorem meant {connection : Connection} {made reply done : Reply}
    (h : ReadCourse operation request Unfit Meant (wholeRead connection request made reply done)
      result) : Meant reply.rows result := by
  have hends : Request.rollback ≠ .commit := fun h => absurd (congrArg Request.text h) (by decide)
  generalize hturns : wholeRead connection request made reply done = turns at h
  rw [wholeRead] at hturns
  cases h with
  | committed _ _ found _ hmeant =>
    simp only [List.cons.injEq, Turn.sent.injEq, Except.ok.injEq] at hturns
    rw [hturns.2.2.1.2.2]
    exact hmeant
  | unfit => simp [hends.symm] at hturns
  | _ => simp at hturns

/-- However a read goes, it runs in a transaction of its own. -/
theorem transacted (h : ReadCourse operation request Unfit Meant turns result)
    (hplain : request.IsPlain) : Transacted operation request Unfit Meant turns result where
  course := h
  bypassed connection answer hmem := h.bypassed hplain hmem
  complete value hvalue := by
    subst hvalue
    cases h with
    | committed connection made reply done _ => exact ⟨connection, made, reply, done, rfl⟩
  unavailable turn hmem hfailed := h.unavailable hmem hfailed
  meant connection made reply done hturns := meant (hturns ▸ h)

end ReadCourse

/-! ### The steps of a read -/

section reads

variable {s t u v w : σ}

section steps

variable {pool : Pool σ} {audit : AuditEntry → σ → σ} {operation : StoreOperation}
  {request : Request} {take : List Row → Except StoreError α} {decode : α → Except StoreError β}
  {around : Surroundings} {connection : Connection}

/-- The state in which a read opens its transaction: the audit trail has an entry for it. -/
def noted (audit : AuditEntry → σ → σ) (operation : StoreOperation) (around : Surroundings)
    (s : σ) : σ :=
  audit (.policyBypass AuditEntry.membershipLookup (some operation.text) around.actor) s

/-- A read begins with its entry in the audit trail. -/
theorem note_apply (audit : AuditEntry → σ → σ) (operation : StoreOperation)
    (around : Surroundings) (s : σ) :
    (modify (audit (.policyBypass AuditEntry.membershipLookup (some operation.text)
      around.actor)) : StateM σ Unit) s = ((), noted audit operation around s) := rfl

/-- A request is sent in a read, which fails if it does. -/
theorem adapt_send {answer : Except Failure Reply}
    (hsend : pool.send connection request s = (answer, t)) :
    (ExceptT.adapt (·.inStore operation) (ExceptT.mk (pool.send connection request)) :
      ExceptT StoreError (StateM σ) Reply) s = (answer.mapError (·.inStore operation), t) := by
  show ((pool.send connection request s).1.mapError _, (pool.send connection request s).2) = _
  rw [hsend]

/-- Where row policies cannot be turned off the request is not sent, and the read fails. -/
theorem readRows_of_restricted {e : Failure}
    (hbypass : pool.send connection .bypassPolicies s = (.error e, t)) :
    (pool.readRows connection operation request take).run s =
      (.error (e.inStore operation), t) := by
  unfold Pool.readRows
  exact bind_of_error (adapt_send hbypass)

/-- Where the request is not answered the read fails. -/
theorem readRows_of_unanswered {made : Reply} {e : Failure}
    (hbypass : pool.send connection .bypassPolicies s = (.ok made, t))
    (hsend : pool.send connection request t = (.error e, u)) :
    (pool.readRows connection operation request take).run s =
      (.error (e.inStore operation), u) := by
  unfold Pool.readRows
  exact (bind_of_ok (adapt_send hbypass)).trans (bind_of_error (adapt_send hsend))

/-- Where it is answered, what is taken from the rows decides. -/
theorem readRows_of_answered {made reply : Reply} {taken : Except StoreError α}
    (hbypass : pool.send connection .bypassPolicies s = (.ok made, t))
    (hsend : pool.send connection request t = (.ok reply, u)) (htake : take reply.rows = taken) :
    (pool.readRows connection operation request take).run s = (taken, u) := by
  subst htake
  unfold Pool.readRows
  exact (bind_of_ok (adapt_send hbypass)).trans (bind_of_ok (adapt_send hsend))

/-- Without a transaction a read fails, and there is nothing to roll back. -/
theorem read_of_unopened {e : Failure}
    (hbegin : pool.begin (noted audit operation around s) = (.error e, t)) :
    pool.read audit operation request take decode around s = (.error (e.inStore operation), t) := by
  unfold Pool.read
  rw [bind_of_eq (note_apply audit operation around s), bind_of_eq hbegin]
  rfl

/-- A read that fails in its transaction is rolled back, and the failure is returned whatever the
answer to that is. -/
theorem read_of_failed {error : StoreError} {undone : Except Failure Reply}
    (hbegin : pool.begin (noted audit operation around s) = (.ok connection, t))
    (hrows : (pool.readRows connection operation request take).run t = (.error error, u))
    (hundo : pool.send connection .rollback u = (undone, v)) :
    pool.read audit operation request take decode around s = (.error error, v) := by
  unfold Pool.read
  rw [bind_of_eq (note_apply audit operation around s), bind_of_eq hbegin]
  dsimp only
  rw [bind_of_eq hrows]
  show (Except.error error, (pool.send connection .rollback u).2) = _
  rw [hundo]

/-- A read that cannot be committed is rolled back and fails, whatever it had taken. -/
theorem read_of_uncommitted {taken : α} {e : Failure} {undone : Except Failure Reply}
    (hbegin : pool.begin (noted audit operation around s) = (.ok connection, t))
    (hrows : (pool.readRows connection operation request take).run t = (.ok taken, u))
    (hcommit : pool.send connection .commit u = (.error e, v))
    (hundo : pool.send connection .rollback v = (undone, w)) :
    pool.read audit operation request take decode around s =
      (.error (e.inStore operation), w) := by
  have hfinish : pool.commit connection u = (.error e, w) := by
    show (pool.send connection .commit >>= _) u = _
    rw [bind_of_eq hcommit]
    show (Except.error e, (pool.send connection .rollback v).2) = _
    rw [hundo]
  unfold Pool.read
  rw [bind_of_eq (note_apply audit operation around s), bind_of_eq hbegin]
  dsimp only
  rw [bind_of_eq hrows]
  dsimp only
  rw [bind_of_eq hfinish]
  rfl

/-- A read that is committed returns what it makes of what it took. -/
theorem read_of_committed {taken : α} {done : Reply}
    (hbegin : pool.begin (noted audit operation around s) = (.ok connection, t))
    (hrows : (pool.readRows connection operation request take).run t = (.ok taken, u))
    (hcommit : pool.send connection .commit u = (.ok done, v)) :
    pool.read audit operation request take decode around s = (decode taken, v) := by
  have hfinish : pool.commit connection u = (.ok done, v) := by
    show (pool.send connection .commit >>= _) u = _
    rw [bind_of_eq hcommit]
    rfl
  unfold Pool.read
  rw [bind_of_eq (note_apply audit operation around s), bind_of_eq hbegin]
  dsimp only
  rw [bind_of_eq hrows]
  dsimp only
  rw [bind_of_eq hfinish]
  rfl

end steps

/-! ### With a transcript -/

variable {pool : Pool σ} {turns : List Turn} {connection : Connection} {request : Request}

/-- Opening a transaction comes to the same with a transcript, which has one turn more. -/
theorem begin_transcribed {answer : Except Failure Connection} (h : pool.begin s = (answer, t)) :
    pool.transcribed.begin (s, turns) = (answer, (t, turns ++ [.opened answer])) := by
  show ((pool.begin s).1, ((pool.begin s).2, turns ++ [Turn.opened (pool.begin s).1])) = _
  rw [h]

/-- Sending a request comes to the same with a transcript, which has one turn more. -/
theorem send_transcribed {answer : Except Failure Reply}
    (h : pool.send connection request s = (answer, t)) :
    pool.transcribed.send connection request (s, turns) =
      (answer, (t, turns ++ [.sent connection request answer])) := by
  show ((pool.send connection request s).1, ((pool.send connection request s).2,
    turns ++ [Turn.sent connection request (pool.send connection request s).1])) = _
  rw [h]

/-- The audit trail kept beside a transcript. -/
def auditTranscribed (audit : AuditEntry → σ → σ) (entry : AuditEntry) (world : σ × List Turn) :
    σ × List Turn := (audit entry world.1, world.2)

variable (pool : Pool σ) (audit : AuditEntry → σ → σ) {operation : StoreOperation}
  {request : Request} {take : List Row → Except StoreError α} {decode : α → Except StoreError β}

/-- A read comes to the same with a transcript as without, and the transcript and what is returned
are as said. -/
def Transcribed (recorded : StoreRead (σ × List Turn) β) (plain : StoreRead σ β)
    (said : List Turn → Except StoreError β → Prop) : Prop :=
  ∀ around s, ∃ result inner turns, recorded around (s, []) = (result, (inner, turns)) ∧
    plain around s = (result, inner) ∧ said turns result

/-- Whatever the server answers, a read goes one of the ways it can go. -/
theorem read_course {Unfit : List Row → StoreError → Prop}
    {Meant : List Row → Except StoreError β → Prop}
    (hunfit : ∀ {rows e}, take rows = .error e → Unfit rows e)
    (hmeant : ∀ {rows taken}, take rows = .ok taken → Meant rows (decode taken)) :
    Transcribed (pool.transcribed.read (auditTranscribed audit) operation request take decode)
      (pool.read audit operation request take decode)
      (ReadCourse operation request Unfit Meant) := by
  intro around s
  rcases hbegin : pool.begin (noted audit operation around s) with ⟨e | connection, t⟩
  · exact ⟨_, t, _, read_of_unopened (begin_transcribed hbegin), read_of_unopened hbegin,
      .unopened e⟩
  have hbegin' : pool.transcribed.begin (_, []) = _ := begin_transcribed hbegin
  rcases hbypass : pool.send connection .bypassPolicies t with ⟨e | made, u⟩
  · rcases hundo : pool.send connection .rollback u with ⟨undone, v⟩
    exact ⟨_, v, _, read_of_failed hbegin' (readRows_of_restricted (send_transcribed hbypass))
      (send_transcribed hundo), read_of_failed hbegin (readRows_of_restricted hbypass) hundo,
      .restricted connection e undone⟩
  rcases hsend : pool.send connection request u with ⟨e | reply, v⟩
  · rcases hundo : pool.send connection .rollback v with ⟨undone, w⟩
    exact ⟨_, w, _, read_of_failed hbegin'
      (readRows_of_unanswered (send_transcribed hbypass) (send_transcribed hsend))
      (send_transcribed hundo), read_of_failed hbegin (readRows_of_unanswered hbypass hsend) hundo,
      .unanswered connection made e undone⟩
  rcases htake : take reply.rows with error | taken
  · rcases hundo : pool.send connection .rollback v with ⟨undone, w⟩
    exact ⟨_, w, _, read_of_failed hbegin'
      (readRows_of_answered (send_transcribed hbypass) (send_transcribed hsend) htake)
      (send_transcribed hundo),
      read_of_failed hbegin (readRows_of_answered hbypass hsend htake) hundo,
      .unfit connection made reply (hunfit htake) undone⟩
  rcases hcommit : pool.send connection .commit v with ⟨e | done, w⟩
  · rcases hundo : pool.send connection .rollback w with ⟨undone, x⟩
    exact ⟨_, x, _, read_of_uncommitted hbegin'
      (readRows_of_answered (send_transcribed hbypass) (send_transcribed hsend) htake)
      (send_transcribed hcommit) (send_transcribed hundo),
      read_of_uncommitted hbegin (readRows_of_answered hbypass hsend htake) hcommit hundo,
      .uncommitted connection made reply e undone⟩
  · exact ⟨_, w, _, read_of_committed hbegin'
      (readRows_of_answered (send_transcribed hbypass) (send_transcribed hsend) htake)
      (send_transcribed hcommit),
      read_of_committed hbegin (readRows_of_answered hbypass hsend htake) hcommit,
      .committed connection made reply done (hmeant htake)⟩

/-- What is said of a read holds with everything that follows from it. -/
theorem Transcribed.mono {recorded : StoreRead (σ × List Turn) β} {plain : StoreRead σ β}
    {said other : List Turn → Except StoreError β → Prop} (h : Transcribed recorded plain said)
    (himp : ∀ {turns result}, said turns result → other turns result) :
    Transcribed recorded plain other := by
  intro around s
  obtain ⟨result, inner, turns, hrecorded, hplain, hsaid⟩ := h around s
  exact ⟨result, inner, turns, hrecorded, hplain, himp hsaid⟩

end reads

/-! ### The reads of memberships -/

namespace Request

-- Only the texts of requests matter, which are the same for all arguments.

/-- Asking for memberships neither turns policies off nor ends a transaction. -/
theorem isPlain_grantsFor (principal : IdpId) : (grantsFor principal).IsPlain :=
  show (grantsFor default).IsPlain by decide +kernel

/-- Nor does asking for the status of a client. -/
theorem isPlain_clientStatus (client : ClientId) : (clientStatus client).IsPlain :=
  show (clientStatus default).IsPlain by decide +kernel

/-- Nor does asking for the status of a site. -/
theorem isPlain_siteStatus (client : ClientId) (site : SiteId) : (siteStatus client site).IsPlain :=
  show (siteStatus default default).IsPlain by decide +kernel

/-- Nor does asking for the sites of a client. -/
theorem isPlain_sitesFor (client : ClientId) : (sitesFor client).IsPlain :=
  show (sitesFor default).IsPlain by decide +kernel

end Request

/-- Each of the four reads runs in a transaction of its own, whatever the server answers. The
memberships returned after a commit are those of the rows whose scope is known, one for each and in
their order, unless a row holds none; the sites are those of all rows, unless a row holds none or its
status is none; a status is that of the first row, none without a row. -/
theorem reads_transacted (pool : Pool σ) (audit : AuditEntry → σ → σ) :
    let plain := pool.memberships audit
    let recorded := pool.transcribed.memberships (auditTranscribed audit)
    (∀ principal, Transcribed (recorded.grantsFor principal) (plain.grantsFor principal)
      (Transacted .grantsFor (.grantsFor principal) (fun _ _ => False) GrantsOf)) ∧
    (∀ client, Transcribed (recorded.clientStatus client) (plain.clientStatus client)
      (Transacted .clientStatus (.clientStatus client) (Unreadable .clientStatus)
        (StatusOf "client status" ClientStatus.parse))) ∧
    (∀ client site, Transcribed (recorded.siteStatus client site) (plain.siteStatus client site)
      (Transacted .siteStatus (.siteStatus client site) (Unreadable .siteStatus)
        (StatusOf "site status" SiteStatus.parse))) ∧
    ∀ client, Transcribed (recorded.sitesFor client) (plain.sitesFor client)
      (Transacted .sitesFor (.sitesFor client) (fun _ _ => False) SitesOf) := by
  refine ⟨fun principal => ?_, fun client => ?_, fun client site => ?_, fun client => ?_⟩
  · have hmeant : ∀ {rows taken}, Except.ok rows = (.ok taken : Except StoreError (List Row)) →
        GrantsOf rows (grantsOfRows taken) := fun h => Except.ok.inj h ▸ grantsOfRows_grantsOf _
    exact (read_course pool audit nofun hmeant).mono
      (·.transacted (Request.isPlain_grantsFor principal))
  · exact (read_course pool audit unreadable_of_firstText fun h => statusOf_of_firstText h _ _).mono
      (·.transacted (Request.isPlain_clientStatus client))
  · exact (read_course pool audit unreadable_of_firstText fun h => statusOf_of_firstText h _ _).mono
      (·.transacted (Request.isPlain_siteStatus client site))
  · have hmeant : ∀ {rows taken}, Except.ok rows = (.ok taken : Except StoreError (List Row)) →
        SitesOf rows (sitesOfRows taken) := fun h => Except.ok.inj h ▸ sitesOfRows_sitesOf _
    exact (read_course pool audit nofun hmeant).mono
      (·.transacted (Request.isPlain_sitesFor client))

/-- A server that has one membership at a scope that is known, and one at a scope that is not. -/
def twoGrants : Pool Unit where
  begin := pure (.ok 0)
  send _ request := pure (.ok {
    rows := if request.params.isEmpty then [] else ["SITE", "PLANET"].map fun label => [
      ("membership_id", .uuid (.ofNat 1)), ("client_id", .uuid (.ofNat 2)),
      ("site_id", .null .uuid), ("role_id", .uuid (.ofNat 3)), ("role_name", .text "Auditor"),
      ("scope", .text label), ("capabilities", .null .texts), ("is_primary", .bool true),
      ("created_at", .timestamptz default)] })

example : ((twoGrants.memberships fun _ s => s).grantsFor ⟨"p-1"⟩ default ()).1 =
    .ok [⟨.ofNat 1, .ofNat 2, none, .ofNat 3, "Auditor", .site, .empty, true, default⟩] := by
  decide +kernel

end TenantAccess.Postgres
