import TenantAccess.Proofs.Scopes.Alike
import TenantAccess.Proofs.Scopes.LiveSavepoints

/-!
# Savepoint commands of running code

Whatever code does with nested scopes, and whichever calls fail: the savepoints that a session is
asked for are well-formed, and those that are released or gone back to are live.

* `Platform.overheard`: any platform with a record of what is asked of each session.
* `Continues`, `Ends`: what an operation asks of the session of an open transaction, if that one
  stays open or is over; one lemma for each operation.
* `Attended`: each open transaction stands on the savepoints of its session.
* `Code.run_attended`: it is so wherever code has come.
* `savepoints_wellFormed`: what this comes to.
-/

namespace TenantAccess

variable {σ : Type}

/-! ### A record of what is asked -/

/-- A session of a platform, with what was asked of it. -/
structure Heard where
  /-- Its number on the platform. -/
  inner : SessionId
  asked : List Asked := []

/-- With more that was asked. -/
def Heard.more (new : List Asked) (heard : Heard) : Heard :=
  { heard with asked := heard.asked ++ new }

/-- The platform with a record beside it. Sessions are numbered in the order in which they were
begun, so that no two have a number in common. -/
def Platform.overheard (platform : Platform σ) : Platform (σ × List Heard) where
  store := platform.store.lift fun m world =>
    let (a, inner) := m world.1
    (a, (inner, world.2))
  sessions := {
    begin := fun world =>
      match platform.sessions.begin world.1 with
      | (.ok session, inner) => (.ok world.2.length, (inner, world.2 ++ [{ inner := session }]))
      | (.error e, inner) => (.error e, (inner, world.2))
    call := fun session request world =>
      match world.2[session]? with
      | none => (.error (.database "session is not open"), world)
      | some heard =>
        let (answer, inner) := platform.sessions.call heard.inner request world.1
        (answer, (inner, world.2.modify session (Heard.more [⟨request, answer⟩])))
    abandon := fun session world =>
      match world.2[session]? with
      | none => ((), world)
      | some heard =>
        let (a, inner) := platform.sessions.abandon heard.inner world.1
        (a, (inner, world.2)) }
  audit entry world := (platform.audit entry world.1, world.2)
  emit event world := (platform.emit event world.1, world.2)

/-- The state in which no session was begun. -/
def AccessState.overheard (s : AccessState σ) : AccessState (σ × List Heard) where
  world := (s.world, [])
  grants := s.grants
  sites := s.sites
  around := s.around

/-- From one state to the other so much is asked of a session, and nothing of others. -/
def Told (s t : AccessState (σ × List Heard)) (session : SessionId) (new : List Asked) : Prop :=
  t.world.2 = s.world.2.modify session (Heard.more new)

section told

variable {s t u : AccessState (σ × List Heard)} {session : SessionId} {new new' : List Asked}

/-- Where the record did not change, nothing was asked of the session. -/
theorem Told.nothing (h : t.world.2 = s.world.2) (session : SessionId) : Told s t session [] := by
  have hid : Heard.more [] = id := by
    funext heard
    simp [Heard.more]
  unfold Told
  rw [hid, List.modify_id, h]

/-- What is asked in two steps is asked one after the other. -/
theorem Told.trans (h : Told s t session new) (h' : Told t u session new') :
    Told s u session (new ++ new') := by
  have hmore : Heard.more new' ∘ Heard.more new = Heard.more (new ++ new') := by
    funext heard
    simp [Heard.more]
  unfold Told
  rw [h', h, List.modify_modify_eq, hmore]

/-- What is asked of a session is added to its own record. -/
theorem Told.self (h : Told s t session new) {record : Heard}
    (hrecord : s.world.2[session]? = some record) :
    t.world.2[session]? = some (record.more new) := by
  rw [h, List.getElem?_modify_eq, hrecord]
  rfl

/-- The records of other sessions stay as they are. -/
theorem Told.other (h : Told s t session new) {other : SessionId} (hne : other ≠ session) :
    t.world.2[other]? = s.world.2[other]? := by
  rw [h, List.getElem?_modify]
  simp [hne.symm]

/-- What is asked of a session is asked whatever comes of it. -/
theorem call_told (platform : Platform σ) (session : SessionId) (request : SessionCall)
    (s : AccessState (σ × List Heard)) :
    ∃ answer t, Transaction.call platform.overheard session request s =
      (answer.mapError .session, t) ∧ Told s t session [⟨request, answer⟩] := by
  rw [call_apply]
  refine ⟨_, _, rfl, ?_⟩
  unfold Told Platform.overheard
  dsimp only
  rcases hheard : s.world.2[session]? with _ | heard
  · rw [List.modify_eq_self (List.getElem?_eq_none_iff.mp hheard)]
  · rfl

/-- Finding out the policy of the moment asks nothing of any session. -/
theorem current_told (platform : Platform σ) (s : AccessState (σ × List Heard)) :
    (DataAccessPolicy.current platform.overheard s).2.world.2 = s.world.2 :=
  (current_reading platform.overheard s).unchanged (·.2) fun _ _ _ => rfl

/-- Putting the policy of the moment in force asks for nothing but settings. -/
theorem applyPolicy_told (platform : Platform σ) (session : SessionId)
    (s : AccessState (σ × List Heard)) :
    ∃ new, Told s (Transaction.applyPolicy platform.overheard session s).2 session new ∧
      ∀ one ∈ new, one.request.isIdle = true := by
  have hcurrent := current_told platform s
  unfold Transaction.applyPolicy
  rcases hpolicy : DataAccessPolicy.current platform.overheard s with ⟨e | policy, t⟩
  · rw [hpolicy] at hcurrent
    rw [Task.bind_error hpolicy]
    exact ⟨[], .nothing hcurrent _, by simp⟩
  · rw [hpolicy] at hcurrent
    rw [Task.bind_ok hpolicy, Task.bind_pure_apply fun _ => policy]
    obtain ⟨answer, u, hcall, htold⟩ := call_told platform session (.settings policy.settings) t
    rw [hcall]
    exact ⟨_, (Told.nothing hcurrent session).trans htold, by simp [SessionCall.isIdle]⟩

end told

/-! ### Operations that a transaction is open after -/

/-- What an operation asks of the session of an open transaction, which is open after it: the
transaction stands on the savepoints after it, if it did before. -/
structure Continues (opened opened' : OpenTransaction) (s t : AccessState (σ × List Heard)) :
    Prop where
  session : opened'.transaction.session = opened.transaction.session
  asked : ∃ new, Told s t opened.transaction.session new ∧
    ∀ asked, StandsOn opened asked → StandsOn opened' (asked ++ new)

namespace Continues

variable {platform : Platform σ} {opened opened' opened'' : OpenTransaction}
  {s t u : AccessState (σ × List Heard)} {tx : Transaction} {scope : NestedScope}
  {scopes : List NestedScope}

/-- Two operations, one after the other. -/
theorem trans (h : Continues opened opened' s t) (h' : Continues opened' opened'' t u) :
    Continues opened opened'' s u := by
  obtain ⟨hsession, new, htold, hstands⟩ := h
  obtain ⟨hsession', new', htold', hstands'⟩ := h'
  rw [hsession] at htold'
  refine ⟨hsession'.trans hsession, new ++ new', htold.trans htold', ?_⟩
  intro asked hbefore
  rw [← List.append_assoc]
  exact hstands' _ (hstands asked hbefore)

/-- An operation that asks for settings and statements only. -/
theorem idle (hsession : opened'.transaction.session = opened.transaction.session)
    (hcount : opened'.transaction.savepoints = opened.transaction.savepoints)
    (hscopes : opened'.scopes.Sublist opened.scopes) {new : List Asked}
    (htold : Told s t opened.transaction.session new)
    (hidle : ∀ one ∈ new, one.request.isIdle = true) : Continues opened opened' s t := by
  refine ⟨hsession, new, htold, ?_⟩
  clear htold
  induction new with
  | nil =>
    intro asked hstands
    rw [List.append_nil]
    exact hstands.congr hcount hscopes
  | cons one new ih =>
    obtain ⟨hone, hnew⟩ := List.forall_mem_cons.mp hidle
    intro asked hstands
    rw [List.append_cons]
    exact ih hnew _ (hstands.idle hone)

/-- An operation that asks for nothing. -/
theorem silent (hsession : opened'.transaction.session = opened.transaction.session)
    (hcount : opened'.transaction.savepoints = opened.transaction.savepoints)
    (hscopes : opened'.scopes.Sublist opened.scopes) (h : t.world.2 = s.world.2) :
    Continues opened opened' s t :=
  idle hsession hcount hscopes (.nothing h _) (by simp)

/-- The policy of the moment is put in force, whatever the scopes. -/
theorem applyPolicy (platform : Platform σ) (tx : Transaction) (scopes : List NestedScope)
    (s : AccessState (σ × List Heard)) :
    Continues ⟨tx, scopes⟩ ⟨tx, scopes⟩ s
      (Transaction.applyPolicy platform.overheard tx.session s).2 := by
  obtain ⟨new, htold, hidle⟩ := applyPolicy_told platform tx.session s
  exact idle rfl rfl (.refl _) htold hidle

/-- A statement is run, or fails. -/
theorem execute (platform : Platform σ) (statement : Statement) (tx : Transaction)
    (scopes : List NestedScope) (s : AccessState (σ × List Heard)) :
    let ran := Transaction.execute platform.overheard statement tx s
    Continues ⟨tx, scopes⟩ ⟨ran.1.2, scopes⟩ s ran.2 := by
  have happlied := applyPolicy platform tx scopes s
  rw [execute_apply]
  rcases happly : Transaction.applyPolicy platform.overheard tx.session s with ⟨e | policy, t⟩
  · rw [happly] at happlied
    exact happlied
  · rw [happly] at happlied
    obtain ⟨answer, u, hcall, htold⟩ :=
      call_told platform tx.session (.execute (Transaction.stamped policy statement)) t
    dsimp only
    rw [hcall]
    rcases answer with e | outcome
    · exact happlied.trans (idle rfl rfl (.refl _) htold (by simp [SessionCall.isIdle]))
    · exact happlied.trans (idle rfl rfl (.refl _) htold (by simp [SessionCall.isIdle]))

/-- A nested scope is opened, or only counted. -/
theorem openNested (tx : Transaction) (scopes : List NestedScope)
    (s : AccessState (σ × List Heard)) :
    let ran := Transaction.openNested platform.overheard tx s
    let scopes' := match ran.1.1 with
      | .ok scope => scope :: scopes
      | .error _ => scopes
    Continues ⟨tx, scopes⟩ ⟨ran.1.2, scopes'⟩ s ran.2 := by
  obtain ⟨answer, t, hasked, htold⟩ := call_told platform tx.session (.savepoint tx.nextName) s
  have hcounted : Continues ⟨tx, scopes⟩ ⟨tx.counted, scopes⟩ s t :=
    ⟨rfl, _, htold, fun asked hstands => hstands.savepoint.1⟩
  rcases openNested_cases platform.overheard tx s with
    ⟨e, t', hcall, hopen⟩ | ⟨outcome, t', hcall, ⟨e, u, happly, hopen⟩ | ⟨policy, u, happly, hopen⟩⟩
  all_goals
    obtain ⟨hanswer, rfl⟩ := Prod.mk.inj (hasked.symm.trans hcall)
    rw [hopen]
  · exact hcounted
  · have happlied := applyPolicy platform tx.counted scopes t
    have hafter : (Transaction.applyPolicy platform.overheard tx.counted.session t).2 = u :=
      congrArg Prod.snd happly
    rw [hafter] at happlied
    exact hcounted.trans happlied
  · have happlied := applyPolicy platform tx.counted (tx.nextScope :: scopes) t
    have hafter : (Transaction.applyPolicy platform.overheard tx.counted.session t).2 = u :=
      congrArg Prod.snd happly
    rw [hafter] at happlied
    have hdone : answer = .ok outcome := by
      rcases answer with e | outcome' <;> cases hanswer
      rfl
    have hnested : Continues ⟨tx, scopes⟩ ⟨tx.counted, tx.nextScope :: scopes⟩ s t :=
      ⟨rfl, _, htold, fun asked hstands => hstands.savepoint.2 outcome hdone⟩
    exact hnested.trans happlied

/-- The innermost scope is released, or the attempt fails; it is no longer used either way. -/
theorem releaseNested (tx : Transaction) (scope : NestedScope) (scopes : List NestedScope)
    (s : AccessState (σ × List Heard)) :
    let ran := Transaction.releaseNested platform.overheard scope tx s
    Continues ⟨tx, scope :: scopes⟩ ⟨ran.1.2, scopes⟩ s ran.2 := by
  obtain ⟨answer, t, hcall, htold⟩ := call_told platform tx.session (.release scope.name) s
  rw [releaseNested_apply, hcall]
  exact ⟨rfl, _, htold, fun asked hstands => hstands.release⟩

/-- The innermost scope is gone back to and released, or one of the two fails; it is no longer used
either way. -/
theorem rollbackNested (tx : Transaction) (scope : NestedScope) (scopes : List NestedScope)
    (s : AccessState (σ × List Heard)) :
    let ran := Transaction.rollbackNested platform.overheard scope tx s
    Continues ⟨tx, scope :: scopes⟩ ⟨ran.1.2, scopes⟩ s ran.2 := by
  obtain ⟨answer, t, hcall, htold⟩ := call_told platform tx.session (.rollbackTo scope.name) s
  have hback : Continues ⟨tx, scope :: scopes⟩ ⟨tx, scope :: scopes⟩ s t :=
    ⟨rfl, _, htold, fun asked hstands => hstands.rollbackTo⟩
  rw [rollbackNested_apply, hcall]
  rcases answer with e | outcome
  · exact hback.trans (silent rfl rfl (List.sublist_cons_self _ _) rfl)
  · have hcut : Continues ⟨tx, scope :: scopes⟩ ⟨tx.cutBack scope.mark, scope :: scopes⟩ t t :=
      silent rfl rfl (.refl _) rfl
    exact (hback.trans hcut).trans (releaseNested (tx.cutBack scope.mark) scope scopes t)

end Continues

/-! ### Operations that a transaction is over after -/

/-- What an operation asks of the session of an open transaction, which is over after it, is in
order, if the transaction stood on the savepoints before it. -/
def Ends (opened : OpenTransaction) (s t : AccessState (σ × List Heard)) : Prop :=
  ∃ new, Told s t opened.transaction.session new ∧
    ∀ asked, StandsOn opened asked → InOrder (asked ++ new)

namespace Ends

variable {platform : Platform σ} {s t u : AccessState (σ × List Heard)}
  {opened opened' : OpenTransaction}

/-- Before an operation that ends a transaction there may be others. -/
theorem after (h : Ends opened' t u) (h' : Continues opened opened' s t) : Ends opened s u := by
  obtain ⟨new', htold', horder⟩ := h
  obtain ⟨hsession, new, htold, hstands⟩ := h'
  rw [hsession] at htold'
  refine ⟨new ++ new', htold.trans htold', fun asked hbefore => ?_⟩
  rw [← List.append_assoc]
  exact horder _ (hstands asked hbefore)

/-- An operation that asks for nothing. -/
theorem silent (opened : OpenTransaction) (h : t.world.2 = s.world.2) : Ends opened s t := by
  refine ⟨[], .nothing h _, fun asked hbefore => ?_⟩
  rw [List.append_nil]
  exact hbefore.toInOrder

/-- A call without a name, after which nothing is asked for. -/
theorem call (opened : OpenTransaction) {request : SessionCall} (hnamed : request.isNamed = false)
    (h : t.world.2 = (Transaction.call platform.overheard opened.transaction.session request
      s).2.world.2) : Ends opened s t := by
  obtain ⟨answer, u, hcall, htold⟩ :=
    call_told platform opened.transaction.session request s
  rw [hcall] at h
  exact ⟨_, h.trans htold, fun asked hbefore => hbefore.toInOrder.unnamed hnamed⟩

/-- The transaction is rolled back. -/
theorem rollback (opened : OpenTransaction) (s : AccessState (σ × List Heard)) :
    Ends opened s (Transaction.rollback platform.overheard opened.transaction s).2 := by
  unfold Transaction.rollback
  rw [Task.bind_pure_apply fun _ => ()]
  exact call opened rfl rfl

/-- The transaction is committed. -/
theorem commit (opened : OpenTransaction) (s : AccessState (σ × List Heard)) :
    Ends opened s (Transaction.commit platform.overheard opened.transaction s).2 := by
  unfold Transaction.commit
  rcases hcall : Transaction.call platform.overheard opened.transaction.session .commit s with
    ⟨e | outcome, t⟩
  · rw [Task.bind_error hcall]
    exact call opened rfl (congrArg (·.2.world.2) hcall).symm
  · rw [Task.bind_ok hcall]
    refine call opened rfl (Eq.trans ?_ (congrArg (·.2.world.2) hcall).symm)
    exact foldl_emit_unchanged platform.overheard (·.2) (fun _ _ => rfl) _ t.world

/-- The transaction is let go of, which asks for nothing. -/
theorem abandon (opened : OpenTransaction) (s : AccessState (σ × List Heard)) :
    Ends opened s (Transaction.abandon platform.overheard opened.transaction s).2 := by
  refine silent opened ?_
  show (platform.overheard.sessions.abandon opened.transaction.session s.world).2.2 = s.world.2
  unfold Platform.overheard
  dsimp only
  rcases s.world.2[opened.transaction.session]? with _ | heard <;> rfl

end Ends

/-! ### All open transactions -/

/-- The open transaction stands on the savepoints of a session that was begun. -/
def Attends (heard : List Heard) (opened : OpenTransaction) : Prop :=
  ∃ record, heard[opened.transaction.session]? = some record ∧ StandsOn opened record.asked

/-- What was asked of any session is in order, and each open transaction stands on the savepoints of
its own. -/
structure Attended (course : Course (σ × List Heard)) (heard : List Heard) : Prop where
  inOrder : ∀ record ∈ heard, InOrder record.asked
  attends : ∀ number opened, course.open? number = some opened → Attends heard opened
  apart : course.Apart

namespace Attended

variable {platform : Platform σ} {course course' : Course (σ × List Heard)}
  {s t : AccessState (σ × List Heard)} {heard : List Heard} {number : Nat}
  {opened opened' : OpenTransaction} {scope : NestedScope} {scopes : List NestedScope}

/-- Where no other transactions are open, each still stands on its savepoints. -/
theorem mono (h : Attended course heard)
    (hopen : ∀ number opened, course'.open? number = some opened →
      course.open? number = some opened) : Attended course' heard where
  inOrder := h.inOrder
  attends number opened hopened := h.attends number opened (hopen number opened hopened)
  apart := h.apart.mono hopen

/-- After more was asked of the session of one transaction, which stands on its savepoints, or is
over. -/
theorem step (h : Attended course s.world.2) (hopen : course.open? number = some opened)
    {opened? : Option OpenTransaction} (hdesk : course'.desk = course.desk.set number opened?)
    {new : List Asked} (htold : Told s t opened.transaction.session new)
    (horder : ∀ asked, StandsOn opened asked → InOrder (asked ++ new))
    (hstands : ∀ opened', opened? = some opened' →
      opened'.transaction.session = opened.transaction.session ∧
        ∀ asked, StandsOn opened asked → StandsOn opened' (asked ++ new)) :
    Attended course' t.world.2 := by
  obtain ⟨record, hrecord, hbefore⟩ := h.attends number opened hopen
  refine ⟨?_, ?_, h.apart.set hopen hdesk fun opened' hopened => (hstands opened' hopened).1⟩
  · intro after hafter
    obtain ⟨session, hafter⟩ := List.mem_iff_getElem?.mp hafter
    by_cases hsame : session = opened.transaction.session
    · rw [hsame, htold.self hrecord] at hafter
      obtain rfl := Option.some.inj hafter
      exact horder _ hbefore
    · rw [htold.other hsame] at hafter
      exact h.inOrder after (List.mem_iff_getElem?.mpr ⟨session, hafter⟩)
  · intro other opened' hother
    rw [Course.open?_set hopen hdesk] at hother
    split at hother
    · obtain ⟨hsame, hafter⟩ := hstands opened' hother
      exact ⟨_, hsame ▸ htold.self hrecord, hafter _ hbefore⟩
    · rename_i hne
      obtain ⟨record', hrecord', hstill⟩ := h.attends other opened' hother
      refine ⟨record', ?_, hstill⟩
      rw [htold.other, hrecord']
      exact fun hsame => hne (h.apart other number opened' opened hother hopen hsame)

/-- After an operation that the transaction is open after. -/
theorem continued (h : Attended course s.world.2) (hopen : course.open? number = some opened)
    (hcontinues : Continues opened opened' s t)
    (hdesk : course'.desk = course.desk.set number (some opened')) :
    Attended course' t.world.2 := by
  obtain ⟨hsession, new, htold, hstands⟩ := hcontinues
  refine h.step hopen hdesk htold (fun asked hbefore => (hstands asked hbefore).toInOrder) ?_
  rintro _ ⟨⟩
  exact ⟨hsession, hstands⟩

/-- After an operation that the transaction is over after. -/
theorem ended (h : Attended course s.world.2) (hopen : course.open? number = some opened)
    (hends : Ends opened s t) : Attended (course.put number none) t.world.2 := by
  obtain ⟨new, htold, horder⟩ := hends
  refine h.step hopen rfl htold horder ?_
  rintro _ ⟨⟩

/-- Whatever operation is carried out on an open transaction. -/
theorem performOn (request : DataCall) (hnumber : request.number? = some number)
    (hopen : course.open? number = some opened) (h : Attended course s.world.2) :
    let ran := DataCall.performOn platform.overheard course opened request s
    Attended ran.1.2 ran.2.world.2 := by
  obtain ⟨tx, scopes⟩ := opened
  cases request with
  | executeAlone statement => cases hnumber
  | begin => cases hnumber
  | execute number' statement =>
    obtain rfl := Option.some.inj hnumber
    exact h.continued hopen (.execute platform statement tx scopes s) rfl
  | openNested number' =>
    obtain rfl := Option.some.inj hnumber
    exact h.continued hopen (.openNested tx scopes s) rfl
  | releaseNested number' =>
    obtain rfl := Option.some.inj hnumber
    cases scopes with
    | nil => exact h
    | cons scope scopes => exact h.continued hopen (.releaseNested tx scope scopes s) rfl
  | rollbackNested number' =>
    obtain rfl := Option.some.inj hnumber
    cases scopes with
    | nil => exact h
    | cons scope scopes => exact h.continued hopen (.rollbackNested tx scope scopes s) rfl
  | dropNested number' =>
    obtain rfl := Option.some.inj hnumber
    have hdropped : Continues ⟨tx, scopes⟩ ⟨tx, scopes.tail⟩ s s :=
      .silent rfl rfl (List.tail_sublist _) rfl
    exact h.continued hopen hdropped rfl
  | commit number' =>
    obtain rfl := Option.some.inj hnumber
    exact h.ended hopen (.commit _ s)
  | rollback number' =>
    obtain rfl := Option.some.inj hnumber
    exact h.ended hopen (.rollback _ s)
  | drop number' =>
    obtain rfl := Option.some.inj hnumber
    exact h.ended hopen (.abandon _ s)

/-- Whatever operation is carried out on the transaction that it is on. -/
theorem performOpen (request : DataCall) (h : Attended course s.world.2) :
    let ran := DataCall.performOpen platform.overheard course request s
    Attended ran.1.2 ran.2.world.2 := by
  unfold DataCall.performOpen
  rcases hnumber : request.number? with _ | number
  · exact h
  · rw [Option.bind_some]
    rcases hopen : course.open? number with _ | opened
    · exact h
    · exact performOn request hnumber hopen h

/-! ### Operations on no open transaction -/

/-- One more transaction is begun, in a session of its own. -/
theorem start (h : Attended course heard) (inner : SessionId) :
    Attended (course.start (some { transaction := { session := heard.length } }))
      (heard ++ [⟨inner, []⟩]) := by
  have hkept : ∀ number opened, course.open? number = some opened →
      opened.transaction.session < heard.length ∧ Attends (heard ++ [⟨inner, []⟩]) opened := by
    intro number opened hopen
    obtain ⟨record, hrecord, hstands⟩ := h.attends number opened hopen
    obtain ⟨hlt, -⟩ := List.getElem?_eq_some_iff.mp hrecord
    exact ⟨hlt, record, (List.getElem?_append_left hlt).trans hrecord, hstands⟩
  refine ⟨?_, ?_, h.apart.start ?_⟩
  · intro record hrecord
    rcases List.mem_append.mp hrecord with hbefore | hnew
    · exact h.inOrder record hbefore
    · obtain rfl := List.mem_singleton.mp hnew
      exact .nothing
  · intro number opened hopen
    rcases Course.open?_start_cases hopen with hbefore | ⟨-, hnew⟩
    · exact (hkept number opened hbefore).2
    · obtain rfl := Option.some.inj hnew
      exact ⟨⟨inner, []⟩, List.getElem?_concat_length, .nothing heard.length⟩
  · rintro number before _ hbefore ⟨⟩
    exact (hkept number before hbefore).1.ne

/-- A session is begun, of which nothing was asked yet, or none is. -/
theorem begin_heard (platform : Platform σ) (s : AccessState (σ × List Heard)) :
    (∃ e t, Transaction.begin platform.overheard s = (.error e, t) ∧ t.world.2 = s.world.2) ∨
      ∃ inner t, Transaction.begin platform.overheard s =
          (.ok { session := s.world.2.length }, t) ∧
        t.world.2 = s.world.2 ++ [⟨inner, []⟩] := by
  rw [begin_apply]
  unfold Platform.overheard
  dsimp only
  rcases platform.sessions.begin s.world.1 with ⟨e | session, inner⟩
  · exact .inl ⟨_, _, rfl, rfl⟩
  · exact .inr ⟨session, _, rfl, rfl⟩

/-- One more transaction was begun, or none could be. -/
theorem began (platform : Platform σ) (h : Attended course s.world.2) :
    let ran := DataCall.begin.perform platform.overheard course s
    Attended ran.1.2 ran.2.world.2 := by
  have hperform : DataCall.begin.perform platform.overheard course s =
      let ran := Transaction.begin platform.overheard s
      ((reply ran.1, course.start (ran.1.toOption.map ({ transaction := · }))), ran.2) := rfl
  rw [hperform]
  rcases begin_heard platform s with ⟨e, t, hbegin, hheard⟩ | ⟨inner, t, hbegin, hheard⟩
  · rw [hbegin]
    dsimp only
    rw [hheard]
    refine h.mono fun number opened hopen => ?_
    rcases Course.open?_start_cases hopen with hbefore | ⟨-, hnew⟩
    · exact hbefore
    · cases hnew
  · rw [hbegin]
    dsimp only
    rw [hheard]
    exact h.start inner

/-- A statement in a transaction of its own, which is over then. -/
theorem alone (platform : Platform σ) (statement : Statement) (h : Attended course s.world.2) :
    let ran := DataCall.runAlone platform.overheard course statement s
    Attended ran.1.2 ran.2.world.2 := by
  unfold DataCall.runAlone
  rcases begin_heard platform s with ⟨e, t, hbegin, hheard⟩ | ⟨inner, t, hbegin, hheard⟩
  · rw [executeAlone_of_error hbegin, hbegin]
    dsimp only
    rw [hheard]
    exact h
  · let opened : OpenTransaction := ⟨{ session := s.world.2.length }, []⟩
    have hstarted : Attended (course.start (some opened)) t.world.2 := by
      rw [hheard]
      exact h.start inner
    have hopen : (course.start (some opened)).open? course.desk.length = some opened := by
      rw [Course.open?_start, if_pos rfl]
    have hends : Ends opened t
        (Transaction.executeAlone platform.overheard statement s).2 := by
      have hexecute := Continues.execute platform statement opened.transaction [] t
      rcases hrun : Transaction.execute platform.overheard statement opened.transaction t with
        ⟨⟨result, tx⟩, u⟩
      rw [hrun] at hexecute
      rw [executeAlone_of_ok hbegin hrun]
      rcases result with e | outcome
      · exact (Ends.rollback ⟨tx, []⟩ u).after hexecute
      · exact (Ends.commit ⟨tx, []⟩ u).after hexecute
    have hover := hstarted.ended hopen hends
    rw [hbegin]
    refine hover.mono fun number opened' hbefore => ?_
    have hne : number ≠ course.desk.length := by
      rintro rfl
      have hnone : course.open? course.desk.length = none := by simp [Course.open?]
      cases hnone.symm.trans hbefore
    rw [Course.open?_set hopen rfl, if_neg hne, Course.open?_start, if_neg hne]
    exact hbefore

/-- Whatever operation is carried out. -/
theorem perform (platform : Platform σ) (request : DataCall) (h : Attended course s.world.2) :
    let ran := request.perform platform.overheard course s
    Attended ran.1.2 ran.2.world.2 := by
  obtain ⟨statement, rfl⟩ | rfl | hopen := request.perform_cases platform.overheard course
  · exact h.alone platform statement
  · exact h.began platform
  · rw [hopen]
    exact h.performOpen request

/-- With nothing begun yet, nothing can be out of order. -/
theorem beginning (s : AccessState σ) :
    Attended ({} : Course (σ × List Heard)) s.overheard.world.2 where
  inOrder record hrecord := by cases hrecord
  attends number opened hopen := by simp [Course.open?] at hopen
  apart number number' opened opened' hopen := by simp [Course.open?] at hopen

end Attended

/-! ### Running code -/

/-- Wherever code has come, each open transaction stands on the savepoints of its session. -/
theorem Code.run_attended (platform : Platform σ) (code : Code) {course : Course (σ × List Heard)}
    {s : AccessState (σ × List Heard)} (h : Attended course s.world.2) :
    let ran := code.run platform.overheard course s
    Attended ran.1 ran.2.world.2 := by
  induction code generalizing course s with
  | done => exact h
  | call request next ih => exact ih _ (h.perform platform request)
  | attach grant next ih =>
    have hattached : Attended { course with layers := Layer.attach grant course.layers }
        (Work.attachGrant grant s).2.world.2 := by
      rw [Layer.attachGrant_after]
      exact h.mono fun _ _ => id
    exact ih hattached
  | framed frame body next ihBody ihNext =>
    have hentered : (frame.entered platform.overheard s).world.2 = s.world.2 := by
      rcases frame.entered_world platform.overheard s with hsame | ⟨entry, haudit⟩
      · rw [hsame]
      · rw [haudit]
        rfl
    have hinside : Attended { course with layers := frame.layer :: course.layers }
        (frame.entered platform.overheard s).world.2 := by
      rw [hentered]
      exact h.mono fun _ _ => id
    rw [Code.run_framed, frame.enclose_eq]
    exact ihNext ((ihBody hinside).mono fun _ _ => id)

/-- Whatever code does, from whatever state, and whichever calls the platform lets fail: of every
session that was begun, if it was asked for fewer savepoints than there are numbers, the savepoints
have different names that are savepoint names, and whenever one was released or gone back to, it was
live. -/
theorem savepoints_wellFormed (platform : Platform σ) (code : Code) (s : AccessState σ) :
    ∀ heard ∈ (code.run platform.overheard {} s.overheard).2.world.2,
      (madeNames heard.asked).length < 2 ^ 32 → WellFormed heard.asked := by
  intro heard hheard hfew
  exact ((code.run_attended platform (.beginning s)).inOrder heard hheard).wellFormed hfew

/-- A nested scope is let go of, the one around it is rolled back, the next one cannot be opened
outside of any frame, and the one after that is released. -/
def tidying : Code :=
  .framed (.bypass "tidy")
    (.call .begin fun _ => .call (.openNested 0) fun _ => .call (.openNested 0) fun _ =>
      .call (.dropNested 0) fun _ => .call (.rollbackNested 0) fun _ => .done)
    (.call (.openNested 0) fun _ =>
      .framed (.bypass "tidy")
        (.call (.openNested 0) fun _ => .call (.releaseNested 0) fun _ => .done)
        (.call (.commit 0) fun _ => .done))

/-- The commands about savepoints, with their names. -/
def savepointCommands (asked : List Asked) : List (SessionOperation × String) :=
  asked.filterMap fun one =>
    (one.request.made? <|> one.request.used?).map (one.request.operation, ·)

/-- The savepoint of the scope that could not be opened stays live below the next one. -/
theorem savepoints_wellFormed_tidying :
    let s : AccessState World := { world := { listener := default } }
    let sessions := (tidying.run World.inMemory.overheard {} s.overheard).2.world.2
    (sessions.map fun heard => savepointCommands heard.asked) =
        [[(.savepoint, "inspectra_sp_1"), (.savepoint, "inspectra_sp_2"),
          (.rollbackTo, "inspectra_sp_1"), (.release, "inspectra_sp_1"),
          (.savepoint, "inspectra_sp_3"), (.savepoint, "inspectra_sp_4"),
          (.release, "inspectra_sp_4")]] ∧
      (sessions.map fun heard => liveNow heard.asked.dropLast) = [["inspectra_sp_3"]] ∧
      ∀ heard ∈ sessions, (madeNames heard.asked).length < 2 ^ 32 ∧ WellFormed heard.asked := by
  intro s sessions
  have hfew : ∀ heard ∈ sessions, (madeNames heard.asked).length < 2 ^ 32 := by decide +kernel
  refine ⟨by decide +kernel, by decide +kernel, fun heard hheard => ⟨hfew heard hheard, ?_⟩⟩
  exact savepoints_wellFormed World.inMemory tidying s heard hheard (hfew heard hheard)

end TenantAccess
