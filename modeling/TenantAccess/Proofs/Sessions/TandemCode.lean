import TenantAccess.Proofs.Sessions.Tandem

/-!
# Code on platforms in tandem

Code that lets go of no transaction, and does not look into the errors of sessions, cannot tell two
platforms in tandem apart: its operations leave the same transactions open, and it is told the same.

* `Course.SameDesk`: what two runs of code have in common; the names of the savepoints that are open
  are savepoint names, so that both platforms accept them.
* `Tandem.perform`: every operation but letting go is in lockstep.
* `Code.NeverDrops`, `Code.Indifferent`: the code that is spoken of.  Any code is indifferent to
  errors that are the same (`Code.indifferent_of_eq`).
* `Tandem.run`: such code is told the same.
-/

namespace TenantAccess

variable {σ τ α : Type}

/-! ### Operations of code -/

/-- The replies are alike: none on both sides, the same success, or errors that are alike. -/
abbrev RepliesAlike (alike : SessionError → SessionError → Prop) : Reply → Reply → Prop :=
  Option.Rel (OutcomesAlike (ErrorsAlike alike))

/-- Both courses have the same transactions open, and nested scopes with savepoint names. -/
structure Course.SameDesk (course : Course σ) (course' : Course τ) : Prop where
  desk : course.desk = course'.desk
  named : ∀ opened, some opened ∈ course.desk → ∀ scope ∈ opened.scopes,
    isSavepointName scope.name = true

namespace Course.SameDesk

variable {course : Course σ} {course' : Course τ}

/-- The same transaction is open under a number in both. -/
theorem open? (h : course.SameDesk course') (number : Nat) :
    course.open? number = course'.open? number := by
  unfold Course.open?
  rw [h.desk]

/-- The nested scopes of an open transaction have savepoint names. -/
theorem named_of_open? (h : course.SameDesk course') {number : Nat} {opened : OpenTransaction}
    (hopen : course.open? number = some opened) :
    ∀ scope ∈ opened.scopes, isSavepointName scope.name = true := by
  apply h.named
  unfold Course.open? at hopen
  exact List.mem_of_getElem? (Option.join_eq_some_iff.mp hopen)

/-- The same transaction is put in the same place of both. -/
theorem put (h : course.SameDesk course') (number : Nat) {transaction? : Option OpenTransaction}
    (hnamed : ∀ opened, transaction? = some opened → ∀ scope ∈ opened.scopes,
      isSavepointName scope.name = true) :
    (course.put number transaction?).SameDesk (course'.put number transaction?) where
  desk := by
    show course.desk.set number transaction? = course'.desk.set number transaction?
    rw [h.desk]
  named := by
    intro opened hopened
    rcases List.mem_or_eq_of_mem_set hopened with hbefore | hput
    · exact h.named opened hbefore
    · exact hnamed opened hput.symm

/-- The same transaction, without nested scopes, is begun on both sides, or none. -/
theorem start (h : course.SameDesk course') (transaction? : Option Transaction) :
    (course.start (transaction?.map ({ transaction := · }))).SameDesk
      (course'.start (transaction?.map ({ transaction := · }))) where
  desk := by
    show course.desk ++ _ = course'.desk ++ _
    rw [h.desk]
  named := by
    intro opened hopened
    rcases List.mem_append.mp hopened with hbefore | hbegun
    · exact h.named opened hbefore
    · obtain ⟨transaction, -, rfl⟩ := Option.map_eq_some_iff.mp (List.mem_singleton.mp hbegun).symm
      intro scope hscope
      cases hscope

/-- The frames do not matter. -/
theorem relayer (h : course.SameDesk course') (layers layers' : List Layer) :
    { course with layers }.SameDesk { course' with layers := layers' } :=
  ⟨h.desk, h.named⟩

/-- What was tried does not matter. -/
theorem note (h : course.SameDesk course') (attempt : Attempt σ) (attempt' : Attempt τ) :
    (course.note attempt).SameDesk (course'.note attempt') :=
  ⟨h.desk, h.named⟩

end Course.SameDesk

/-- A nested scope that could be opened has a savepoint name. -/
theorem openNested_named (platform : Platform σ) (tx : Transaction) (s : AccessState σ)
    (scope : NestedScope) (h : (Transaction.openNested platform tx s).1.1 = .ok scope) :
    isSavepointName scope.name = true := by
  rcases openNested_cases platform tx s with
    ⟨e, t, -, hopen⟩ | ⟨outcome, t, -, ⟨e, u, -, hopen⟩ | ⟨policy, u, -, hopen⟩⟩
  · rw [hopen] at h
    cases h
  · rw [hopen] at h
    cases h
  · rw [hopen] at h
    obtain rfl := Except.ok.inj h
    exact isSavepointName_savepointName _

namespace Tandem

variable {p : Platform σ} {q : Platform τ} {alike : SessionError → SessionError → Prop}
  (tandem : Tandem p q alike)

/-- What an operation of code comes to: replies that are alike, and courses with the same desk. -/
def Answered (alike : SessionError → SessionError → Prop) (left : Reply × Course σ)
    (right : Reply × Course τ) : Prop :=
  RepliesAlike alike left.1 right.1 ∧ left.2.SameDesk right.2

/-- Replies about outcomes that are alike are alike. -/
theorem repliesAlike {result result' : Except DataAccessError α}
    (h : OutcomesAlike (ErrorsAlike alike) result result') :
    RepliesAlike alike (reply result) (reply result') :=
  .some (h.map _)

variable {course : Course σ} {course' : Course τ} {opened : OpenTransaction}

/-- The same transaction stays open on both sides, or none. -/
theorem sameDesk_put (h : course.SameDesk course') (number : Nat)
    {transaction transaction' : Transaction} (htransaction : transaction = transaction')
    {scopes : List NestedScope}
    (hnamed : ∀ scope ∈ scopes, isSavepointName scope.name = true) :
    (course.put number (some ⟨transaction, scopes⟩)).SameDesk
      (course'.put number (some ⟨transaction', scopes⟩)) := by
  rw [← htransaction]
  apply h.put number
  intro opened' hopened'
  obtain rfl := Option.some.inj hopened'
  exact hnamed

/-- A statement in an open transaction. -/
theorem runOn (h : course.SameDesk course') (number : Nat) (statement : Statement)
    (hnamed : ∀ scope ∈ opened.scopes, isSavepointName scope.name = true) :
    tandem.Alongside (Answered alike) (DataCall.runOn p course number statement opened)
      (DataCall.runOn q course' number statement opened) := by
  have hrun := tandem.execute statement opened.transaction
  refine ⟨hrun.back, ?_⟩
  intro s t hst hs
  obtain ⟨⟨hresult, htransaction⟩, hafter⟩ := hrun.along s t hst hs
  exact ⟨⟨.some hresult, (sameDesk_put h number htransaction hnamed).note _ _⟩, hafter⟩

/-- An operation on a transaction of whose scopes that many are open afterwards. -/
theorem replying {m : TransactionTask σ α} {m' : TransactionTask τ α}
    (hrun : tandem.AlongsideOn m m') (h : course.SameDesk course') (number : Nat)
    {scopes : List NestedScope} (hnamed : ∀ scope ∈ scopes, isSavepointName scope.name = true)
    (tx : Transaction) :
    tandem.Alongside (Answered alike)
      (do
        let (result, transaction) ← m tx
        pure (reply result, course.put number (some ⟨transaction, scopes⟩)))
      (do
        let (result, transaction) ← m' tx
        pure (reply result, course'.put number (some ⟨transaction, scopes⟩))) := by
  apply Lockstep.bind (fun left => ⟨.refl .same left.1, rfl⟩) (hrun tx)
  rintro ⟨result, transaction⟩ ⟨result', transaction'⟩ ⟨hresult, htransaction⟩
  exact .pure ⟨repliesAlike hresult, sameDesk_put h number htransaction hnamed⟩

/-- The scope that is opened has a savepoint name, and those around it have theirs. -/
theorem performOn_openNested (h : course.SameDesk course') (number : Nat)
    (hnamed : ∀ scope ∈ opened.scopes, isSavepointName scope.name = true) :
    tandem.Alongside (Answered alike) (DataCall.performOn p course opened (.openNested number))
      (DataCall.performOn q course' opened (.openNested number)) := by
  have hrun := tandem.openNested opened.transaction
  refine ⟨hrun.back, ?_⟩
  intro s t hst hs
  obtain ⟨⟨hresult, htransaction⟩, hafter⟩ := hrun.along s t hst hs
  have hscope := openNested_named p opened.transaction s
  rcases hopen : Transaction.openNested p opened.transaction s with ⟨⟨result, transaction⟩, s'⟩
  rcases hopen' : Transaction.openNested q opened.transaction t with ⟨⟨result', transaction'⟩, t'⟩
  rw [hopen, hopen'] at hresult htransaction hafter
  rw [hopen] at hscope
  cases hresult with
  | ok scope =>
    rw [DataCall.performOn_openNested_ok hopen, DataCall.performOn_openNested_ok hopen']
    refine ⟨⟨.some (.ok _), sameDesk_put h number htransaction ?_⟩, hafter⟩
    rintro other (_ | ⟨_, hother⟩)
    · exact hscope scope rfl
    · exact hnamed other hother
  | error he =>
    rw [DataCall.performOn_openNested_error hopen, DataCall.performOn_openNested_error hopen']
    exact ⟨⟨.some (.error he), sameDesk_put h number htransaction hnamed⟩, hafter⟩

/-- Any operation on an open transaction but to let go of it. -/
theorem performOn (h : course.SameDesk course')
    (hnamed : ∀ scope ∈ opened.scopes, isSavepointName scope.name = true) {request : DataCall}
    (hkept : ∀ number, request ≠ .drop number) :
    tandem.Alongside (Answered alike) (DataCall.performOn p course opened request)
      (DataCall.performOn q course' opened request) := by
  have hover : ∀ number, (course.put number none).SameDesk (course'.put number none) :=
    fun number => h.put number fun _ hnone => nomatch hnone
  have hrest : ∀ scope ∈ opened.scopes.tail, isSavepointName scope.name = true :=
    fun scope hscope => hnamed scope (List.mem_of_mem_tail hscope)
  cases request with
  | executeAlone statement => exact .pure ⟨.none, h⟩
  | begin => exact .pure ⟨.none, h⟩
  | execute number statement => exact tandem.runOn h number statement hnamed
  | openNested number => exact tandem.performOn_openNested h number hnamed
  | releaseNested number =>
    unfold DataCall.performOn
    rcases hscopes : opened.scopes with _ | ⟨scope, scopes⟩
    · exact .pure ⟨.none, h⟩
    · rw [hscopes] at hnamed hrest
      have hscope := hnamed scope List.mem_cons_self
      exact tandem.replying (tandem.releaseNested hscope) h number hrest opened.transaction
  | rollbackNested number =>
    unfold DataCall.performOn
    rcases hscopes : opened.scopes with _ | ⟨scope, scopes⟩
    · exact .pure ⟨.none, h⟩
    · rw [hscopes] at hnamed hrest
      have hscope := hnamed scope List.mem_cons_self
      exact tandem.replying (tandem.rollbackNested hscope) h number hrest opened.transaction
  | dropNested number => exact .pure ⟨.none, sameDesk_put h number rfl hrest⟩
  | commit number =>
    apply Lockstep.bind (OutcomesAlike.refl .same) (tandem.commit opened.transaction)
    intro result result' hresult
    exact .pure ⟨repliesAlike hresult, hover number⟩
  | rollback number =>
    apply Lockstep.bind (OutcomesAlike.refl .same) (tandem.rollback opened.transaction)
    intro result result' hresult
    exact .pure ⟨repliesAlike hresult, hover number⟩
  | drop number => exact absurd rfl (hkept number)

/-- Any operation on the transaction that it is on, which is open on both sides or on neither. -/
theorem performOpen (h : course.SameDesk course') {request : DataCall}
    (hkept : ∀ number, request ≠ .drop number) :
    tandem.Alongside (Answered alike) (request.performOpen p course)
      (request.performOpen q course') := by
  have hopen : request.number?.bind course'.open? = request.number?.bind course.open? :=
    congrArg request.number?.bind (funext h.open?).symm
  unfold DataCall.performOpen
  rw [hopen]
  rcases hopened : request.number?.bind course.open? with _ | opened
  · exact .pure ⟨.none, h⟩
  · obtain ⟨number, -, hnumber⟩ := Option.bind_eq_some_iff.mp hopened
    exact tandem.performOn h (h.named_of_open? hnumber) hkept

/-- A statement in a transaction of its own leaves the desk as it is. -/
theorem runAlone_cases (platform : Platform σ) (course : Course σ) (statement : Statement)
    (s : AccessState σ) :
    ∃ after, after.desk = course.desk ∧ DataCall.runAlone platform course statement s =
      ((some (Transaction.executeAlone platform statement s).1, after),
        (Transaction.executeAlone platform statement s).2) := by
  unfold DataCall.runAlone
  rcases Transaction.begin platform s with ⟨e | transaction, opened⟩
  · exact ⟨course, rfl, rfl⟩
  · exact ⟨course.note ⟨course.layers, transaction.session, statement, opened, _, _⟩, rfl, rfl⟩

/-- A statement in a transaction of its own. -/
theorem runAlone (h : course.SameDesk course') (statement : Statement) :
    tandem.Alongside (Answered alike) (DataCall.runAlone p course statement)
      (DataCall.runAlone q course' statement) := by
  have hrun := tandem.executeAlone statement
  refine ⟨?_, ?_⟩
  · intro s hs
    obtain ⟨after, -, halone⟩ := runAlone_cases p course statement s
    rw [halone] at hs
    exact hrun.back s hs
  · intro s t hst hs
    obtain ⟨after, hdesk, halone⟩ := runAlone_cases p course statement s
    obtain ⟨after', hdesk', halone'⟩ := runAlone_cases q course' statement t
    rw [halone] at hs
    rw [halone, halone']
    obtain ⟨hresult, hafter⟩ := hrun.along s t hst hs
    refine ⟨⟨.some hresult, ?_, ?_⟩, hafter⟩
    · rw [hdesk, hdesk', h.desk]
    · rw [hdesk]
      exact h.named

/-- Any operation but to let go of a transaction. -/
theorem perform (h : course.SameDesk course') {request : DataCall}
    (hkept : ∀ number, request ≠ .drop number) :
    tandem.Alongside (Answered alike) (request.perform p course)
      (request.perform q course') := by
  cases request with
  | executeAlone statement => exact tandem.runAlone h statement
  | begin =>
    apply Lockstep.bind (OutcomesAlike.refl .same) tandem.beginning
    intro result result' hresult
    have hsame : result.toOption = result'.toOption := by
      cases hresult with
      | ok transaction => rfl
      | error he => rfl
    refine .pure ⟨repliesAlike hresult, ?_⟩
    rw [← hsame]
    exact h.start result.toOption
  | _ => exact tandem.performOpen h hkept

/-! ### Code -/

/-- What the first platform is not expected to do any more, it is not by any operation. -/
theorem keptByAccess : KeptByAccess p fun s => ¬ tandem.Expected s.world where
  policy s hs hafter := hs (tandem.current.back s hafter)
  begin s hs hafter := hs (tandem.begin.back s.world hafter)
  call session request s hs hafter := hs (tandem.call_back session request s.world hafter)
  abandon session s hs hafter := hs (tandem.abandon_back session s.world hafter)
  emit event s hs hafter := hs (tandem.emit_back event s.world hafter)

variable {s : AccessState σ} {t : AccessState τ}

/-- Whatever frame is entered, it is entered on both sides. -/
theorem entered (frame : Frame) (h : tandem.Along s t) :
    tandem.Along (frame.entered p s) (frame.entered q t) := by
  obtain ⟨hworld, hgrants, hsites, haround⟩ := h
  have haudit : ∀ reason, tandem.Agree
      (p.audit (.policyBypass reason none s.around.actor) s.world)
      (q.audit (.policyBypass reason none t.around.actor) t.world) := by
    intro reason
    rw [← haround]
    exact tandem.audit _ _ _ hworld
  have hunit : ∀ work : UnitOfWork, ({ s.around with work := some work } : Surroundings) =
      { t.around with work := some work } := by
    intro work
    rw [haround]
  rcases frame with work | reason | name
  · exact ⟨hworld, hgrants, hsites, hunit work⟩
  · refine ⟨haudit reason, hgrants, hsites, ?_⟩
    show ({ s.around with bypass := some reason } : Surroundings) = _
    rw [haround]
    rfl
  · exact ⟨haudit (scheduledReason name), hgrants, hsites, hunit (.scheduled name)⟩

/-- The frame is left on both sides. -/
theorem left (frame : Frame) (h : tandem.Along s t) {s' : AccessState σ} {t' : AccessState τ}
    (h' : tandem.Along s' t') :
    tandem.Along { s' with around := frame.left s.around s'.around }
      { t' with around := frame.left t.around t'.around } := by
  obtain ⟨hworld, hgrants, hsites, haround⟩ := h'
  refine ⟨hworld, hgrants, hsites, ?_⟩
  rw [h.around, haround]

/-- Entering a frame does not bring the first platform back to what is expected. -/
theorem entered_back (frame : Frame) (h : tandem.Expected (frame.entered p s).world) :
    tandem.Expected s.world := by
  rcases frame.entered_world p s with hsame | ⟨entry, haudit⟩
  · rwa [hsame] at h
  · rw [haudit] at h
    exact tandem.audit_back entry s.world h

/-- The same grant is attached on both sides. -/
theorem attached (grant : EffectiveGrant) (h : tandem.Along s t) :
    tandem.Along (Work.attachGrant grant s).2 (Work.attachGrant grant t).2 := by
  rw [Layer.attachGrant_after, Layer.attachGrant_after]
  obtain ⟨hworld, hgrants, hsites, haround⟩ := h
  refine ⟨hworld, hgrants, hsites, ?_⟩
  dsimp only
  rw [haround]

end Tandem

namespace Code

/-- The code lets go of no transaction, so that those that it ends are committed or rolled back. -/
def NeverDrops : Code → Prop
  | done => True
  | call request next => (∀ number, request ≠ .drop number) ∧ ∀ answer, (next answer).NeverDrops
  | attach _ next => next.NeverDrops
  | framed _ body next => body.NeverDrops ∧ next.NeverDrops

/-- The code goes on in the same way after replies that are alike. -/
def Indifferent (alike : SessionError → SessionError → Prop) : Code → Prop
  | done => True
  | call _ next =>
    (∀ answer answer', RepliesAlike alike answer answer' → next answer = next answer') ∧
      ∀ answer, (next answer).Indifferent alike
  | attach _ next => next.Indifferent alike
  | framed _ body next => body.Indifferent alike ∧ next.Indifferent alike

/-- Where errors are alike only if they are the same, there is no code that could tell. -/
theorem indifferent_of_eq {alike : SessionError → SessionError → Prop}
    (halike : ∀ e e', alike e e' → e = e') (code : Code) : code.Indifferent alike := by
  have hsame : ∀ answer answer', RepliesAlike alike answer answer' → answer = answer' := by
    intro answer answer' h
    rcases h with ⟨⟨_⟩ | ⟨_ | herror⟩⟩ | _
    · rfl
    · rfl
    · rw [halike _ _ herror]
    · rfl
  induction code with
  | done => trivial
  | call request next ih =>
    exact ⟨fun answer answer' h => congrArg next (hsame answer answer' h), ih⟩
  | attach grant next ih => exact ih
  | framed frame body next ihBody ihNext => exact ⟨ihBody, ihNext⟩

/-- The course and the state after code in a frame. -/
def inFrame (platform : Platform σ) (frame : Frame) (body : Code) (course : Course σ)
    (s : AccessState σ) : Course σ × AccessState σ :=
  let inner := body.run platform { course with layers := frame.layer :: course.layers }
    (frame.entered platform s)
  ({ inner.1 with layers := inner.1.layers.tail },
    { inner.2 with around := frame.left s.around inner.2.around })

/-- What comes after a frame goes on from where the code in it has left. -/
theorem run_framed_eq (platform : Platform σ) (frame : Frame) (body next : Code)
    (course : Course σ) (s : AccessState σ) :
    (framed frame body next).run platform course s =
      next.run platform (body.inFrame platform frame course s).1
        (body.inFrame platform frame course s).2 := by
  rw [run_framed, frame.enclose_eq]
  rfl

/-- What the code is told while it runs, in order. -/
def told (platform : Platform σ) : Code → Course σ → AccessState σ → List Reply
  | done, _, _ => []
  | call request next, course, s =>
    let called := request.perform platform course s
    called.1.1 :: (next called.1.1).told platform called.1.2 called.2
  | attach grant next, course, s =>
    next.told platform { course with layers := Layer.attach grant course.layers }
      (Work.attachGrant grant s).2
  | framed frame body next, course, s =>
    let after := body.inFrame platform frame course s
    body.told platform { course with layers := frame.layer :: course.layers }
      (frame.entered platform s) ++ next.told platform after.1 after.2

end Code

namespace Tandem

variable {p : Platform σ} {q : Platform τ} {alike : SessionError → SessionError → Prop}
  (tandem : Tandem p q alike)

/-- No code brings the first platform back to what is expected. -/
theorem code_back (code : Code) {course : Course σ} {s : AccessState σ}
    (h : tandem.Expected (code.run p course s).2.world) : tandem.Expected s.world := by
  induction code generalizing course s with
  | done => exact h
  | call request next ih =>
    have hcalled : tandem.Expected (request.perform p course s).2.world := ih _ h
    by_contra hnot
    exact tandem.keptByAccess.perform course request hnot hcalled
  | attach grant next ih =>
    have hattached : tandem.Expected (Work.attachGrant grant s).2.world := ih h
    rwa [Layer.attachGrant_after] at hattached
  | framed frame body next ihBody ihNext =>
    rw [Code.run_framed_eq] at h
    have hinner : tandem.Expected (body.inFrame p frame course s).2.world := ihNext h
    exact tandem.entered_back frame (ihBody hinner)

/-- Code that lets go of no transaction and goes on in the same way after replies that are alike is
told replies that are alike, as long as the first platform does what is expected. -/
theorem run (code : Code) (hdrops : code.NeverDrops) (hindifferent : code.Indifferent alike)
    {course : Course σ} {course' : Course τ} {s : AccessState σ} {t : AccessState τ}
    (hdesk : course.SameDesk course') (hst : tandem.Along s t)
    (hexpected : tandem.Expected (code.run p course s).2.world) :
    List.Forall₂ (RepliesAlike alike) (code.told p course s) (code.told q course' t) ∧
      (code.run p course s).1.SameDesk (code.run q course' t).1 ∧
      tandem.Along (code.run p course s).2 (code.run q course' t).2 := by
  induction code generalizing course course' s t with
  | done => exact ⟨.nil, hdesk, hst⟩
  | call request next ih =>
    have hcalled : tandem.Expected (request.perform p course s).2.world :=
      tandem.code_back _ hexpected
    obtain ⟨⟨hreply, hdesk'⟩, hst'⟩ := (tandem.perform hdesk hdrops.1).along s t hst hcalled
    obtain ⟨htold, hafter⟩ := ih _ (hdrops.2 _) (hindifferent.2 _) hdesk' hst' hexpected
    have hnext := hindifferent.1 _ _ hreply
    unfold Code.told
    rw [Code.run_call, Code.run_call]
    dsimp only
    rw [← hnext]
    exact ⟨.cons hreply htold, hafter⟩
  | attach grant next ih =>
    exact ih hdrops hindifferent (hdesk.relayer _ _) (tandem.attached grant hst) hexpected
  | framed frame body next ihBody ihNext =>
    rw [Code.run_framed_eq] at hexpected
    have hbody : tandem.Expected (body.inFrame p frame course s).2.world :=
      tandem.code_back _ hexpected
    obtain ⟨htold, hdesk', hst'⟩ := ihBody hdrops.1 hindifferent.1 (hdesk.relayer _ _)
      (tandem.entered frame hst) hbody
    obtain ⟨htoldNext, hafter⟩ := ihNext hdrops.2 hindifferent.2 (hdesk'.relayer _ _)
      (tandem.left frame hst hst') hexpected
    rw [Code.run_framed_eq, Code.run_framed_eq]
    exact ⟨List.rel_append htold htoldNext, hafter⟩

end Tandem
end TenantAccess
