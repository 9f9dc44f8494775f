import TenantAccess.Proofs.Sessions.Code

/-!
# Every statement comes with its policy

Whatever code does, in whatever frames, and whatever the sessions answer: each statement in the log
of a session comes right after the settings that the frames around its call define, and where they
define none there is no statement.

* `Explained`: each statement that is new in the logs is explained by an attempt.
* `Ran`: what running preserves; one lemma for each operation (up to `Ran.perform`), one for each frame
  (`Ran.framed`), and then for all code (`Code.run_ran`).
* `run_statements_fresh`: so it is for code that starts outside of any frame.
-/

namespace TenantAccess

variable {σ : Type} {platform : Platform σ}

/-! ### Explanations -/

/-- Among the events of a statement, what comes before it are the settings. -/
theorem StatementEvents.split {values : List Setting} {statement sent : Statement}
    {new before after : List SessionEvent} (h : StatementEvents values statement new)
    (hsplit : new = before ++ .called (.execute sent) :: after) :
    before = [.called (.settings values)] ∧ EqualUpToOwner statement sent := by
  subst hsplit
  rcases h with h | h | ⟨sent', hequal, h⟩
  · simp at h
  · rcases before with _ | ⟨first, before⟩ <;> simp at h
  · rcases before with _ | ⟨first, _ | ⟨second, before⟩⟩
    · simp at h
    · simp only [List.cons_append, List.nil_append, List.cons.injEq] at h
      obtain ⟨rfl, hsent, -⟩ := h
      cases hsent
      exact ⟨rfl, hequal⟩
    · simp at h

/-- The attempt explains a statement in a session with all that came before it: at the attempt all
of it had happened but the settings, which are those that the frames of the attempt define. -/
structure Attempt.Explains (log : SessionLog platform) (attempt : Attempt σ) (session : SessionId)
    (whole : List SessionEvent) (sent : Statement) : Prop where
  session_eq : attempt.session = session
  statement : EqualUpToOwner attempt.statement sent
  settings : ∃ values, Layer.required platform attempt.layers attempt.before = .ok values ∧
    whole = log.events attempt.before.world session ++ [.called (.settings values)]

/-- Where its frames define no settings, the attempt fails for that reason and no statement is asked
for. -/
def Attempt.Refuses (log : SessionLog platform) (attempt : Attempt σ) : Prop :=
  ∀ e, Layer.required platform attempt.layers attempt.before = .error e →
    attempt.result = .error e ∧ Quiet log attempt.before attempt.after

/-- The logs have only grown, and each new statement in them is explained by one of the attempts. -/
structure Explained (log : SessionLog platform) (before after : SessionId → List SessionEvent)
    (attempts : List (Attempt σ)) : Prop where
  grown : ∀ session, before session <+: after session
  explained : ∀ session whole sent later,
    after session = whole ++ .called (.execute sent) :: later → before session <+: whole →
      ∃ attempt ∈ attempts, attempt.Explains log session whole sent

namespace Explained

variable {log : SessionLog platform} {a b c : SessionId → List SessionEvent}
  {first second : List (Attempt σ)} {s t : AccessState σ}

/-- What is new in two steps is explained by the attempts of both. -/
theorem trans (h : Explained log a b first) (h' : Explained log b c second) :
    Explained log a c (first ++ second) where
  grown session := (h.grown session).trans (h'.grown session)
  explained := by
    intro session whole sent later hsplit hstart
    have hstatement : whole ++ [.called (.execute sent)] <+: c session := by
      rw [hsplit]
      exact ⟨later, by simp⟩
    rcases List.prefix_or_prefix_of_prefix (h'.grown session) hstatement with hlate | hearly
    · rcases List.prefix_concat_iff.mp hlate with heq | hlate
      · obtain ⟨attempt, hmem, hexplains⟩ := h.explained session whole sent [] heq hstart
        exact ⟨attempt, List.mem_append_left _ hmem, hexplains⟩
      · obtain ⟨attempt, hmem, hexplains⟩ :=
          h'.explained session whole sent later hsplit hlate
        exact ⟨attempt, List.mem_append_right _ hmem, hexplains⟩
    · obtain ⟨between, hbetween⟩ := hearly
      rw [List.append_assoc] at hbetween
      obtain ⟨attempt, hmem, hexplains⟩ :=
        h.explained session whole sent between hbetween.symm hstart
      exact ⟨attempt, List.mem_append_left _ hmem, hexplains⟩

/-- Where no statement was asked for, there is nothing to explain. -/
theorem of_quiet (h : Quiet log s t) (attempts : List (Attempt σ)) :
    Explained log (log.events s.world) (log.events t.world) attempts where
  grown session := by
    obtain ⟨new, hnew, -⟩ := h.events session
    exact ⟨new, hnew.symm⟩
  explained := by
    rintro session whole sent later hsplit ⟨between, rfl⟩
    obtain ⟨new, hnew, hquiet⟩ := h.events session
    rw [hnew, List.append_assoc, List.append_cancel_left_eq] at hsplit
    have := hquiet (.called (.execute sent)) (by rw [hsplit]; simp)
    cases this

/-- A statement that comes after the settings of its frames is explained by the attempt. -/
theorem of_attempt {attempt : Attempt σ} {values : List Setting} {new : List SessionEvent}
    (hbefore : attempt.before = s) (h : Asks log s t attempt.session new)
    (hvalues : Layer.required platform attempt.layers attempt.before = .ok values)
    (hnew : StatementEvents values attempt.statement new) :
    Explained log (log.events s.world) (log.events t.world) [attempt] where
  grown session := ⟨_, (h.events session).symm⟩
  explained := by
    rintro session whole sent later hsplit ⟨between, rfl⟩
    rw [h.events session, List.append_assoc, List.append_cancel_left_eq] at hsplit
    split at hsplit
    · rename_i hsession
      obtain ⟨rfl, hequal⟩ := hnew.split hsplit
      refine ⟨attempt, List.mem_singleton_self attempt, hsession.symm, hequal, values, hvalues, ?_⟩
      rw [hbefore]
    · simp at hsplit

end Explained

/-! ### What running preserves -/

/-- From one point to another of running code: the surroundings are those of the frames, which are
still the same ones, and the statements tried on the way explain the new ones in the logs. -/
structure Ran (log : SessionLog platform) (course : Course σ) (s : AccessState σ)
    (course' : Course σ) (t : AccessState σ) : Prop where
  around : t.around = Layer.surroundings course'.layers
  layers : Layer.Grown course.layers course'.layers
  attempts : ∃ tried, course'.attempts = course.attempts ++ tried ∧
    Explained log (log.events s.world) (log.events t.world) tried ∧
    ∀ attempt ∈ tried, attempt.Refuses log

namespace Ran

variable {log : SessionLog platform} {course course' course'' : Course σ} {s t u : AccessState σ}

/-- Where nothing was run, there is nothing to explain. -/
theorem refl (h : s.around = Layer.surroundings course.layers) : Ran log course s course s where
  around := h
  layers := .refl _
  attempts := ⟨[], by simp, .of_quiet (.refl s) [], by simp⟩

/-- What two steps preserve, both together do. -/
theorem trans (h : Ran log course s course' t) (h' : Ran log course' t course'' u) :
    Ran log course s course'' u where
  around := h'.around
  layers := h.layers.trans h'.layers
  attempts := by
    obtain ⟨tried, hattempts, hexplained, hrefuses⟩ := h.attempts
    obtain ⟨tried', hattempts', hexplained', hrefuses'⟩ := h'.attempts
    refine ⟨tried ++ tried', ?_, hexplained.trans hexplained', ?_⟩
    · rw [hattempts', hattempts, List.append_assoc]
    · intro attempt hattempt
      rcases List.mem_append.mp hattempt with hattempt | hattempt
      · exact hrefuses attempt hattempt
      · exact hrefuses' attempt hattempt

/-- An operation that asks for no statement preserves it, whatever becomes of the transactions. -/
theorem of_quiet (haround : s.around = Layer.surroundings course.layers) (h : Quiet log s t)
    (hlayers : course'.layers = course.layers) (hattempts : course'.attempts = course.attempts) :
    Ran log course s course' t where
  around := by rw [h.around, haround, hlayers]
  layers := by
    rw [hlayers]
    exact .refl _
  attempts := ⟨[], by rw [hattempts, List.append_nil], .of_quiet h [], by simp⟩

/-- A statement that was tried preserves it, when it explains what is new in the logs. -/
theorem of_attempt {attempt : Attempt σ} (haround : t.around = Layer.surroundings course.layers)
    (hexplained : Explained log (log.events s.world) (log.events t.world) [attempt])
    (hrefuses : attempt.Refuses log) (hlayers : course'.layers = course.layers)
    (hattempts : course'.attempts = course.attempts ++ [attempt]) :
    Ran log course s course' t where
  around := by rw [haround, hlayers]
  layers := by
    rw [hlayers]
    exact .refl _
  attempts := by
    refine ⟨[attempt], hattempts, hexplained, ?_⟩
    intro attempt' hattempt'
    obtain rfl := List.mem_singleton.mp hattempt'
    exact hrefuses

/-! ### Operations -/

variable (log)

/-- A statement in an open transaction preserves it. -/
theorem runOn (number : Nat) (statement : Statement) (opened : OpenTransaction)
    (h : s.around = Layer.surroundings course.layers) :
    Ran log course s (DataCall.runOn platform course number statement opened s).1.2
      (DataCall.runOn platform course number statement opened s).2 := by
  obtain ⟨result, tx', t, hrun, hasks⟩ := execute_asks log opened.transaction statement h
  unfold DataCall.runOn
  rw [hrun]
  dsimp only
  rcases hrequired : Layer.required platform course.layers s with e | values
  · rw [hrequired] at hasks
    obtain ⟨rfl, hsilent⟩ := hasks
    refine of_attempt (hsilent.around.trans h) (.of_quiet hsilent.quiet _) ?_ rfl rfl
    intro e' he'
    obtain rfl := Except.error.inj (hrequired.symm.trans he')
    exact ⟨rfl, hsilent.quiet⟩
  · rw [hrequired] at hasks
    obtain ⟨new, hasks, hnew⟩ := hasks
    refine of_attempt (hasks.around.trans h) (.of_attempt rfl hasks hrequired hnew) ?_ rfl rfl
    intro e he
    cases hrequired.symm.trans he

/-- A statement in a transaction of its own preserves it, whether or not one could be begun. -/
theorem runAlone (statement : Statement) (h : s.around = Layer.surroundings course.layers) :
    Ran log course s (DataCall.runAlone platform course statement s).1.2
      (DataCall.runAlone platform course statement s).2 := by
  have hbegun := begin_quiet log s
  unfold DataCall.runAlone
  rcases hbegin : Transaction.begin platform s with ⟨e | tx, opened⟩
  · rw [hbegin] at hbegun
    rw [executeAlone_of_error hbegin]
    exact of_quiet h hbegun rfl rfl
  · rw [hbegin] at hbegun
    have haround := hbegun.around.trans h
    obtain ⟨u, hend, hasks⟩ := executeAlone_asks log statement hbegin haround
    dsimp only
    rcases hrequired : Layer.required platform course.layers opened with e | values
    · rw [hrequired] at hasks
      obtain ⟨hresult, hsilent⟩ := hasks
      have hquiet := hsilent.quiet.trans hend
      refine of_attempt (hquiet.around.trans haround) (.of_quiet (hbegun.trans hquiet) _) ?_ rfl rfl
      intro e' he'
      obtain rfl := Except.error.inj (hrequired.symm.trans he')
      exact ⟨hresult, hquiet⟩
    · rw [hrequired] at hasks
      obtain ⟨new, hasks, hnew⟩ := hasks
      refine of_attempt (hend.around.trans (hasks.around.trans haround)) ?_ ?_ rfl rfl
      · have hbefore := Explained.of_quiet hbegun ([] : List (Attempt σ))
        have hafter := Explained.of_quiet hend ([] : List (Attempt σ))
        exact (hbefore.trans (.of_attempt rfl hasks hrequired hnew)).trans hafter
      · intro e he
        cases hrequired.symm.trans he

/-- Whatever operation is carried out on an open transaction. -/
theorem performOn (request : DataCall) (opened : OpenTransaction)
    (h : s.around = Layer.surroundings course.layers) :
    Ran log course s (DataCall.performOn platform course opened request s).1.2
      (DataCall.performOn platform course opened request s).2 := by
  cases request with
  | executeAlone statement => exact refl h
  | begin => exact refl h
  | execute number statement => exact runOn log number statement opened h
  | openNested number => exact of_quiet h (openNested_quiet log opened.transaction h) rfl rfl
  | releaseNested number =>
    unfold DataCall.performOn
    rcases opened.scopes with _ | ⟨scope, scopes⟩
    · exact refl h
    · exact of_quiet h (releaseNested_quiet log opened.transaction scope s) rfl rfl
  | rollbackNested number =>
    unfold DataCall.performOn
    rcases opened.scopes with _ | ⟨scope, scopes⟩
    · exact refl h
    · exact of_quiet h (rollbackNested_quiet log opened.transaction scope s) rfl rfl
  | dropNested number => exact of_quiet h (.refl s) rfl rfl
  | commit number => exact of_quiet h (commit_quiet log opened.transaction s) rfl rfl
  | rollback number => exact of_quiet h (rollback_quiet log opened.transaction s) rfl rfl
  | drop number => exact of_quiet h (abandon_quiet log opened.transaction s) rfl rfl

/-- Whatever operation is carried out on the transaction that it is on. -/
theorem performOpen (request : DataCall) (h : s.around = Layer.surroundings course.layers) :
    Ran log course s (DataCall.performOpen platform course request s).1.2
      (DataCall.performOpen platform course request s).2 := by
  unfold DataCall.performOpen
  rcases request.number?.bind course.open? with _ | opened
  · exact refl h
  · exact performOn log request opened h

/-- Whatever operation is carried out. -/
theorem perform (request : DataCall) (h : s.around = Layer.surroundings course.layers) :
    Ran log course s (request.perform platform course s).1.2 (request.perform platform course s).2 := by
  obtain ⟨statement, rfl⟩ | rfl | hopen := request.perform_cases platform course
  · exact runAlone log statement h
  · exact of_quiet h (begin_quiet log s) rfl rfl
  · rw [hopen]
    exact performOpen log request h

/-! ### Frames -/

variable {log}

/-- Attaching a grant preserves it. -/
theorem attached (grant : EffectiveGrant) (h : s.around = Layer.surroundings course.layers) :
    Ran log course s { course with layers := Layer.attach grant course.layers }
      (Work.attachGrant grant s).2 := by
  rw [Layer.attachGrant_apply h]
  refine ⟨rfl, .attach grant _, [], by simp, ?_, by simp⟩
  exact .of_quiet (.refl s) []

/-- What the code in a frame preserves is preserved around it. -/
theorem framed (frame : Frame) {inner : AccessState σ}
    (h : s.around = Layer.surroundings course.layers)
    (hinner : log.events inner.world = log.events s.world)
    (hran : Ran log { course with layers := frame.layer :: course.layers } inner course' t) :
    Ran log course s { course' with layers := course'.layers.tail }
      { t with around := frame.left s.around t.around } := by
  obtain ⟨haround, hlayers, tried, hattempts, hexplained, hrefuses⟩ := hran
  have hlayers' : Layer.Grown course.layers course'.layers.tail ∧
      frame.left s.around t.around = Layer.surroundings course'.layers.tail := by
    rw [haround, h]
    exact frame.left_grown hlayers
  refine ⟨hlayers'.2, hlayers'.1, tried, hattempts, ?_, hrefuses⟩
  rw [← hinner]
  exact hexplained

end Ran

/-! ### Running code -/

/-- Running any code preserves it. -/
theorem Code.run_ran (log : SessionLog platform) (code : Code) {course : Course σ}
    {s : AccessState σ} (h : s.around = Layer.surroundings course.layers) :
    Ran log course s (code.run platform course s).1 (code.run platform course s).2 := by
  induction code generalizing course s with
  | done => exact .refl h
  | call request next ih =>
    have hcall := Ran.perform log request h
    exact hcall.trans (ih _ hcall.around)
  | attach grant next ih =>
    have hattach : Ran log course s _ _ := .attached grant h
    exact hattach.trans (ih hattach.around)
  | framed frame body next ihBody ihNext =>
    have hframe : Ran log course s _ _ :=
      .framed frame h (frame.entered_events log s) (ihBody (frame.entered_around platform h))
    have hnext := ihNext hframe.around
    rw [Code.run_framed, frame.enclose_eq]
    exact hframe.trans hnext

/-- No statement runs without settings made for it: whatever code does from outside of any frame, in
the log of each session every new statement comes right after the settings that the frames around
its call define at that moment, and it is the statement of that call up to a missing owner. Where
the frames define no settings, or the visible sites are not known, the call fails for that reason
and asks for no statement. -/
theorem run_statements_fresh (log : SessionLog platform) (code : Code) (s : AccessState σ)
    (houtside : s.around = {}) :
    let course := (code.run platform {} s).1
    let final := (code.run platform {} s).2
    (∀ session, log.events s.world session <+: log.events final.world session) ∧
      (∀ session whole sent later,
        log.events final.world session = whole ++ .called (.execute sent) :: later →
          log.events s.world session <+: whole →
          ∃ attempt ∈ course.attempts, attempt.Explains log session whole sent) ∧
      ∀ attempt ∈ course.attempts, attempt.Refuses log := by
  intro course final
  have haround : s.around = Layer.surroundings ({} : Course σ).layers := houtside
  obtain ⟨-, -, tried, hattempts, hexplained, hrefuses⟩ := code.run_ran log haround
  have htried : course.attempts = tried := hattempts
  rw [htried]
  exact ⟨hexplained.grown, hexplained.explained, hrefuses⟩

/-- A write of a category without an owner. -/
def unownedWrite : Statement :=
  ((Statement.plain .execute "insert" [.nullUuid]).writes .category .insert).ownerAt 0

/-- A unit of work of the manager of a client. -/
def managing : UnitOfWork :=
  { UnitOfWork.interactive (.unnamed ⟨"ann"⟩ "ann@example.org" "ann") .default {} with
    grant := some ⟨.client, .empty, some (.ofNat 1), none, .stored (.ofNat 21)⟩ }

/-- The same write three times in one transaction: in a unit of work, in a bypass and outside of
both. -/
def threeWrites : Code :=
  .call .begin fun _ =>
  .framed (.unit managing) (.call (.execute 0 unownedWrite) fun _ => .done) <|
  .framed (.bypass "maintenance") (.call (.execute 0 unownedWrite) fun _ => .done) <|
  .call (.execute 0 unownedWrite) fun _ =>
  .call (.commit 0) fun _ => .done

/-- What is asked for in the session up to the second write. -/
def upToSecondWrite : List SessionEvent := [
  .begun,
  .called (.settings (Layer.rowPolicyInputs (managing.grant.getD default) .all)),
  .called (.execute (unownedWrite.stampOwner (.ofNat 1))),
  .called (.settings Layer.rowPoliciesOff)]

/-- Only the first two are asked for, each with settings of its own; the second one is explained by
the call in the bypass. -/
theorem run_statements_fresh_three_writes :
    let s : AccessState World := { world := { listener := default } }
    World.sessionLog.events (threeWrites.run World.inMemory {} s).2.world 1 =
        upToSecondWrite ++ .called (.execute unownedWrite) :: [.called .commit] ∧
      ∃ attempt ∈ (threeWrites.run World.inMemory {} s).1.attempts,
        attempt.Explains World.sessionLog 1 upToSecondWrite unownedWrite := by
  intro s
  have hlog : World.sessionLog.events (threeWrites.run World.inMemory {} s).2.world 1 =
      upToSecondWrite ++ .called (.execute unownedWrite) :: [.called .commit] := by cbv
  obtain ⟨-, hexplained, -⟩ := run_statements_fresh World.sessionLog threeWrites s rfl
  exact ⟨hlog, hexplained 1 upToSecondWrite unownedWrite _ hlog List.nil_prefix⟩

end TenantAccess
