import TenantAccess.Proofs.Sessions.Extent

/-!
# Announced bypasses

Row policies are off for a statement because of a bypass or a job around it.  A bypass and a job
announce that in the audit trail on entry, with the reason; entering a unit of work announces
nothing, not even when it is that of a job.

* `Entry.announces_iff`: what the entry of a frame announces.
* `Layer.offReason?`: the reason for which row policies are off, from the frames alone.
* `bypass_announced_iff`: the reason was announced by one of the frames around the statement, unless
  the innermost of them is the unit of work of a job that is not run as one around it.
* `scheduled_unit_unannounced`: in such a unit of work nothing was announced.
-/

namespace TenantAccess

variable {σ : Type} {platform : Platform σ}

/-! ### Settings in force -/

/-- The settings that an event makes. -/
def SessionEvent.made : SessionEvent → List Setting
  | .called (.settings values) => values
  | _ => []

/-- The value of a setting in a session after its events: the one made last. -/
def settingAfter (name : String) (events : List SessionEvent) : Option String :=
  ((events.flatMap SessionEvent.made).filter (·.name == name)).getLast?.map (·.value)

/-- A setting that the last call makes once has the value from that call. -/
theorem settingAfter_made {name value : String} {values : List Setting}
    (h : values.filter (·.name == name) = [⟨name, value⟩]) (events : List SessionEvent) :
    settingAfter name (events ++ [.called (.settings values)]) = some value := by
  have hmade : (events ++ [SessionEvent.called (.settings values)]).flatMap SessionEvent.made =
      events.flatMap SessionEvent.made ++ values := by
    simp [SessionEvent.made]
  unfold settingAfter
  rw [hmade, List.filter_append, h, List.getLast?_concat]
  rfl

/-! ### Why row policies are off -/

/-- The reason for which the frames turn row policies off: that of the innermost bypass, else that
of the job when the innermost unit of work is one. -/
def Layer.offReason? (layers : List Layer) : Option String :=
  match innermostBypass layers, innermostWork layers with
  | some reason, _ => some reason
  | none, none => none
  | none, some unit =>
    match unit.mode with
    | .scheduled job => some (scheduledReason job)
    | .interactive => none

/-- Where the settings turn row policies off, the frames have a reason for it. -/
theorem Layer.exists_offReason {layers : List Layer} {s : AccessState σ} {values : List Setting}
    {events : List SessionEvent} (h : required platform layers s = .ok values)
    (hoff : settingAfter "app.bypass_rls" (events ++ [.called (.settings values)]) = some "on") :
    ∃ reason, offReason? layers = some reason := by
  unfold required at h
  unfold offReason?
  generalize innermostBypass layers = bypass? at h ⊢
  generalize innermostWork layers = work? at h ⊢
  rcases bypass? with _ | reason
  · rcases work? with _ | ⟨_, _, grant?, mode, _⟩
    · cases h
    · rcases mode with _ | job
      · rcases grant? with _ | grant
        · cases h
        · -- the inputs of the row policies turn them on
          dsimp only at h
          rcases hsites : (SiteTrees.visibleTo platform grant s).1 with e | sites <;>
            rw [hsites] at h
          · cases h
          · obtain rfl := Except.ok.inj h
            have hon : settingAfter "app.bypass_rls"
                (events ++ [.called (.settings (rowPolicyInputs grant sites))]) = some "off" :=
              settingAfter_made (by simp [rowPolicyInputs]) events
            exact absurd (Option.some.inj (hoff.symm.trans hon)) (by decide)
      · exact ⟨_, rfl⟩
  · exact ⟨_, rfl⟩

/-- The policy of the moment has the reason of the frames. -/
theorem current_of_offReason {layers : List Layer} {s : AccessState σ} {reason : String}
    (haround : s.around = Layer.surroundings layers) (h : Layer.offReason? layers = some reason) :
    (DataAccessPolicy.current platform s).1 = .ok (.bypass reason) := by
  rw [current_apply haround]
  unfold Layer.offReason? at h
  generalize Layer.innermostBypass layers = bypass? at h ⊢
  generalize Layer.innermostWork layers = work? at h ⊢
  rcases bypass? with _ | innermost
  · rcases work? with _ | ⟨_, _, _, mode, _⟩
    · cases h
    · rcases mode with _ | job
      · cases h
      · obtain rfl := Option.some.inj h
        rfl
  · obtain rfl := Option.some.inj h
    rfl

/-- The reason depends on the kinds of the frames only. -/
theorem Layer.offReason?_congr {a b : List Layer} (h : a.map kind = b.map kind) :
    offReason? a = offReason? b := by
  have hinnermost : innermostBypass a = innermostBypass b ∧
      (innermostWork a).map (·.mode) = (innermostWork b).map (·.mode) := by
    induction a generalizing b with
    | nil =>
      obtain rfl := List.map_eq_nil_iff.mp h.symm
      exact ⟨rfl, rfl⟩
    | cons layer a ih =>
      rcases b with _ | ⟨layer', b⟩
      · cases h
      · obtain ⟨hkind, hrest⟩ := List.cons.inj h
        obtain ⟨hbypass, hwork⟩ := ih hrest
        rcases layer with unit | reason <;> rcases layer' with unit' | reason'
        · exact ⟨hbypass, congrArg some (Kind.work.inj hkind)⟩
        · cases hkind
        · cases hkind
        · exact ⟨congrArg some (Kind.bypass.inj hkind), hwork⟩
  obtain ⟨hbypass, hwork⟩ := hinnermost
  unfold offReason?
  rw [hbypass]
  rcases innermostBypass b with _ | reason
  · rcases hunit : innermostWork a with _ | unit <;> rcases hunit' : innermostWork b with _ | unit'
    · rfl
    · simp [hunit, hunit'] at hwork
    · simp [hunit, hunit'] at hwork
    · have hmode : unit.mode = unit'.mode := by simpa [hunit, hunit'] using hwork
      dsimp only
      rw [hmode]
  · rfl

/-! ### What frames announce -/

/-- The reason that the frame announces. -/
def Frame.announced? : Frame → Option String
  | .unit _ => none
  | .bypass reason => some reason
  | .job name => some (scheduledReason name)

/-- The entries of the audit trail of a platform. -/
structure AuditTrail (platform : Platform σ) where
  /-- What has been written. -/
  entries : σ → List AuditEntry
  audit : ∀ {world entry}, entries (platform.audit entry world) = entries world ++ [entry]

/-- The audit trail of a world in memory. -/
def World.auditTrail : AuditTrail World.inMemory where
  entries world := world.trail
  audit := rfl

/-- On entry the frame wrote that row policies are off for the reason. -/
def Entry.Announces (trail : AuditTrail platform) (entry : Entry σ) (reason : String) : Prop :=
  ∃ operation idpId, trail.entries (entry.frame.entered platform entry.outside).world =
    trail.entries entry.outside.world ++ [.policyBypass reason operation idpId]

/-- On entry a frame announces the reason that it announces by its kind, and no other. -/
theorem Entry.announces_iff {trail : AuditTrail platform} {entry : Entry σ} {reason : String} :
    entry.Announces trail reason ↔ entry.frame.announced? = some reason := by
  have hwritten : ∀ {said : String} {idpId : Option IdpId},
      (∃ operation other, trail.entries (platform.audit (.policyBypass said none idpId)
        entry.outside.world) =
          trail.entries entry.outside.world ++ [.policyBypass reason operation other]) ↔
        some said = some reason := by
    intro said idpId
    rw [trail.audit]
    constructor
    · rintro ⟨operation, other, h⟩
      cases List.append_cancel_left h
      rfl
    · rintro h
      obtain rfl := Option.some.inj h
      exact ⟨none, idpId, rfl⟩
  obtain ⟨frame, outside⟩ := entry
  rcases frame with work | said | name
  · constructor
    · rintro ⟨operation, idpId, h⟩
      have hsame : trail.entries outside.world =
          trail.entries outside.world ++ [.policyBypass reason operation idpId] := h
      simp at hsame
    · rintro ⟨⟩
  · exact hwritten
  · exact hwritten

/-! ### Frames that nobody announced -/

/-- Row policies are off under the frames although none of them announced it: the innermost one is
the unit of work of a job, and the others are no bypass and do not run that job. -/
def Unannounced (frames : List Frame) : Prop :=
  ∃ unit job outer, frames = .unit unit :: outer ∧ unit.mode = .scheduled job ∧
    (∀ reason, .bypass reason ∉ outer) ∧ .job job ∉ outer

/-- The reason for a job tells which job it is. -/
theorem scheduledReason_inj {job job' : String} (h : scheduledReason job = scheduledReason job') :
    job = job' :=
  (String.append_right_inj _).mp h

/-- The reason of the innermost bypass is that of one of the frames. -/
theorem mem_of_innermostBypass {frames : List Frame} {reason : String}
    (h : Layer.innermostBypass (frames.map Frame.layer) = some reason) :
    .bypass reason ∈ frames := by
  induction frames with
  | nil => cases h
  | cons frame frames ih =>
    rcases frame with work | said | name
    · exact List.mem_cons_of_mem _ (ih h)
    · obtain rfl := Option.some.inj h
      exact List.mem_cons_self
    · exact List.mem_cons_of_mem _ (ih h)

/-- Without an innermost bypass none of the frames is one. -/
theorem not_mem_of_innermostBypass {frames : List Frame}
    (h : Layer.innermostBypass (frames.map Frame.layer) = none) (reason : String) :
    .bypass reason ∉ frames := by
  induction frames with
  | nil => simp
  | cons frame frames ih =>
    rcases frame with work | said | name
    · simpa using ih h
    · cases h
    · simpa using ih h

/-- The reason of the frames is announced by one of them, unless they are unannounced. -/
theorem announced_iff {frames : List Frame} {reason : String}
    (h : Layer.offReason? (frames.map Frame.layer) = some reason) :
    (∃ frame ∈ frames, frame.announced? = some reason) ↔ ¬ Unannounced frames := by
  unfold Layer.offReason? at h
  rcases hbypass : Layer.innermostBypass (frames.map Frame.layer) with _ | innermost
  · have hnone := not_mem_of_innermostBypass hbypass
    rw [hbypass] at h
    rcases frames with _ | ⟨frame, outer⟩
    · cases h
    · rcases frame with unit | said | name
      · -- the unit of work of a job: all depends on who ran the job
        simp only [List.map_cons, Frame.layer, Layer.innermostWork] at h
        rcases hmode : unit.mode with _ | job
        · rw [hmode] at h
          cases h
        · rw [hmode] at h
          obtain rfl := Option.some.inj h
          constructor
          · rintro ⟨frame, hmem, hannounced⟩ ⟨unit', job', outer', hframes, hmode', hbypass', hjob⟩
            obtain ⟨hunit, rfl⟩ := List.cons.inj hframes
            obtain rfl := Frame.unit.inj hunit
            obtain rfl := ExecutionMode.scheduled.inj (hmode.symm.trans hmode')
            rcases List.mem_cons.mp hmem with rfl | hmem
            · cases hannounced
            · rcases frame with work | said | name
              · cases hannounced
              · exact hbypass' said hmem
              · obtain rfl := scheduledReason_inj (Option.some.inj hannounced)
                exact hjob hmem
          · intro hannounced
            by_contra hsilent
            refine hannounced ⟨unit, job, outer, rfl, hmode, ?_, ?_⟩
            · intro said hmem
              exact hnone said (List.mem_cons_of_mem _ hmem)
            · intro hmem
              exact hsilent ⟨.job job, List.mem_cons_of_mem _ hmem, rfl⟩
      · exact absurd List.mem_cons_self (hnone said)
      · -- a job announces itself
        obtain rfl := Option.some.inj h
        refine iff_of_true ⟨.job name, List.mem_cons_self, rfl⟩ ?_
        rintro ⟨unit, job, outer', hframes, -⟩
        cases hframes
  · rw [hbypass] at h
    obtain rfl := Option.some.inj h
    have hmem := mem_of_innermostBypass hbypass
    refine iff_of_true ⟨.bypass innermost, hmem, rfl⟩ ?_
    rintro ⟨unit, job, outer, rfl, -, hnone, -⟩
    rcases List.mem_cons.mp hmem with hmem | hmem
    · cases hmem
    · exact hnone innermost hmem

/-! ### Every bypassed statement -/

/-- Whatever code does from outside of any frame: a statement for which row policies are off in its
session was tried inside of frames, with a policy that turns them off for a reason, and one of those
frames announced that very reason on entry; except that none did where the innermost frame is the
unit of work of a job, not in a bypass and not in that job. -/
theorem bypass_announced_iff (log : SessionLog platform) (trail : AuditTrail platform) (code : Code)
    (s : AccessState σ) (houtside : s.around = {}) (session : SessionId)
    (whole : List SessionEvent) (sent : Statement) (later : List SessionEvent)
    (hlog : log.events (code.run platform {} s).2.world session =
      whole ++ .called (.execute sent) :: later)
    (hnew : log.events s.world session <+: whole)
    (hoff : settingAfter "app.bypass_rls" whole = some "on") :
    ∃ attempt entries, attempt.Explains log session whole sent ∧
      code.Tries platform {} s entries attempt ∧
      ∃ reason, (DataAccessPolicy.current platform attempt.before).1 = .ok (.bypass reason) ∧
        ((∃ entry ∈ entries, entry.Announces trail reason) ↔
          ¬ Unannounced (entries.map (·.frame))) := by
  have haround : s.around = Layer.surroundings ({} : Course σ).layers := houtside
  obtain ⟨-, -, tried, hattempts, hexplained, -⟩ := code.run_ran log haround
  have htried : (code.run platform {} s).1.attempts = tried := hattempts
  obtain ⟨attempt, hmem, hexplains⟩ := hexplained.explained session whole sent later hlog hnew
  have hinside : ∃ entries, code.Tries platform {} s entries attempt := by
    rcases code.exists_tries (htried ▸ hmem) with hbefore | hinside
    · cases hbefore
    · exact hinside
  obtain ⟨entries, htries⟩ := hinside
  obtain ⟨values, hvalues, hwhole⟩ := hexplains.settings
  rw [hwhole] at hoff
  obtain ⟨reason, hreason⟩ := Layer.exists_offReason hvalues hoff
  have hkinds : attempt.layers.map Layer.kind =
      ((entries.map (·.frame)).map Frame.layer).map Layer.kind := by
    rw [htries.kinds, List.map_map, List.map_map]
    exact List.append_nil _
  refine ⟨attempt, entries, hexplains, htries, reason, ?_, ?_⟩
  · exact current_of_offReason (htries.surroundings log haround) hreason
  · rw [Layer.offReason?_congr hkinds] at hreason
    rw [← announced_iff hreason]
    simp [Entry.announces_iff]

/-- A statement of a job in a transaction of its own. -/
def digest : Statement := .plain .execute "digest" []

/-- The job runs its statement in a unit of work of its own. -/
def digesting : Code :=
  .framed (.unit (.scheduled "digest")) (.call (.executeAlone digest) fun _ => .done) .done

/-- The job is run as one. -/
def digestJob : Code := .framed (.job "digest") digesting .done

/-- What happens in the session of the statement before it. -/
def upToDigest : List SessionEvent := [.begun, .called (.settings Layer.rowPoliciesOff)]

/-- Whatever the digest tries, it tries inside of the unit of work of its job alone. -/
theorem frames_of_digesting {course : Course σ} {s : AccessState σ} {entries : List (Entry σ)}
    {attempt : Attempt σ} (h : digesting.Tries platform course s entries attempt) :
    entries.map (·.frame) = [.unit (.scheduled "digest")] := by
  cases h with
  | inside hbody =>
    cases hbody with
    | here => rfl
    | afterCall hdone => cases hdone
  | afterFrame _ hdone => cases hdone

/-- In the job, the job has announced what holds in its unit of work. -/
theorem bypass_announced_iff_job :
    let s : AccessState World := { world := { listener := default } }
    World.sessionLog.events (digestJob.run World.inMemory {} s).2.world 1 =
        upToDigest ++ .called (.execute digest) :: [.called .commit] ∧
      ∃ attempt entries, attempt.Explains World.sessionLog 1 upToDigest digest ∧
        digestJob.Tries World.inMemory {} s entries attempt ∧
        ∃ reason, (DataAccessPolicy.current World.inMemory attempt.before).1 =
            .ok (.bypass reason) ∧
          ∃ entry ∈ entries, entry.Announces World.auditTrail reason := by
  intro s
  have hlog : World.sessionLog.events (digestJob.run World.inMemory {} s).2.world 1 =
      upToDigest ++ .called (.execute digest) :: [.called .commit] := by cbv
  have hoff : settingAfter "app.bypass_rls" upToDigest = some "on" := by decide
  obtain ⟨attempt, entries, hexplains, htries, reason, hpolicy, hannounced⟩ :=
    bypass_announced_iff World.sessionLog World.auditTrail digestJob s rfl 1 upToDigest digest _
      hlog List.nil_prefix hoff
  refine ⟨hlog, attempt, entries, hexplains, htries, reason, hpolicy, hannounced.mpr ?_⟩
  cases htries with
  | inside hbody =>
    rw [List.map_append, frames_of_digesting hbody]
    rintro ⟨unit, job, outer, hframes, hmode, -, hjob⟩
    obtain ⟨hunit, rfl⟩ := List.cons.inj hframes
    obtain rfl := Frame.unit.inj hunit
    obtain rfl := ExecutionMode.scheduled.inj hmode
    exact hjob List.mem_cons_self
  | afterFrame _ hdone => cases hdone

/-- In the unit of work alone nothing is announced, by no frame and not in the audit trail at all. -/
theorem scheduled_unit_unannounced :
    let s : AccessState World := { world := { listener := default } }
    let final := (digesting.run World.inMemory {} s).2
    World.sessionLog.events final.world 1 =
        upToDigest ++ .called (.execute digest) :: [.called .commit] ∧
      settingAfter "app.bypass_rls" upToDigest = some "on" ∧
      (∀ entries attempt, digesting.Tries World.inMemory {} s entries attempt →
        ∀ entry ∈ entries, ∀ reason, ¬ entry.Announces World.auditTrail reason) ∧
      World.auditTrail.entries final.world = [] := by
  intro s final
  refine ⟨by cbv, by decide, ?_, by cbv⟩
  rintro entries attempt htries entry hentry reason hannounces
  rw [Entry.announces_iff] at hannounces
  have hframe := List.mem_map_of_mem (f := (·.frame)) hentry
  rw [frames_of_digesting htries, List.mem_singleton] at hframe
  rw [hframe] at hannounces
  cases hannounces

end TenantAccess
