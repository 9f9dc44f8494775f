import TenantAccess.Proofs.Sessions.Transactions

/-!
# A transactional store

What transactions are to a database, kept beside any platform: a statement that is carried out is
appended to the work of its session, a savepoint remembers how much there is, going back to it leaves
as much, releasing it keeps the work, and a commit makes the work durable.  A call that fails changes
nothing.  What was made durable and what was told to listeners is written down in one history, in the
order in which it happened.

* `Draft`, `Ledger`: the work of an open session, and all of them with the history.
* `Platform.withLedger`: any platform together with a ledger.  Each call fails when the platform lets
  it fail; besides, savepoints have different names, and only those that are there can be used.
* `Ledger.Sound`: what always holds of a ledger.
* `call_ok`, `call_error`: what a call does to the ledger.
-/

namespace TenantAccess

/-- A statement that was carried out in a session. -/
structure Write where
  /-- How many had been carried out before it, in all sessions. -/
  number : Nat
  statement : Statement
  outcome : StatementOutcome

/-! ### The work of a session -/

/-- An open session. -/
structure Draft where
  /-- Its number on the platform. -/
  inner : SessionId
  /-- What was carried out, in order. -/
  work : List Write := []
  /-- The savepoints, the latest one first, each with how much had been carried out at it. -/
  savepoints : List (String × Nat) := []

namespace Draft

variable {draft : Draft} {name : String}

/-- The names of the savepoints. -/
def names (draft : Draft) : List String := draft.savepoints.map (·.1)

/-- The savepoints from the named one back. -/
def back (draft : Draft) (name : String) : List (String × Nat) :=
  draft.savepoints.dropWhile fun point => decide (point.1 ≠ name)

/-- Why a call cannot be answered: for a new savepoint because there is one of the name, for a known
one because there is none. -/
def refusal? (draft : Draft) : SessionCall → Option SessionError
  | .savepoint name => if name ∈ draft.names then some (.invalidSavepoint name) else none
  | .release name | .rollbackTo name =>
    if name ∈ draft.names then none else some (.invalidSavepoint name)
  | _ => none

/-- With one more statement carried out. -/
def append (draft : Draft) (write : Write) : Draft :=
  { draft with work := draft.work ++ [write] }

/-- With one more savepoint. -/
def mark (draft : Draft) (name : String) : Draft :=
  { draft with savepoints := (name, draft.work.length) :: draft.savepoints }

/-- Without a savepoint and those after it. -/
def release (draft : Draft) (name : String) : Draft :=
  { draft with savepoints := (draft.back name).tail }

/-- Back at a savepoint, which stays. -/
def rollbackTo (draft : Draft) (name : String) : Draft :=
  { draft with
    work := draft.work.take (((draft.back name).head?.map (·.2)).getD 0)
    savepoints := draft.back name }

/-- The savepoints have different names, and no later one remembers less work than an earlier one,
nor more than there is. -/
structure Sound (draft : Draft) : Prop where
  names_nodup : draft.names.Nodup
  lengths : draft.savepoints.Pairwise fun later earlier => earlier.2 ≤ later.2
  length_le : ∀ point ∈ draft.savepoints, point.2 ≤ draft.work.length

/-- The savepoints from a named one back are among all of them, in their order. -/
theorem back_sublist (draft : Draft) (name : String) :
    (draft.back name).Sublist draft.savepoints :=
  (List.dropWhile_suffix _).sublist

/-- Fewer savepoints are sound as long as none of them remembers more work than there is. -/
theorem Sound.of_sublist {draft' : Draft} (h : draft.Sound)
    (hpoints : draft'.savepoints.Sublist draft.savepoints)
    (hlength : ∀ point ∈ draft'.savepoints, point.2 ≤ draft'.work.length) : draft'.Sound where
  names_nodup := h.names_nodup.sublist (hpoints.map _)
  lengths := h.lengths.sublist hpoints
  length_le := hlength

/-- One more statement leaves a session sound: all savepoints remember less. -/
theorem Sound.append (h : draft.Sound) (write : Write) : (draft.append write).Sound := by
  refine h.of_sublist (.refl _) ?_
  intro point hpoint
  have hle := h.length_le point hpoint
  simp only [Draft.append, List.length_append, List.length_singleton]
  omega

/-- One more savepoint leaves a session sound, if no other one has its name. -/
theorem Sound.mark (h : draft.Sound) (hname : name ∉ draft.names) : (draft.mark name).Sound where
  names_nodup := List.nodup_cons.mpr ⟨hname, h.names_nodup⟩
  lengths := List.pairwise_cons.mpr ⟨h.length_le, h.lengths⟩
  length_le := by
    intro point hpoint
    rcases List.mem_cons.mp hpoint with rfl | hpoint
    · exact Nat.le_refl _
    · exact h.length_le point hpoint

/-- Releasing a savepoint leaves a session sound. -/
theorem Sound.release (h : draft.Sound) (name : String) : (draft.release name).Sound := by
  have hpoints : (draft.release name).savepoints.Sublist draft.savepoints :=
    (List.tail_sublist _).trans (draft.back_sublist name)
  exact h.of_sublist hpoints fun point hpoint => h.length_le point (hpoints.subset hpoint)

/-- Going back to a savepoint leaves a session sound: what it remembers is what is left. -/
theorem Sound.rollbackTo (h : draft.Sound) (name : String) : (draft.rollbackTo name).Sound := by
  have hpoints := draft.back_sublist name
  have hlengths := h.lengths.sublist hpoints
  refine h.of_sublist hpoints ?_
  intro point hpoint
  have hpoint' : point ∈ draft.back name := hpoint
  unfold Draft.rollbackTo
  rcases hback : draft.back name with _ | ⟨first, earlier⟩
  · rw [hback] at hpoint'
    cases hpoint'
  · rw [hback] at hlengths hpoint' hpoints
    have hfirst := h.length_le first (hpoints.subset List.mem_cons_self)
    simp only [List.head?_cons, Option.map_some, Option.getD_some, List.length_take]
    rcases List.mem_cons.mp hpoint' with rfl | hearlier
    · omega
    · have hle := (List.pairwise_cons.mp hlengths).1 point hearlier
      omega

/-- From a savepoint back, those before it are there in their order. -/
theorem Sound.back_eq (h : draft.Sound) {point : String × Nat} {points : List (String × Nat)}
    (hpoints : (point :: points).Sublist draft.savepoints) :
    ∃ earlier, draft.back point.1 = point :: earlier ∧ points.Sublist earlier := by
  obtain ⟨inner, work, savepoints⟩ := draft
  have hnodup : (savepoints.map (·.1)).Nodup := h.names_nodup
  unfold Draft.back
  dsimp only at hpoints ⊢
  clear h
  induction savepoints with
  | nil => cases hpoints
  | cons latest savepoints ih =>
    obtain ⟨hlatest, hnodup⟩ := List.nodup_cons.mp hnodup
    by_cases hsame : latest.1 = point.1
    · rw [List.dropWhile_cons_of_neg (by simpa using hsame)]
      rcases List.sublist_cons_iff.mp hpoints with hskip | ⟨points', heq, hrest⟩
      · -- otherwise its name would be there a second time
        refine absurd (List.mem_map.mpr ⟨point, ?_, hsame.symm⟩) hlatest
        exact hskip.subset List.mem_cons_self
      · obtain ⟨rfl, rfl⟩ := List.cons.inj heq
        exact ⟨savepoints, rfl, hrest⟩
    · rw [List.dropWhile_cons_of_pos (by simpa using hsame)]
      rcases List.sublist_cons_iff.mp hpoints with hskip | ⟨points', heq, hrest⟩
      · exact ih hskip hnodup
      · obtain ⟨rfl, rfl⟩ := List.cons.inj heq
        exact absurd rfl hsame

end Draft

/-! ### The ledger -/

/-- Something that cannot be taken back. -/
inductive Deed where
  /-- The work of a session became durable. -/
  | committed (session : SessionId) (work : List Write)
  /-- Listeners were told an event. -/
  | told (event : ChangeEvent)

/-- All sessions, and the history of what cannot be taken back. -/
structure Ledger where
  /-- The open sessions. -/
  drafts : SessionId → Option Draft := fun _ => none
  /-- How many sessions were begun. -/
  opened : Nat := 0
  /-- How many statements were carried out. -/
  written : Nat := 0
  history : List Deed := []

namespace Ledger

variable {ledger : Ledger} {session other : SessionId} {draft : Draft}

/-- With another draft of a session, or none any more. -/
def put (ledger : Ledger) (session : SessionId) (draft? : Option Draft) : Ledger :=
  { ledger with drafts := fun other => if other = session then draft? else ledger.drafts other }

/-- With one more session begun. -/
def opening (ledger : Ledger) (inner : SessionId) : Ledger :=
  { ledger.put ledger.opened (some { inner }) with opened := ledger.opened + 1 }

/-- After a call on an open session that succeeded. -/
def answered (ledger : Ledger) (session : SessionId) (draft : Draft) (outcome : StatementOutcome) :
    SessionCall → Ledger
  | .settings _ => ledger
  | .execute statement =>
    { ledger.put session (some (draft.append ⟨ledger.written, statement, outcome⟩)) with
      written := ledger.written + 1 }
  | .savepoint name => ledger.put session (some (draft.mark name))
  | .release name => ledger.put session (some (draft.release name))
  | .rollbackTo name => ledger.put session (some (draft.rollbackTo name))
  | .commit =>
    { ledger.put session none with history := ledger.history ++ [.committed session draft.work] }
  | .rollback => ledger.put session none

/-- After listeners were told an event. -/
def tell (ledger : Ledger) (event : ChangeEvent) : Ledger :=
  { ledger with history := ledger.history ++ [.told event] }

/-- A session has the draft that was put for it. -/
theorem drafts_put_self (ledger : Ledger) (session : SessionId) (draft? : Option Draft) :
    (ledger.put session draft?).drafts session = draft? :=
  if_pos rfl

/-- Every other session has the draft that it had. -/
theorem drafts_put_other (ledger : Ledger) (draft? : Option Draft) (h : other ≠ session) :
    (ledger.put session draft?).drafts other = ledger.drafts other :=
  if_neg h

/-- A call on a session is no business of the others. -/
theorem drafts_answered (ledger : Ledger) (draft : Draft) (outcome : StatementOutcome)
    (request : SessionCall) (h : other ≠ session) :
    (ledger.answered session draft outcome request).drafts other = ledger.drafts other := by
  cases request with
  | settings values => rfl
  | _ => exact drafts_put_other ledger _ h

/-- Open sessions are sound, and one that was committed is no longer open. -/
structure Sound (ledger : Ledger) : Prop where
  draft : ∀ session draft, ledger.drafts session = some draft →
    session < ledger.opened ∧ draft.Sound
  committed : ∀ session work, .committed session work ∈ ledger.history →
    session < ledger.opened ∧ ledger.drafts session = none

/-- The ledger in which nothing has happened is sound. -/
theorem Sound.empty : ({} : Ledger).Sound where
  draft _ _ h := by cases h
  committed _ _ h := by cases h

/-- The next session is not open yet. -/
theorem Sound.drafts_opened (h : ledger.Sound) : ledger.drafts ledger.opened = none := by
  rcases hdraft : ledger.drafts ledger.opened with _ | draft
  · rfl
  · exact absurd (h.draft _ _ hdraft).1 (Nat.lt_irrefl _)

/-- What happens in the next session is no business of those that are open. -/
theorem Sound.drafts_eq_some (h : ledger.Sound) {ledger' : Ledger}
    (hothers : ∀ other, other ≠ ledger.opened → ledger'.drafts other = ledger.drafts other)
    (hdraft : ledger.drafts session = some draft) : ledger'.drafts session = some draft := by
  rw [hothers session, hdraft]
  rintro rfl
  rw [h.drafts_opened] at hdraft
  cases hdraft

/-- Another draft of an open session, or none any more, leaves a ledger sound. -/
theorem Sound.put (h : ledger.Sound) {draft? : Option Draft}
    (hopen : ledger.drafts session = some draft)
    (hsound : ∀ draft', draft? = some draft' → draft'.Sound) :
    (ledger.put session draft?).Sound where
  draft := by
    intro other draft' hother
    by_cases hsame : other = session
    · subst hsame
      rw [drafts_put_self] at hother
      exact ⟨(h.draft _ _ hopen).1, hsound draft' hother⟩
    · rw [drafts_put_other ledger _ hsame] at hother
      exact h.draft other draft' hother
  committed := by
    intro other work hdeed
    obtain ⟨hlt, hclosed⟩ := h.committed other work hdeed
    have hne : other ≠ session := by
      rintro rfl
      rw [hopen] at hclosed
      cases hclosed
    rw [drafts_put_other ledger _ hne]
    exact ⟨hlt, hclosed⟩

/-- One more session leaves a ledger sound. -/
theorem Sound.opening (h : ledger.Sound) (inner : SessionId) : (ledger.opening inner).Sound where
  draft := by
    intro other draft' hother
    by_cases hsame : other = ledger.opened
    · subst hsame
      obtain rfl := Option.some.inj ((ledger.drafts_put_self _ _).symm.trans hother)
      exact ⟨Nat.lt_succ_self _, List.nodup_nil, .nil, by simp⟩
    · have hbefore := (ledger.drafts_put_other _ hsame).symm.trans hother
      obtain ⟨hlt, hsound⟩ := h.draft other draft' hbefore
      exact ⟨Nat.lt_succ_of_lt hlt, hsound⟩
  committed := by
    intro other work hdeed
    obtain ⟨hlt, hclosed⟩ := h.committed other work hdeed
    exact ⟨Nat.lt_succ_of_lt hlt, (ledger.drafts_put_other _ (Nat.ne_of_lt hlt)).trans hclosed⟩

/-- A commit, and events told after it, leave a ledger sound. -/
theorem Sound.commit (h : ledger.Sound) (hopen : ledger.drafts session = some draft)
    (events : List ChangeEvent) :
    ({ ledger.put session none with
      history := ledger.history ++ .committed session draft.work :: events.map .told } :
        Ledger).Sound where
  draft := (h.put hopen (by simp)).draft
  committed := by
    intro other work hdeed
    rcases List.mem_append.mp hdeed with hbefore | hnow
    · exact (h.put hopen (by simp)).committed other work hbefore
    · rcases List.mem_cons.mp hnow with hcommit | htold
      · obtain ⟨rfl, rfl⟩ := Deed.committed.inj hcommit
        exact ⟨(h.draft _ _ hopen).1, ledger.drafts_put_self _ _⟩
      · obtain ⟨event, -, hevent⟩ := List.mem_map.mp htold
        cases hevent

/-- A call that could be answered leaves a ledger sound. -/
theorem Sound.answered (h : ledger.Sound) (hopen : ledger.drafts session = some draft)
    {request : SessionCall} (hrefusal : draft.refusal? request = none)
    (outcome : StatementOutcome) : (ledger.answered session draft outcome request).Sound := by
  have hsound := (h.draft _ _ hopen).2
  have hput : ∀ draft', draft'.Sound → (ledger.put session (some draft')).Sound := by
    intro draft' hdraft'
    apply h.put hopen
    rintro _ ⟨⟩
    exact hdraft'
  cases request with
  | settings values => exact h
  | execute statement =>
    obtain ⟨hdrafts, hcommitted⟩ := hput _ (hsound.append ⟨ledger.written, statement, outcome⟩)
    exact ⟨hdrafts, hcommitted⟩
  | savepoint name =>
    apply hput _ (hsound.mark _)
    intro hmem
    simp [Draft.refusal?, hmem] at hrefusal
  | release name => exact hput _ (hsound.release name)
  | rollbackTo name => exact hput _ (hsound.rollbackTo name)
  | commit => exact h.commit hopen []
  | rollback => exact h.put hopen (by simp)

/-- From one ledger to the other something may have happened in the next session, and in no other
one. -/
structure Lone (ledger ledger' : Ledger) : Prop where
  others : ∀ other, other ≠ ledger.opened → ledger'.drafts other = ledger.drafts other
  sound : ledger.Sound → ledger'.Sound

section lone

variable {ledger' : Ledger}

/-- Beginning the next session is no business of the others. -/
theorem Lone.opening (ledger : Ledger) (inner : SessionId) : Lone ledger (ledger.opening inner) :=
  ⟨fun _ hne => ledger.drafts_put_other _ hne, fun h => h.opening inner⟩

/-- Nor is a call on it that could be answered. -/
theorem Lone.answered (h : Lone ledger ledger') (hopen : ledger'.drafts ledger.opened = some draft)
    {request : SessionCall} (hrefusal : draft.refusal? request = none)
    (outcome : StatementOutcome) :
    Lone ledger (ledger'.answered ledger.opened draft outcome request) where
  others other hne := by
    rw [ledger'.drafts_answered draft outcome request hne, h.others other hne]
  sound hsound := (h.sound hsound).answered hopen hrefusal outcome

/-- Nor is its end without a commit. -/
theorem Lone.close (h : Lone ledger ledger') (hopen : ledger'.drafts ledger.opened = some draft) :
    Lone ledger (ledger'.put ledger.opened none) where
  others other hne := by rw [ledger'.drafts_put_other _ hne, h.others other hne]
  sound hsound := (h.sound hsound).put hopen (by simp)

/-- Nor is its commit, with the events told after it. -/
theorem Lone.commit (h : Lone ledger ledger') (hopen : ledger'.drafts ledger.opened = some draft)
    (events : List ChangeEvent) :
    Lone ledger { ledger'.put ledger.opened none with
      history := ledger'.history ++ .committed ledger.opened draft.work :: events.map .told } where
  others := (h.close hopen).others
  sound hsound := (h.sound hsound).commit hopen events

end lone

end Ledger

/-! ### Platforms with a ledger -/

variable {σ : Type}

/-- The platform with a ledger beside it. -/
def Platform.withLedger (platform : Platform σ) : Platform (σ × Ledger) where
  store := platform.store.lift fun m world =>
    let (a, inner) := m world.1
    (a, (inner, world.2))
  sessions := {
    begin := fun world =>
      match platform.sessions.begin world.1 with
      | (.ok session, inner) => (.ok world.2.opened, (inner, world.2.opening session))
      | (.error e, inner) => (.error e, (inner, world.2))
    call := fun session request world =>
      match world.2.drafts session with
      | none => (.error (.database "no such session"), world)
      | some draft =>
        match draft.refusal? request with
        | some e => (.error e, world)
        | none =>
          match platform.sessions.call draft.inner request world.1 with
          | (.ok outcome, inner) =>
            (.ok outcome, (inner, world.2.answered session draft outcome request))
          | (.error e, inner) => (.error e, (inner, world.2))
    abandon := fun session world =>
      match world.2.drafts session with
      | none => ((), world)
      | some draft =>
        let (a, inner) := platform.sessions.abandon draft.inner world.1
        (a, (inner, world.2.put session none)) }
  audit entry world := (platform.audit entry world.1, world.2)
  emit event world := (platform.emit event world.1, world.2.tell event)

/-- The surroundings and the ledger stay as they are. -/
structure SameLedger (s t : AccessState (σ × Ledger)) : Prop where
  around : t.around = s.around
  ledger : t.world.2 = s.world.2

variable {platform : Platform σ} {s t u : AccessState (σ × Ledger)} {session : SessionId}
  {request : SessionCall}

/-- Two steps that leave the ledger as it is leave it together. -/
theorem SameLedger.trans (h : SameLedger s t) (h' : SameLedger t u) : SameLedger s u :=
  ⟨h'.around.trans h.around, h'.ledger.trans h.ledger⟩

/-- Finding out which sites are visible leaves the ledger as it is. -/
theorem ReadsSites.sameLedger (h : ReadsSites platform.withLedger s t) : SameLedger s t :=
  ⟨h.around, h.unchanged (·.2) fun _ _ _ => rfl⟩

/-- What a call does to the ledger: nothing when it fails; otherwise it was on an open session that
could answer it. -/
theorem withLedger_call (platform : Platform σ) (session : SessionId) (request : SessionCall)
    (world : σ × Ledger) :
    match platform.withLedger.sessions.call session request world with
    | (.error _, world') => world'.2 = world.2
    | (.ok outcome, world') =>
      ∃ draft, world.2.drafts session = some draft ∧ draft.refusal? request = none ∧
        world'.2 = world.2.answered session draft outcome request := by
  unfold Platform.withLedger
  dsimp only
  rcases hdraft : world.2.drafts session with _ | draft
  · rfl
  · dsimp only
    rcases hrefusal : draft.refusal? request with _ | refusal
    · dsimp only
      rcases platform.sessions.call draft.inner request world.1 with ⟨e | outcome, inner⟩
      · rfl
      · exact ⟨draft, rfl, hrefusal, rfl⟩
    · rfl

/-- A call that fails changes nothing in the ledger. -/
theorem call_error {e : DataAccessError}
    (h : Transaction.call platform.withLedger session request s = (.error e, t)) :
    SameLedger s t := by
  have hledger := withLedger_call platform session request s.world
  rw [call_apply] at h
  rcases hcall : platform.withLedger.sessions.call session request s.world with
    ⟨e' | outcome, world'⟩
  · rw [hcall] at h hledger
    obtain ⟨-, rfl⟩ := Prod.mk.inj h
    exact ⟨rfl, hledger⟩
  · rw [hcall] at h
    cases h

/-- A call that succeeds was on an open session that could answer it, and does to the ledger what
such a call does. -/
theorem call_ok {outcome : StatementOutcome}
    (h : Transaction.call platform.withLedger session request s = (.ok outcome, t)) :
    t.around = s.around ∧ ∃ draft, s.world.2.drafts session = some draft ∧
      draft.refusal? request = none ∧
      t.world.2 = s.world.2.answered session draft outcome request := by
  have hledger := withLedger_call platform session request s.world
  rw [call_apply] at h
  rcases hcall : platform.withLedger.sessions.call session request s.world with
    ⟨e | outcome', world'⟩
  · rw [hcall] at h
    cases h
  · rw [hcall] at h hledger
    obtain ⟨hresult, rfl⟩ := Prod.mk.inj h
    obtain rfl := Except.ok.inj hresult
    exact ⟨rfl, hledger⟩

end TenantAccess
