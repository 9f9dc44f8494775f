import TenantAccess.Proofs.Events.Published
import TenantAccess.Proofs.Sessions.TandemCode

/-!
# Sessions without the names of savepoints

What the access layer does depends on the savepoints of a session only through the nested scopes
that stand on them.  Here a platform is compared with itself where its ledger has other savepoints:
as long as none of them is named in a call, the two are in tandem.

* `savepointName_injective`: nested scopes with different numbers have different savepoints.
* `Platform.unnamed`: the platform whose sessions are not told which savepoint a call is about.
* `Ledger.bare`: a ledger without the savepoints.
* `Platform.bareTandem`: ledgers that are the same without the savepoints, in tandem.
-/

namespace TenantAccess

variable {σ : Type}

/-! ### Numbers of nested scopes -/

/-- Different numbers make different names. -/
theorem savepointName_injective : Function.Injective Transaction.savepointName := by
  intro number number' h
  have htext := (String.append_right_inj _).mp h
  exact UInt32.toNat_inj.mp (Nat.repr_injective htext)

variable {count number : UInt32}

/-- As long as there is a next number, it is one more. -/
theorem toNat_next (h : count.toNat + 1 < 2 ^ 32) : (count + 1).toNat = count.toNat + 1 := by
  rw [UInt32.toNat_add, UInt32.toNat_one, Nat.mod_eq_of_lt h]

/-- The name with the next number is new, as long as there is a next number. -/
theorem savepointName_next (h : count.toNat + 1 < 2 ^ 32)
    (hle : number ≤ count) :
    Transaction.savepointName (count + 1) ≠ Transaction.savepointName number := by
  intro hname
  have hnumber := congrArg UInt32.toNat (savepointName_injective hname)
  have hle' := UInt32.le_iff_toNat_le.mp hle
  rw [toNat_next h] at hnumber
  omega

/-! ### Calls without names -/

namespace SessionCall

/-- The call without the name of a savepoint. -/
def unnamed : SessionCall → SessionCall
  | savepoint _ => .savepoint (Transaction.savepointName 0)
  | release _ => .release (Transaction.savepointName 0)
  | rollbackTo _ => .rollbackTo (Transaction.savepointName 0)
  | request => request

/-- The call names a savepoint. -/
def isNamed : SessionCall → Bool
  | savepoint _ | release _ | rollbackTo _ => true
  | _ => false

end SessionCall

/-- The platform whose sessions are not told which savepoint a call is about. -/
def Platform.unnamed (platform : Platform σ) : Platform σ :=
  { platform with sessions := { platform.sessions with
      call := fun session request => platform.sessions.call session request.unnamed } }

/-- The platform whose sessions have no savepoints. -/
def Platform.withoutSavepoints (platform : Platform σ) : Platform σ :=
  { platform with sessions := { platform.sessions with
      call := fun session request =>
        if request.isNamed then pure (.error (.unsupported "savepoints"))
        else platform.sessions.call session request } }

/-! ### Ledgers without savepoints -/

/-- The draft without its savepoints. -/
def Draft.bare (draft : Draft) : Draft := { draft with savepoints := [] }

/-- The drafts are the same without their savepoints: they are of the same session of the platform,
and the same was carried out in it. -/
theorem Draft.bare_eq_iff {draft draft' : Draft} :
    draft.bare = draft'.bare ↔ draft.inner = draft'.inner ∧ draft.work = draft'.work := by
  simp [bare]

namespace Ledger

variable {ledger ledger' : Ledger} {session : SessionId} {draft draft' : Draft}

/-- The ledger without the savepoints of its drafts. -/
def bare (ledger : Ledger) : Ledger :=
  { ledger with drafts := fun session => (ledger.drafts session).map Draft.bare }

/-- Without savepoints, putting a draft is putting the draft without its savepoints. -/
theorem bare_put (ledger : Ledger) (session : SessionId) (draft? : Option Draft) :
    (ledger.put session draft?).bare = ledger.bare.put session (draft?.map Draft.bare) := by
  unfold bare put
  simp only [mk.injEq, and_true]
  funext other
  split <;> rfl

/-- Another draft that is the same without savepoints makes no difference. -/
theorem bare_put_of_bare_eq (hdraft : ledger.drafts session = some draft)
    (h : draft'.bare = draft.bare) : (ledger.put session (some draft')).bare = ledger.bare := by
  rw [bare_put]
  unfold bare put
  simp only [mk.injEq, and_true]
  funext other
  split
  · rename_i hother
    rw [hother, hdraft, Option.map_some, Option.map_some, h]
  · rfl

/-- Drafts that are the same without savepoints make no difference to ledgers that are. -/
theorem bare_put_alike (h : ledger.bare = ledger'.bare) (session : SessionId)
    (hdraft : draft.bare = draft'.bare) :
    (ledger.put session (some draft)).bare = (ledger'.put session (some draft')).bare := by
  rw [bare_put, bare_put, Option.map_some, Option.map_some, h, hdraft]

/-- Making and releasing savepoints makes no difference without them. -/
theorem bare_savepoint (hdraft : ledger.drafts session = some draft) (outcome : StatementOutcome)
    (name : String) :
    (ledger.answered session draft outcome (.savepoint name)).bare = ledger.bare :=
  bare_put_of_bare_eq hdraft rfl

/-- Without savepoints, releasing one changes nothing. -/
theorem bare_release (hdraft : ledger.drafts session = some draft) (outcome : StatementOutcome)
    (name : String) :
    (ledger.answered session draft outcome (.release name)).bare = ledger.bare :=
  bare_put_of_bare_eq hdraft rfl

/-- Without savepoints, one more session is begun just as with them. -/
theorem bare_opening (ledger : Ledger) (inner : SessionId) :
    (ledger.opening inner).bare = ledger.bare.opening inner :=
  congrArg (fun put : Ledger => { put with opened := ledger.opened + 1 })
    (ledger.bare_put ledger.opened (some { inner }))

/-- A call that names no savepoint does the same without savepoints. -/
theorem bare_answered (ledger : Ledger) (session : SessionId) (draft : Draft)
    (outcome : StatementOutcome) {request : SessionCall} (h : request.isNamed = false) :
    (ledger.answered session draft outcome request).bare =
      ledger.bare.answered session draft.bare outcome request := by
  cases request with
  | settings values => rfl
  | execute statement =>
    exact congrArg (fun put : Ledger => { put with written := ledger.written + 1 })
      (ledger.bare_put session (some (draft.append ⟨ledger.written, statement, outcome⟩)))
  | commit =>
    exact congrArg
      (fun put : Ledger =>
        { put with history := ledger.history ++ [Deed.committed session draft.work] })
      (ledger.bare_put session none)
  | rollback => exact ledger.bare_put session none
  | _ => cases h

end Ledger

/-! ### Ledgers that are the same without savepoints -/

/-- The worlds are the same, but for the savepoints in their ledgers. -/
def SameBare (world world' : σ × Ledger) : Prop :=
  world.1 = world'.1 ∧ world.2.bare = world'.2.bare

/-- A session is open on neither side, or with drafts that are the same without savepoints. -/
theorem Ledger.drafts_of_bare_eq {ledger ledger' : Ledger} (h : ledger.bare = ledger'.bare)
    (session : SessionId) :
    (ledger.drafts session = none ∧ ledger'.drafts session = none) ∨
      ∃ draft draft', ledger.drafts session = some draft ∧ ledger'.drafts session = some draft' ∧
        draft.bare = draft'.bare := by
  have hdrafts : (ledger.drafts session).map Draft.bare = (ledger'.drafts session).map Draft.bare :=
    congrFun (congrArg Ledger.drafts h) session
  rcases hdraft : ledger.drafts session with _ | draft <;>
    rcases hdraft' : ledger'.drafts session with _ | draft' <;> rw [hdraft, hdraft'] at hdrafts
  · exact .inl ⟨rfl, rfl⟩
  · cases hdrafts
  · cases hdrafts
  · exact .inr ⟨draft, draft', rfl, rfl, Option.some.inj hdrafts⟩

namespace SameBare

variable (platform : Platform σ) (inner : σ) {ledger ledger' : Ledger} (session : SessionId)

/-- A call that names no savepoint has the same answer on both sides. -/
theorem call (h : ledger.bare = ledger'.bare) {request : SessionCall}
    (hnamed : request.isNamed = false) :
    (platform.withLedger.sessions.call session request (inner, ledger)).1 =
        (platform.withLedger.sessions.call session request (inner, ledger')).1 ∧
      SameBare (platform.withLedger.sessions.call session request (inner, ledger)).2
        (platform.withLedger.sessions.call session request (inner, ledger')).2 := by
  have hrefusal : ∀ draft : Draft, draft.refusal? request = none := by
    intro draft
    cases request <;> first | rfl | cases hnamed
  unfold Platform.withLedger
  dsimp only
  rcases Ledger.drafts_of_bare_eq h session with
    ⟨hnone, hnone'⟩ | ⟨draft, draft', hdraft, hdraft', hsame⟩
  · rw [hnone, hnone']
    exact ⟨rfl, rfl, h⟩
  · have hinner : draft.inner = draft'.inner := (Draft.bare_eq_iff.mp hsame).1
    rw [hdraft, hdraft']
    dsimp only
    rw [hrefusal draft, hrefusal draft', hinner]
    dsimp only
    rcases platform.sessions.call draft'.inner request inner with ⟨e | outcome, after⟩
    · exact ⟨rfl, rfl, h⟩
    · refine ⟨rfl, rfl, ?_⟩
      dsimp only
      rw [Ledger.bare_answered _ _ _ _ hnamed, Ledger.bare_answered _ _ _ _ hnamed, h, hsame]

/-- A session is begun, or not, whichever savepoints the ledger has. -/
theorem begin (h : ledger.bare = ledger'.bare) :
    (platform.withLedger.sessions.begin (inner, ledger)).1 =
        (platform.withLedger.sessions.begin (inner, ledger')).1 ∧
      SameBare (platform.withLedger.sessions.begin (inner, ledger)).2
        (platform.withLedger.sessions.begin (inner, ledger')).2 := by
  have hopened : ledger.bare.opened = ledger'.bare.opened := congrArg Ledger.opened h
  unfold Platform.withLedger
  dsimp only
  rcases platform.sessions.begin inner with ⟨e | session, after⟩
  · exact ⟨rfl, rfl, h⟩
  · refine ⟨congrArg Except.ok hopened, rfl, ?_⟩
    dsimp only
    rw [Ledger.bare_opening, Ledger.bare_opening, h]

/-- A session is let go of whichever savepoints the ledger has. -/
theorem abandon (h : ledger.bare = ledger'.bare) :
    SameBare (platform.withLedger.sessions.abandon session (inner, ledger)).2
      (platform.withLedger.sessions.abandon session (inner, ledger')).2 := by
  unfold Platform.withLedger
  dsimp only
  rcases Ledger.drafts_of_bare_eq h session with
    ⟨hnone, hnone'⟩ | ⟨draft, draft', hdraft, hdraft', hsame⟩
  · rw [hnone, hnone']
    exact ⟨rfl, h⟩
  · have hinner : draft.inner = draft'.inner := (Draft.bare_eq_iff.mp hsame).1
    rw [hdraft, hdraft']
    dsimp only
    rw [hinner]
    refine ⟨rfl, ?_⟩
    show (ledger.put session none).bare = (ledger'.put session none).bare
    rw [Ledger.bare_put, Ledger.bare_put, h]

end SameBare

/-! ### The platforms in tandem -/

namespace Platform

/-- Calls that name no savepoint are answered as they were. -/
theorem withoutSavepoints_call (platform : Platform σ) (session : SessionId)
    {request : SessionCall} (h : request.isNamed = false) :
    platform.withoutSavepoints.sessions.call session request =
      platform.sessions.call session request := by
  simp [withoutSavepoints, h]

/-- Calls that name a savepoint are answered with an error that says so. -/
theorem withoutSavepoints_named (platform : Platform σ) (session : SessionId)
    {request : SessionCall} (h : request.isNamed = true) :
    platform.withoutSavepoints.sessions.call session request =
      pure (.error (.unsupported "savepoints")) := by
  simp [withoutSavepoints, h]

/-- Platforms with ledgers that are the same without savepoints are in tandem, as far as nothing is
asked about savepoints. -/
def bareTandem (platform : Platform σ) :
    Tandem platform.withLedger.withoutSavepoints platform.withLedger.withoutSavepoints Eq where
  Agree := SameBare
  Expected _ := True
  sitesFor client around := by
    refine ⟨fun _ h => h, ?_⟩
    rintro ⟨inner, ledger⟩ ⟨_, ledger'⟩ ⟨rfl, hbare⟩ -
    exact ⟨.refl Eq.refl _, rfl, hbare⟩
  audit := by
    rintro entry ⟨inner, ledger⟩ ⟨_, ledger'⟩ ⟨rfl, hbare⟩
    exact ⟨rfl, hbare⟩
  emit := by
    rintro event ⟨inner, ledger⟩ ⟨_, ledger'⟩ ⟨rfl, hbare⟩
    exact ⟨rfl, congrArg (Ledger.tell · event) hbare⟩
  begin := by
    refine ⟨fun _ h => h, ?_⟩
    rintro ⟨inner, ledger⟩ ⟨_, ledger'⟩ ⟨rfl, hbare⟩ -
    obtain ⟨hanswer, hafter⟩ := SameBare.begin platform inner hbare
    show OutcomesAlike Eq (platform.withLedger.sessions.begin (inner, ledger)).1
      (platform.withLedger.sessions.begin (inner, ledger')).1 ∧ _
    rw [hanswer]
    exact ⟨.refl Eq.refl _, hafter⟩
  call session request _ := by
    refine ⟨fun _ h => h, ?_⟩
    rintro ⟨inner, ledger⟩ ⟨_, ledger'⟩ ⟨rfl, hbare⟩ -
    rcases hnamed : request.isNamed with _ | _
    · obtain ⟨hanswer, hafter⟩ :=
        SameBare.call platform inner session hbare hnamed
      rw [withoutSavepoints_call _ session hnamed]
      dsimp only
      rw [hanswer]
      exact ⟨.refl Eq.refl _, hafter⟩
    · rw [withoutSavepoints_named _ session hnamed]
      exact ⟨.refl Eq.refl _, rfl, hbare⟩
  sitesFor_back _ _ _ := id
  audit_back _ _ := id
  emit_back _ _ := id
  call_back _ _ _ := id
  abandon_back _ _ := id

end Platform
end TenantAccess
