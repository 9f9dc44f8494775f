import TenantAccess.Proofs.Scopes.Undoing

/-!
# Nested scopes that could not be opened

A nested scope may fail to open at its savepoint, or afterwards at the policy that is to be put in
force.  No pending event is lost or added either way; but a savepoint that was made stays open, and
nobody is left to release it or to go back to it.  What comes later does not depend on it.

* `openNested_failed`: what is left of a nested scope that could not be opened.
* `SameApart`: code came to the same, apart from savepoints.
* `failed_scopes_harmless`: what is left, and that it makes no difference to what comes later.
* `savepoint_left_open`: a savepoint that is left open.
-/

namespace TenantAccess

variable {σ : Type} {platform : Platform σ}

/-! ### What is left -/

/-- The savepoints that are open in a session, the innermost first. -/
def Ledger.openSavepoints (ledger : Ledger) (session : SessionId) : List (String × Nat) :=
  ((ledger.drafts session).map (·.savepoints)).getD []

/-- A nested scope got its savepoint, whatever came of it then. -/
def Transaction.getsSavepoint (platform : Platform σ) (tx : Transaction) (s : AccessState σ) :
    Bool :=
  (Transaction.call platform tx.session (.savepoint tx.nextName) s).1.isOk

section left

variable {tx tx' : Transaction} {s t : AccessState (σ × Ledger)} {draft : Draft}
  {e : DataAccessError}

/-- The open savepoints of a session are those of the draft that was put there. -/
theorem Ledger.openSavepoints_put (ledger : Ledger) (session : SessionId) (draft : Draft) :
    (ledger.put session (some draft)).openSavepoints session = draft.savepoints := by
  unfold openSavepoints
  rw [drafts_put_self]
  rfl

/-- Of a nested scope that could not be opened its number is left, which is used up, and its
savepoint if it got that far. -/
theorem openNested_failed (hdraft : s.world.2.drafts tx.session = some draft)
    (hfailed : Transaction.openNested platform.withLedger tx s = ((.error e, tx'), t)) :
    tx' = tx.counted ∧
      t.world.2 = if tx.getsSavepoint platform.withLedger s then
        s.world.2.put tx.session (some (draft.mark tx.nextName))
      else s.world.2 := by
  unfold Transaction.getsSavepoint
  rcases hcall : Transaction.call platform.withLedger tx.session (.savepoint tx.nextName) s with
    ⟨e' | outcome, u⟩
  · rw [openNested_of_error hcall] at hfailed
    obtain ⟨hresult, rfl⟩ := Prod.mk.inj hfailed
    exact ⟨(Prod.mk.inj hresult).2.symm, (call_error hcall).ledger⟩
  · rw [openNested_of_ok hcall] at hfailed
    obtain ⟨hresult, rfl⟩ := Prod.mk.inj hfailed
    refine ⟨(Prod.mk.inj hresult).2.symm, ?_⟩
    obtain ⟨-, draft', hdraft', -, hledger⟩ := call_ok hcall
    obtain rfl := Option.some.inj (hdraft.symm.trans hdraft')
    exact (applyPolicy_ledger platform tx.session u).ledger.trans hledger

end left

/-! ### What comes later -/

/-- Code came to the same, apart from savepoints: to the same platform and the same ledger, with the
same events pending in every open transaction, and nested scopes at the same places among them. -/
structure SameApart (left right : Course (σ × Ledger) × AccessState (σ × Ledger)) : Prop where
  platform : left.2.world.1 = right.2.world.1
  ledger : left.2.world.2.bare = right.2.world.2.bare
  pending : ∀ number, (left.1.open? number).map (·.transaction.pending) =
    (right.1.open? number).map (·.transaction.pending)
  scopes : ∀ number, (left.1.open? number).map (·.scopes.map (·.mark)) =
    (right.1.open? number).map (·.scopes.map (·.mark))

/-- Optional values that are related agree in whatever related values agree in. -/
theorem map_eq_of_rel {α β γ : Type} {R : α → β → Prop} {f : α → γ} {g : β → γ} {a? : Option α}
    {b? : Option β} (h : Option.Rel R a? b?) (hsame : ∀ a b, R a b → f a = g b) :
    a?.map f = b?.map g := by
  cases h with
  | none => rfl
  | some h => exact congrArg some (hsame _ _ h)

/-- Points at which open transactions stand for each other are the same, apart from savepoints. -/
theorem Twins.sameApart {room : Nat → Nat} {course course' : Course (σ × Ledger)}
    {s t : AccessState (σ × Ledger)} (h : Twins platform room course course' s t) :
    SameApart (course, s) (course', t) where
  platform := h.along.world.1
  ledger := h.along.world.2
  pending number := map_eq_of_rel (h.twin number) fun _ _ htwin => htwin.pending
  scopes number := map_eq_of_rel (h.twin number) fun _ _ htwin => htwin.marks

/-- Before anything was called there is nothing that could differ. -/
theorem Twins.beginning (platform : Platform σ) (s : AccessState σ) {room : Nat → Nat}
    (hfew : ∀ number, room number < 2 ^ 32) :
    Twins platform room {} {} s.withLedger s.withLedger := by
  have hsettled : Settled ({} : Course (σ × Ledger)) s.withLedger := ⟨rfl, .beginning s⟩
  refine ⟨⟨⟨rfl, rfl⟩, rfl, rfl, rfl⟩, rfl, hfew, ?_, hsettled, hsettled⟩
  intro number
  have hopen : ({} : Course (σ × Ledger)).open? number = none := by simp [Course.open?]
  rw [hopen]
  exact .none

/-- Whatever fails at a nested scope, its number is used up and nothing else about the transaction
changes: no event that is pending, nothing that was carried out, and no savepoint other than its
own; that one is left open exactly if it was made.  Nothing comes of that where sessions answer
without regard to the names of savepoints and no transaction runs out of numbers: code is told the
same and comes to the same as if every nested scope that could not be opened were undone. -/
theorem failed_scopes_harmless (platform : Platform σ) :
    (∀ tx tx' e draft, ∀ s t : AccessState (σ × Ledger),
      s.world.2.drafts tx.session = some draft →
      Transaction.openNested platform.withLedger tx s = ((.error e, tx'), t) →
        tx' = tx.counted ∧
        (t.world.2 = if tx.getsSavepoint platform.withLedger s then
            s.world.2.put tx.session (some (draft.mark tx.nextName))
          else s.world.2) ∧
        (t.world.2.openSavepoints tx.session = s.world.2.openSavepoints tx.session ↔
          tx.getsSavepoint platform.withLedger s = false)) ∧
    (platform.Nameless → ∀ (code : Code) (s : AccessState σ),
      (∀ number, Code.opened number (code.carried platform {} s.withLedger).1 < 2 ^ 32) →
        let undone := code.undone platform {} s.withLedger
        code.told platform.withLedger {} s.withLedger = undone.1.map (·.2) ∧
          SameApart (code.run platform.withLedger {} s.withLedger) undone.2) := by
  constructor
  · intro tx tx' e draft s t hdraft hfailed
    obtain ⟨htransaction, hledger⟩ := openNested_failed hdraft hfailed
    refine ⟨htransaction, hledger, ?_⟩
    have hopen : s.world.2.openSavepoints tx.session = draft.savepoints := by
      unfold Ledger.openSavepoints
      rw [hdraft]
      rfl
    rcases hgets : tx.getsSavepoint platform.withLedger s with _ | _
    · rw [hgets] at hledger
      simp [hledger]
    · rw [hgets, if_pos rfl] at hledger
      rw [hledger, Ledger.openSavepoints_put, hopen]
      -- there is one savepoint more than before
      refine iff_of_false (fun hsame => ?_) nofun
      have hlength := congrArg List.length hsame
      simp [Draft.mark] at hlength
  · intro hnameless code s hfew
    have hroom : ∀ number, 0 + Code.opened number (code.carried platform {} s.withLedger).1 ≤
        Code.opened number (code.carried platform {} s.withLedger).1 :=
      fun number => (Nat.zero_add _).le
    obtain ⟨hentries, htwins⟩ := code.carried_twins hnameless (.beginning platform s hfew) hroom
    obtain ⟨htold, hrun⟩ := code.carryOut_perform platform.withLedger {} s.withLedger
    refine ⟨?_, ?_⟩
    · rw [← htold, ← hentries]
      rfl
    · rw [← hrun]
      exact htwins.sameApart

/-- A transaction is begun outside of any frame, where a nested scope has no policy; a statement in
a bypass follows it. -/
def repairing : Code :=
  .call .begin fun _ => .call (.openNested 0) fun _ =>
    .framed (.bypass "repair") (.call (.execute 0 (.plain .execute "repair" [])) fun _ => .done)
      (.call (.commit 0) fun _ => .done)

/-- The nested scope that could not be opened makes no difference to the statement after it. -/
theorem failed_scopes_harmless_repair :
    let platform := World.inMemory.unnamed
    let s : AccessState World := { world := { listener := default } }
    let undone := repairing.undone platform {} s.withLedger
    repairing.told platform.withLedger {} s.withLedger =
        [some (.ok {}), some (.error .policyInputsRequired), some (.ok { rowsAffected := 1 }),
          some (.ok {})] ∧
      repairing.told platform.withLedger {} s.withLedger = undone.1.map (·.2) ∧
      SameApart (repairing.run platform.withLedger {} s.withLedger) undone.2 := by
  intro platform s undone
  have hcount : (repairing.carried platform {} s.withLedger).1.length = 4 := rfl
  have hfew : ∀ number,
      Code.opened number (repairing.carried platform {} s.withLedger).1 < 2 ^ 32 := by
    intro number
    have hle : Code.opened number (repairing.carried platform {} s.withLedger).1 ≤ 4 :=
      hcount ▸ List.countP_le_length
    exact hle.trans_lt (by decide)
  refine ⟨rfl, ?_⟩
  exact (failed_scopes_harmless platform).2 World.inMemory.unnamed_nameless repairing s hfew

/-- The savepoint of the nested scope that could not be opened is still open afterwards. -/
theorem savepoint_left_open :
    let s : AccessState World := { world := { listener := default } }
    let begun := Transaction.begin World.inMemory.withLedger s.withLedger
    let failed := Transaction.openNested World.inMemory.withLedger { session := 0 } begun.2
    begun.1 = .ok { session := 0 } ∧ failed.1.1 = .error .policyInputsRequired ∧
      World.sessionLog.events failed.2.world.1 1 =
        [.begun, .called (.savepoint "inspectra_sp_1")] ∧
      begun.2.world.2.openSavepoints 0 = [] ∧
      failed.2.world.2.openSavepoints 0 = [("inspectra_sp_1", 0)] := by
  intro s begun failed
  exact ⟨rfl, rfl, rfl, rfl, rfl⟩

end TenantAccess
