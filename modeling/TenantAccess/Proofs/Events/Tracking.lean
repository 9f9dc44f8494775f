import TenantAccess.Proofs.Events.Operations

/-!
# Pending events and the work in the ledger

An open transaction keeps the events of what was done in it in a list, which it cuts back when a
nested scope is rolled back; the ledger has the work itself in a draft, which it cuts back to a
savepoint.  The two stay in step.

* `Attempt.event?`, `Wrote`: the event of a statement that was tried, and what it is in the ledger.
* `Tracks`: what an open transaction has pending are the events of what is in its draft, and each of
  its nested scopes marks where its savepoint is.  Each operation preserves that (`Tracks.append`,
  `Tracks.mark`, `Tracks.release`, `Tracks.rollbackTo`).
* `Published`: a history in which events are told of the work that was committed.
-/

namespace TenantAccess

variable {σ : Type} {platform : Platform σ}

/-! ### Histories -/

/-- The event of a statement that was tried: of one that failed there is none. -/
def Attempt.event? (attempt : Attempt σ) : Option ChangeEvent :=
  match attempt.result with
  | .ok outcome => Layer.event? attempt.layers attempt.statement outcome
  | .error _ => none

/-- The attempt brought about what the ledger has as carried out in the session. -/
structure Wrote (session : SessionId) (attempt : Attempt (σ × Ledger)) (write : Write) : Prop where
  session_eq : attempt.session = session
  number : attempt.before.world.2.written = write.number
  statement : EqualUpToOwner attempt.statement write.statement
  result : attempt.result = .ok write.outcome

/-- The work of sessions became durable, of each at most once, and right after that the events of the
attempts that had brought it about were told, in their order; nothing else was told. -/
inductive Published (attempts : List (Attempt (σ × Ledger))) : List Deed → Prop where
  | nothing : Published attempts []
  | commit {history : List Deed} {session : SessionId} {work : List Write}
    {kept : List (Attempt (σ × Ledger))} (h : Published attempts history)
    (hfirst : ∀ before, .committed session before ∉ history)
    (hkept : kept.Sublist attempts) (hwrote : List.Forall₂ (Wrote session) kept work) :
    Published attempts
      (history ++ .committed session work :: (kept.filterMap Attempt.event?).map .told)

/-- A history stays right when more is tried. -/
theorem Published.mono {attempts attempts' : List (Attempt (σ × Ledger))} {history : List Deed}
    (h : Published attempts history) (hgrown : attempts.Sublist attempts') :
    Published attempts' history := by
  induction h with
  | nothing => exact .nothing
  | commit _ hfirst hkept hwrote ih => exact .commit ih hfirst (hkept.trans hgrown) hwrote

/-! ### An open transaction and its draft -/

/-- The nested scope is that of the savepoint, and marks the events of what had been kept at it. -/
structure NestedScope.Marks (kept : List (Attempt (σ × Ledger))) (scope : NestedScope)
    (point : String × Nat) : Prop where
  name : scope.name = point.1
  mark : scope.mark = ((kept.take point.2).filterMap Attempt.event?).length

/-- Scopes still mark their savepoints when what had been kept at these is the same. -/
theorem NestedScope.Marks.congr {kept kept' : List (Attempt (σ × Ledger))}
    {scopes : List NestedScope} {points : List (String × Nat)}
    (h : List.Forall₂ (Marks kept) scopes points)
    (hsame : ∀ point ∈ points, kept'.take point.2 = kept.take point.2) :
    List.Forall₂ (Marks kept') scopes points := by
  induction h with
  | nil => exact .nil
  | cons hmarks _ ih =>
    obtain ⟨hfirst, hrest⟩ := List.forall_mem_cons.mp hsame
    refine .cons ⟨hmarks.name, ?_⟩ (ih hrest)
    rw [hmarks.mark, hfirst]

/-- Of the attempts, the kept ones brought about the work of the draft. Their events are pending, and
the nested scopes that are still used have savepoints in the draft. -/
structure Tracks (attempts : List (Attempt (σ × Ledger))) (draft : Draft) (opened : OpenTransaction)
    (kept : List (Attempt (σ × Ledger))) (points : List (String × Nat)) : Prop where
  kept_sublist : kept.Sublist attempts
  wrote : List.Forall₂ (Wrote opened.transaction.session) kept draft.work
  pending : opened.transaction.pending = kept.filterMap Attempt.event?
  points_sublist : points.Sublist draft.savepoints
  scopes : List.Forall₂ (NestedScope.Marks kept) opened.scopes points

/-- The open transaction with another list of pending events. -/
def OpenTransaction.withPending (opened : OpenTransaction) (pending : List ChangeEvent) :
    OpenTransaction :=
  { opened with transaction := { opened.transaction with pending } }

namespace Tracks

variable {attempts attempts' kept : List (Attempt (σ × Ledger))} {draft : Draft}
  {opened opened' : OpenTransaction} {points : List (String × Nat)} {scope : NestedScope}
  {scopes : List NestedScope}

/-- A transaction still tracks its draft when more is tried. -/
theorem mono (h : Tracks attempts draft opened kept points) (hgrown : attempts.Sublist attempts') :
    Tracks attempts' draft opened kept points :=
  { h with kept_sublist := h.kept_sublist.trans hgrown }

/-- What counts of a transaction are its session, what is pending and the scopes. -/
theorem congr (h : Tracks attempts draft opened kept points)
    (hsession : opened'.transaction.session = opened.transaction.session)
    (hpending : opened'.transaction.pending = opened.transaction.pending)
    (hscopes : opened'.scopes = opened.scopes) : Tracks attempts draft opened' kept points where
  kept_sublist := h.kept_sublist
  wrote := by
    rw [hsession]
    exact h.wrote
  pending := by rw [hpending, h.pending]
  points_sublist := h.points_sublist
  scopes := by
    rw [hscopes]
    exact h.scopes

/-- A statement that was carried out is kept, and its event is pending. -/
theorem append (h : Tracks attempts draft opened kept points) (hsound : draft.Sound)
    {attempt : Attempt (σ × Ledger)} {write : Write}
    (hwrote : Wrote opened.transaction.session attempt write) :
    Tracks (attempts ++ [attempt]) (draft.append write)
      (opened.withPending (opened.transaction.pending ++ attempt.event?.toList))
      (kept ++ [attempt]) points where
  kept_sublist := h.kept_sublist.append (.refl _)
  wrote := List.rel_append h.wrote (.cons hwrote .nil)
  pending := by
    show opened.transaction.pending ++ attempt.event?.toList = _
    rw [List.filterMap_append, h.pending]
    rcases hevent : attempt.event? with _ | event <;> simp [hevent]
  points_sublist := h.points_sublist
  scopes := by
    apply NestedScope.Marks.congr h.scopes
    intro point hpoint
    have hle := hsound.length_le point (h.points_sublist.subset hpoint)
    rw [← h.wrote.length_eq] at hle
    exact List.take_append_of_le_length hle

/-- A savepoint without a scope. -/
theorem markOnly (h : Tracks attempts draft opened kept points) (name : String) :
    Tracks attempts (draft.mark name) opened kept points :=
  { h with points_sublist := h.points_sublist.trans (List.sublist_cons_self _ _) }

/-- A nested scope with its savepoint. -/
theorem mark (h : Tracks attempts draft opened kept points) (name : String) :
    Tracks attempts (draft.mark name)
      { opened with scopes := ⟨name, opened.transaction.pending.length⟩ :: opened.scopes } kept
      ((name, draft.work.length) :: points) where
  kept_sublist := h.kept_sublist
  wrote := h.wrote
  pending := h.pending
  points_sublist := h.points_sublist.cons_cons _
  scopes := by
    refine .cons ⟨rfl, ?_⟩ h.scopes
    show opened.transaction.pending.length = _
    rw [← h.wrote.length_eq, List.take_length, h.pending]

/-- A nested scope that is no longer used. -/
theorem drop (h : Tracks attempts draft opened kept points) :
    Tracks attempts draft { opened with scopes := opened.scopes.tail } kept points.tail where
  kept_sublist := h.kept_sublist
  wrote := h.wrote
  pending := h.pending
  points_sublist := (List.tail_sublist _).trans h.points_sublist
  scopes := by
    simpa only [List.drop_one] using List.forall₂_drop 1 h.scopes

/-- A nested scope that is released with its savepoint. -/
theorem release (h : Tracks attempts draft opened kept points) (hsound : draft.Sound)
    (hscopes : opened.scopes = scope :: scopes) :
    Tracks attempts (draft.release scope.name) { opened with scopes } kept points.tail := by
  have hmarks := h.scopes
  rw [hscopes] at hmarks
  obtain ⟨point, older, hfirst, hrest, rfl⟩ := List.forall₂_cons_left_iff.mp hmarks
  obtain ⟨earlier, hback, holder⟩ := hsound.back_eq h.points_sublist
  refine ⟨h.kept_sublist, h.wrote, h.pending, ?_, hrest⟩
  show older.Sublist (draft.back scope.name).tail
  rw [hfirst.name, hback]
  exact holder

/-- Going back to the savepoint of a nested scope takes back what was kept since then, and its
events. -/
theorem rollbackTo (h : Tracks attempts draft opened kept points) (hsound : draft.Sound)
    (hscopes : opened.scopes = scope :: scopes) :
    ∃ kept', Tracks attempts (draft.rollbackTo scope.name)
      (opened.withPending (opened.transaction.pending.take scope.mark)) kept' points := by
  have hmarks := h.scopes
  rw [hscopes] at hmarks
  obtain ⟨point, older, hfirst, -, hpoints⟩ := List.forall₂_cons_left_iff.mp hmarks
  have hsublist := h.points_sublist
  rw [hpoints] at hsublist
  obtain ⟨earlier, hback, holder⟩ := hsound.back_eq hsublist
  rw [← hfirst.name] at hback
  refine ⟨kept.take point.2, (List.take_sublist _ _).trans h.kept_sublist, ?_, ?_, ?_, ?_⟩
  · have hwork : (draft.rollbackTo scope.name).work = draft.work.take point.2 := by
      unfold Draft.rollbackTo
      rw [hback]
      rfl
    rw [hwork]
    exact List.forall₂_take point.2 h.wrote
  · -- the events of what is taken back are the last ones
    have hsplit : kept.filterMap Attempt.event? =
        (kept.take point.2).filterMap Attempt.event? ++
          (kept.drop point.2).filterMap Attempt.event? := by
      rw [← List.filterMap_append, List.take_append_drop]
    show opened.transaction.pending.take scope.mark = _
    rw [h.pending, hsplit, hfirst.mark, List.take_left]
  · show points.Sublist (draft.back scope.name)
    rw [hback, hpoints]
    exact holder.cons_cons _
  · apply NestedScope.Marks.congr h.scopes
    intro other hother
    -- earlier savepoints remember no more than this one
    have hle : other.2 ≤ point.2 := by
      rw [hpoints] at hother
      rcases List.mem_cons.mp hother with rfl | hother
      · exact Nat.le_refl _
      · have hlengths := hsound.lengths.sublist (draft.back_sublist scope.name)
        rw [hback] at hlengths
        exact (List.pairwise_cons.mp hlengths).1 other (holder.subset hother)
    rw [List.take_take, Nat.min_eq_left hle]

end Tracks

end TenantAccess
