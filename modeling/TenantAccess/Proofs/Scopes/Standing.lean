import TenantAccess.Proofs.Scopes.Unnamed

/-!
# Nested scopes and the savepoints they stand on

The nested scopes of an open transaction stand on savepoints of its draft.  There may be more
savepoints than that, of nested scopes that are no longer used or that could not be opened; none of
them is ever named again.

* `Standing`: the scopes, and the savepoints that they stand on.  One lemma for each way in which
  savepoints come and go.
* `Twin`: two open transactions whose nested scopes mark the same pending events, and stand on
  savepoints that remember the same amount of work.
-/

namespace TenantAccess

/-- The nested scopes of a transaction stand on savepoints of its draft, each on one with its name
and in their order; and the savepoints have the names of nested scopes that were counted. -/
structure Standing (count : UInt32) (scopes : List NestedScope) (draft : Draft)
    (points : List (String × Nat)) : Prop where
  points_sublist : points.Sublist draft.savepoints
  names : scopes.map (·.name) = points.map (·.1)
  numbered : ∀ name ∈ draft.names, ∃ number ≤ count, name = Transaction.savepointName number

namespace Standing

variable {count : UInt32} {scope : NestedScope} {scopes : List NestedScope} {draft draft' : Draft}
  {points : List (String × Nat)}

/-- Without savepoints there are no nested scopes. -/
theorem empty (inner : SessionId) : Standing 0 [] { inner } [] := ⟨.refl _, rfl, nofun⟩

/-- What is carried out makes no difference. -/
theorem congr (h : Standing count scopes draft points)
    (hpoints : draft'.savepoints = draft.savepoints) : Standing count scopes draft' points where
  points_sublist := by
    rw [hpoints]
    exact h.points_sublist
  names := h.names
  numbered := by
    unfold Draft.names
    rw [hpoints]
    exact h.numbered

/-- With savepoints that are no longer there. -/
theorem of_sublist (h : Standing count scopes draft points) {scopes' : List NestedScope}
    {points' : List (String × Nat)} (hsublist : draft'.savepoints.Sublist draft.savepoints)
    (hpoints : points'.Sublist draft'.savepoints)
    (hnames : scopes'.map (·.name) = points'.map (·.1)) :
    Standing count scopes' draft' points' where
  points_sublist := hpoints
  names := hnames
  numbered name hname := h.numbered name ((hsublist.map _).subset hname)

/-- The next name is not among those of the savepoints. -/
theorem next_not_mem (h : Standing count scopes draft points) (hroom : count.toNat + 1 < 2 ^ 32) :
    Transaction.savepointName (count + 1) ∉ draft.names := by
  intro hmem
  obtain ⟨number, hle, hname⟩ := h.numbered _ hmem
  exact savepointName_next hroom hle hname

/-- A number may be used up without a savepoint. -/
theorem counted (h : Standing count scopes draft points) (hroom : count.toNat + 1 < 2 ^ 32) :
    Standing (count + 1) scopes draft points := by
  refine ⟨h.points_sublist, h.names, ?_⟩
  intro name hname
  obtain ⟨number, hle, rfl⟩ := h.numbered name hname
  refine ⟨number, ?_, rfl⟩
  rw [UInt32.le_iff_toNat_le] at hle ⊢
  rw [toNat_next hroom]
  omega

/-- A savepoint with the next number, on which no scope stands. -/
theorem markOnly (h : Standing count scopes draft points) (hroom : count.toNat + 1 < 2 ^ 32) :
    Standing (count + 1) scopes (draft.mark (Transaction.savepointName (count + 1))) points where
  points_sublist := h.points_sublist.trans (List.sublist_cons_self _ _)
  names := h.names
  numbered name hname := by
    rcases List.mem_cons.mp hname with rfl | hname
    · exact ⟨count + 1, UInt32.le_refl _, rfl⟩
    · exact (h.counted hroom).numbered name hname

/-- A savepoint with the next number, and a scope that stands on it. -/
theorem mark (h : Standing count scopes draft points) (hroom : count.toNat + 1 < 2 ^ 32)
    (mark : Nat) :
    Standing (count + 1) (⟨Transaction.savepointName (count + 1), mark⟩ :: scopes)
      (draft.mark (Transaction.savepointName (count + 1)))
      ((Transaction.savepointName (count + 1), draft.work.length) :: points) where
  points_sublist := h.points_sublist.cons_cons _
  names := congrArg (Transaction.savepointName (count + 1) :: ·) h.names
  numbered := (h.markOnly hroom).numbered

/-- The innermost scope stands on the first of the savepoints. -/
theorem exists_point (h : Standing count (scope :: scopes) draft points) (hsound : draft.Sound) :
    ∃ point older earlier, points = point :: older ∧ scope.name = point.1 ∧
      scopes.map (·.name) = older.map (·.1) ∧ draft.back scope.name = point :: earlier ∧
      older.Sublist earlier := by
  have hnames := h.names
  rcases points with _ | ⟨point, older⟩
  · cases hnames
  · obtain ⟨hname, hnames⟩ := List.cons.inj hnames
    obtain ⟨earlier, hback, holder⟩ := hsound.back_eq h.points_sublist
    have hscope : scope.name = point.1 := hname
    exact ⟨point, older, earlier, rfl, hscope, hnames, by rw [hscope, hback], holder⟩

/-- The name of the innermost scope is among those of the savepoints. -/
theorem name_mem (h : Standing count (scope :: scopes) draft points) :
    scope.name ∈ draft.names := by
  have hmem : scope.name ∈ points.map (·.1) := by
    rw [← h.names]
    exact List.mem_cons_self
  exact (h.points_sublist.map _).subset hmem

/-- The savepoint of the innermost scope is known. -/
theorem refusal? (h : Standing count (scope :: scopes) draft points) :
    draft.refusal? (.release scope.name) = none ∧ draft.refusal? (.rollbackTo scope.name) = none :=
  ⟨if_pos h.name_mem, if_pos h.name_mem⟩

/-- The innermost scope is no longer used; its savepoint stays. -/
theorem drop (h : Standing count (scope :: scopes) draft points) :
    Standing count scopes draft points.tail := by
  refine h.of_sublist (.refl _) ((List.tail_sublist _).trans h.points_sublist) ?_
  have hnames := congrArg List.tail h.names
  rw [← List.map_tail, ← List.map_tail] at hnames
  exact hnames

/-- Once the savepoint of the innermost scope was released, the other scopes stand on theirs. -/
theorem release (h : Standing count (scope :: scopes) draft points) (hsound : draft.Sound) :
    Standing count scopes (draft.release scope.name) points.tail := by
  obtain ⟨point, older, earlier, rfl, hname, hnames, hback, holder⟩ := h.exists_point hsound
  refine h.of_sublist ((List.tail_sublist _).trans (draft.back_sublist _)) ?_ hnames
  show older.Sublist (draft.back scope.name).tail
  rw [hback]
  exact holder

/-- Going back to the savepoint of the innermost scope leaves as much work as it remembers. -/
theorem rollbackTo (h : Standing count (scope :: scopes) draft points) (hsound : draft.Sound) :
    Standing count (scope :: scopes) (draft.rollbackTo scope.name) points ∧
      (draft.rollbackTo scope.name).work =
        draft.work.take ((points.map (·.2)).head?.getD 0) := by
  have hall := h.names
  obtain ⟨point, older, earlier, rfl, hname, hnames, hback, holder⟩ := h.exists_point hsound
  constructor
  · refine h.of_sublist (draft.back_sublist _) ?_ hall
    show (point :: older).Sublist (draft.back scope.name)
    rw [hback]
    exact holder.cons_cons _
  · show draft.work.take (((draft.back scope.name).head?.map (·.2)).getD 0) = _
    rw [hback]
    rfl

end Standing

/-! ### Transactions that stand for each other -/

namespace Transaction

/-- The transaction with one more nested scope counted. -/
def counted (tx : Transaction) : Transaction := { tx with savepoints := tx.savepoints + 1 }

/-- The name of the savepoint of the next nested scope. -/
def nextName (tx : Transaction) : String := savepointName (tx.savepoints + 1)

/-- The next nested scope, which begins after what is pending. -/
def nextScope (tx : Transaction) : NestedScope := ⟨tx.nextName, tx.pending.length⟩

/-- The transaction with only as many events pending as at a mark. -/
def cutBack (tx : Transaction) (mark : Nat) : Transaction :=
  { tx with pending := tx.pending.take mark }

end Transaction

/-- The two open transactions differ in nothing but the names of their nested scopes, how many of
them were counted, and savepoints that no scope stands on. As many more nested scopes as there is
room for can still be numbered. -/
structure Twin (room : Nat) (ledger ledger' : Ledger) (opened opened' : OpenTransaction) :
    Prop where
  session : opened.transaction.session = opened'.transaction.session
  pending : opened.transaction.pending = opened'.transaction.pending
  marks : opened.scopes.map (·.mark) = opened'.scopes.map (·.mark)
  countable : opened.transaction.savepoints.toNat + room < 2 ^ 32
  countable' : opened'.transaction.savepoints.toNat + room < 2 ^ 32
  standing : ∃ draft draft' points points',
    ledger.drafts opened.transaction.session = some draft ∧
    ledger'.drafts opened.transaction.session = some draft' ∧
    Standing opened.transaction.savepoints opened.scopes draft points ∧
    Standing opened'.transaction.savepoints opened'.scopes draft' points' ∧
    points.map (·.2) = points'.map (·.2)

namespace Twin

variable {room room' : Nat} {ledger ledger' later later' : Ledger}
  {opened opened' : OpenTransaction} {draft draft' : Draft}

/-- What happens in other sessions, or to the room for more, makes no difference. -/
theorem mono (h : Twin room ledger ledger' opened opened') (hroom : room' ≤ room)
    (hdraft : later.drafts opened.transaction.session = ledger.drafts opened.transaction.session)
    (hdraft' :
      later'.drafts opened.transaction.session = ledger'.drafts opened.transaction.session) :
    Twin room' later later' opened opened' where
  session := h.session
  pending := h.pending
  marks := h.marks
  countable := (Nat.add_le_add_left hroom _).trans_lt h.countable
  countable' := (Nat.add_le_add_left hroom _).trans_lt h.countable'
  standing := by
    rw [hdraft, hdraft']
    exact h.standing

/-- What is carried out on both sides, with its events, makes no difference. -/
theorem append (h : Twin room ledger ledger' opened opened')
    (hdraft : ledger.drafts opened.transaction.session = some draft)
    (hdraft' : ledger'.drafts opened.transaction.session = some draft') (outcome : StatementOutcome)
    (statement : Statement) (events : List ChangeEvent) :
    Twin room (ledger.answered opened.transaction.session draft outcome (.execute statement))
      (ledger'.answered opened.transaction.session draft' outcome (.execute statement))
      (opened.withPending (opened.transaction.pending ++ events))
      (opened'.withPending (opened'.transaction.pending ++ events)) := by
  obtain ⟨hsession, hpending, hmarks, hcountable, hcountable',
    first, second, points, points', hfirst, hsecond, hstanding, hstanding', hlengths⟩ := h
  obtain rfl := Option.some.inj (hdraft.symm.trans hfirst)
  obtain rfl := Option.some.inj (hdraft'.symm.trans hsecond)
  exact ⟨hsession, congrArg (· ++ events) hpending, hmarks, hcountable, hcountable', _, _, points,
    points', Ledger.drafts_put_self _ _ _, Ledger.drafts_put_self _ _ _, hstanding.congr rfl,
    hstanding'.congr rfl, hlengths⟩

/-! ### One more nested scope -/

/-- After one more nested scope there is room for one less. -/
theorem countable_next {count : UInt32} (h : count.toNat + (room + 1) < 2 ^ 32) :
    count.toNat + 1 < 2 ^ 32 ∧ (count + 1).toNat + room < 2 ^ 32 := by
  have hnext : count.toNat + 1 < 2 ^ 32 := by omega
  rw [toNat_next hnext]
  omega

/-- Where there is room for one more nested scope, its savepoint can be made. -/
theorem fresh (h : Twin (room + 1) ledger ledger' opened opened')
    (hdraft : ledger.drafts opened.transaction.session = some draft)
    (hdraft' : ledger'.drafts opened.transaction.session = some draft') :
    draft.refusal? (.savepoint opened.transaction.nextName) = none ∧
      draft'.refusal? (.savepoint opened'.transaction.nextName) = none := by
  obtain ⟨first, second, _, _, hfirst, hsecond, hstanding, hstanding', -⟩ := h.standing
  obtain rfl := Option.some.inj (hdraft.symm.trans hfirst)
  obtain rfl := Option.some.inj (hdraft'.symm.trans hsecond)
  exact ⟨if_neg (hstanding.next_not_mem (countable_next h.countable).1),
    if_neg (hstanding'.next_not_mem (countable_next h.countable').1)⟩

/-- On the first side a nested scope was counted, and perhaps got a savepoint, but is not used. -/
theorem leftOver (h : Twin (room + 1) ledger ledger' opened opened')
    (hdraft : ledger.drafts opened.transaction.session = some draft)
    (hlater : later.drafts opened.transaction.session = some draft ∨
      later.drafts opened.transaction.session = some (draft.mark opened.transaction.nextName)) :
    Twin room later ledger' ⟨opened.transaction.counted, opened.scopes⟩ opened' := by
  obtain ⟨hsession, hpending, hmarks, hcountable, hcountable',
    first, draft', points, points', hfirst, hdraft', hstanding, hstanding', hlengths⟩ := h
  obtain rfl := Option.some.inj (hdraft.symm.trans hfirst)
  obtain ⟨hnext, hcounted⟩ := countable_next hcountable
  have hroom : opened'.transaction.savepoints.toNat + room < 2 ^ 32 := by omega
  rcases hlater with hlater | hlater
  · exact ⟨hsession, hpending, hmarks, hcounted, hroom, _, draft', points, points', hlater, hdraft',
      hstanding.counted hnext, hstanding', hlengths⟩
  · exact ⟨hsession, hpending, hmarks, hcounted, hroom, _, draft', points, points', hlater, hdraft',
      hstanding.markOnly hnext, hstanding', hlengths⟩

/-- On both sides a nested scope was opened on a savepoint of its own. -/
theorem nested (h : Twin (room + 1) ledger ledger' opened opened')
    (hdraft : ledger.drafts opened.transaction.session = some draft)
    (hdraft' : ledger'.drafts opened.transaction.session = some draft')
    (hwork : draft.work = draft'.work)
    (hlater :
      later.drafts opened.transaction.session = some (draft.mark opened.transaction.nextName))
    (hlater' :
      later'.drafts opened.transaction.session = some (draft'.mark opened'.transaction.nextName)) :
    Twin room later later'
      ⟨opened.transaction.counted, opened.transaction.nextScope :: opened.scopes⟩
      ⟨opened'.transaction.counted, opened'.transaction.nextScope :: opened'.scopes⟩ := by
  obtain ⟨hsession, hpending, hmarks, hcountable, hcountable',
    first, second, points, points', hfirst, hsecond, hstanding, hstanding', hlengths⟩ := h
  obtain rfl := Option.some.inj (hdraft.symm.trans hfirst)
  obtain rfl := Option.some.inj (hdraft'.symm.trans hsecond)
  obtain ⟨hnext, hcounted⟩ := countable_next hcountable
  obtain ⟨hnext', hcounted'⟩ := countable_next hcountable'
  have hlength : draft.work.length = draft'.work.length := congrArg List.length hwork
  have hmark : opened.transaction.pending.length = opened'.transaction.pending.length :=
    congrArg List.length hpending
  exact ⟨hsession, hpending, List.cons_eq_cons.mpr ⟨hmark, hmarks⟩, hcounted, hcounted', _, _, _, _,
    hlater, hlater', hstanding.mark hnext _, hstanding'.mark hnext' _,
    List.cons_eq_cons.mpr ⟨hlength, hlengths⟩⟩

/-! ### One nested scope less -/

variable {tx tx' : Transaction} {scope scope' : NestedScope} {scopes scopes' : List NestedScope}

/-- There is a nested scope on both sides, or on neither. -/
theorem scopes_cases (h : Twin room ledger ledger' opened opened') :
    (opened.scopes = [] ∧ opened'.scopes = []) ∨
      ∃ scope scopes scope' scopes', opened.scopes = scope :: scopes ∧
        opened'.scopes = scope' :: scopes' := by
  have hmarks := h.marks
  rcases hscopes : opened.scopes with _ | ⟨scope, scopes⟩ <;>
    rcases hscopes' : opened'.scopes with _ | ⟨scope', scopes'⟩ <;>
    rw [hscopes, hscopes'] at hmarks
  · exact .inl ⟨rfl, rfl⟩
  · cases hmarks
  · cases hmarks
  · exact .inr ⟨_, _, _, _, rfl, rfl⟩

/-- A scope that is no longer used stands for one that is no longer used, either. -/
theorem drop
    (h : Twin room ledger ledger' ⟨tx, scope :: scopes⟩ ⟨tx', scope' :: scopes'⟩) :
    Twin room ledger ledger' ⟨tx, scopes⟩ ⟨tx', scopes'⟩ := by
  obtain ⟨hsession, hpending, hmarks, hcountable, hcountable',
    draft, draft', points, points', hdraft, hdraft', hstanding, hstanding', hlengths⟩ := h
  refine ⟨hsession, hpending, (List.cons.inj hmarks).2, hcountable, hcountable',
    draft, draft', points.tail, points'.tail, hdraft, hdraft', hstanding.drop, hstanding'.drop, ?_⟩
  rw [List.map_tail, List.map_tail, hlengths]

/-- The innermost scope was released on both sides. -/
theorem release
    (h : Twin room ledger ledger' ⟨tx, scope :: scopes⟩ ⟨tx', scope' :: scopes'⟩)
    (hdraft : ledger.drafts tx.session = some draft)
    (hdraft' : ledger'.drafts tx.session = some draft')
    (hsound : draft.Sound) (hsound' : draft'.Sound) (outcome : StatementOutcome) :
    Twin room
      (ledger.answered tx.session draft outcome (.release scope.name))
      (ledger'.answered tx.session draft' outcome (.release scope'.name))
      ⟨tx, scopes⟩ ⟨tx', scopes'⟩ := by
  obtain ⟨hsession, hpending, hmarks, hcountable, hcountable',
    first, second, points, points', hfirst, hsecond, hstanding, hstanding', hlengths⟩ := h
  obtain rfl := Option.some.inj (hdraft.symm.trans hfirst)
  obtain rfl := Option.some.inj (hdraft'.symm.trans hsecond)
  refine ⟨hsession, hpending, (List.cons.inj hmarks).2, hcountable, hcountable',
    draft.release scope.name, draft'.release scope'.name, points.tail, points'.tail,
    Ledger.drafts_put_self _ _ _, Ledger.drafts_put_self _ _ _, hstanding.release hsound,
    hstanding'.release hsound', ?_⟩
  rw [List.map_tail, List.map_tail, hlengths]

/-- Both sides went back to the savepoint of the innermost scope: as much work is left, and the same
events are pending. -/
theorem rollbackTo
    (h : Twin room ledger ledger' ⟨tx, scope :: scopes⟩ ⟨tx', scope' :: scopes'⟩)
    (hdraft : ledger.drafts tx.session = some draft)
    (hdraft' : ledger'.drafts tx.session = some draft')
    (hsound : draft.Sound) (hsound' : draft'.Sound) (hwork : draft.work = draft'.work)
    (outcome : StatementOutcome) :
    (draft.rollbackTo scope.name).work = (draft'.rollbackTo scope'.name).work ∧
      Twin room
        (ledger.answered tx.session draft outcome (.rollbackTo scope.name))
        (ledger'.answered tx.session draft' outcome (.rollbackTo scope'.name))
        ⟨tx.cutBack scope.mark, scope :: scopes⟩
        ⟨tx'.cutBack scope'.mark, scope' :: scopes'⟩ := by
  obtain ⟨hsession, hpending, hmarks, hcountable, hcountable',
    first, second, points, points', hfirst, hsecond, hstanding, hstanding', hlengths⟩ := h
  obtain rfl := Option.some.inj (hdraft.symm.trans hfirst)
  obtain rfl := Option.some.inj (hdraft'.symm.trans hsecond)
  obtain ⟨hback, hleft⟩ := hstanding.rollbackTo hsound
  obtain ⟨hback', hleft'⟩ := hstanding'.rollbackTo hsound'
  have hmark : scope.mark = scope'.mark := (List.cons.inj hmarks).1
  have hcut : tx.pending.take scope.mark =
      tx'.pending.take scope'.mark := by
    rw [hmark]
    exact congrArg (List.take _) hpending
  refine ⟨?_, hsession, hcut, hmarks, hcountable, hcountable', _, _, points, points',
    Ledger.drafts_put_self _ _ _, Ledger.drafts_put_self _ _ _, hback, hback', hlengths⟩
  rw [hleft, hleft', hwork, hlengths]

end Twin
end TenantAccess
