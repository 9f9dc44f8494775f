import TenantAccess.Proofs.Scopes.Standing

/-!
# Commands about savepoints

A session is asked to make savepoints, to release them and to go back to them.  Releasing a
savepoint ends it and every later one, going back to one ends every later one, and the end of the
transaction ends them all.  What a call that failed has done is not known: it may have been carried
out all the same.

* `MayBeLive`: the savepoints that may be live after what was asked of a session; `liveNow` if the
  calls that failed have done nothing.
* `WellFormed`: savepoints have different names that are savepoint names, and a savepoint that is
  released or gone back to is live, whatever the calls that failed have done.
* `StandsOn`: how an open transaction stands on the savepoints of its session; one lemma for each
  way in which more is asked.
* `InOrder.wellFormed`: what this comes to.
-/

namespace TenantAccess

/-- Something that was asked of a session, with the answer. -/
structure Asked where
  request : SessionCall
  answer : Except SessionError StatementOutcome

namespace SessionCall

/-- The name of the savepoint that the call makes. -/
def made? : SessionCall → Option String
  | savepoint name => some name
  | _ => none

/-- The name of the savepoint that the call releases or goes back to. -/
def used? : SessionCall → Option String
  | release name | rollbackTo name => some name
  | _ => none

/-- The savepoints that are live after the call was carried out, the latest first. -/
def liveAfter (live : List String) : SessionCall → List String
  | settings _ | execute _ => live
  | savepoint name => name :: live
  | release name => (live.dropWhile (· != name)).tail
  | rollbackTo name => live.dropWhile (· != name)
  | commit | rollback => []

/-- The call keeps the savepoints that there are. -/
def isIdle : SessionCall → Bool
  | settings _ | execute _ => true
  | _ => false

variable {request : SessionCall}

/-- A call without a name makes no savepoint. -/
theorem made?_of_not_isNamed (h : request.isNamed = false) : request.made? = none := by
  cases request <;> first | rfl | cases h

/-- A call without a name neither releases a savepoint nor goes back to one. -/
theorem used?_of_not_isNamed (h : request.isNamed = false) : request.used? = none := by
  cases request <;> first | rfl | cases h

/-- Settings and statements name no savepoint. -/
theorem isNamed_of_isIdle (h : request.isIdle = true) : request.isNamed = false := by
  cases request <;> first | rfl | cases h

/-- Settings and statements leave the live savepoints as they are. -/
theorem liveAfter_of_isIdle (h : request.isIdle = true) (live : List String) :
    request.liveAfter live = live := by
  cases request <;> first | rfl | cases h

end SessionCall

/-- The names of the savepoints that were asked for. -/
def madeNames (asked : List Asked) : List String :=
  asked.filterMap (·.request.made?)

/-- The savepoints that may be live after what was asked of a session, the latest first. -/
inductive MayBeLive : List Asked → List String → Prop where
  | nothing : MayBeLive [] []
  | done {asked : List Asked} {live : List String} (one : Asked) (h : MayBeLive asked live) :
    MayBeLive (asked ++ [one]) (one.request.liveAfter live)
  | undone {asked : List Asked} {live : List String} (request : SessionCall) (e : SessionError)
    (h : MayBeLive asked live) : MayBeLive (asked ++ [⟨request, .error e⟩]) live

/-- The savepoints that are live if the calls that failed have done nothing. -/
def liveNow (asked : List Asked) : List String :=
  asked.foldl (fun live one => match one.answer with
    | .ok _ => one.request.liveAfter live
    | .error _ => live) []

/-- It may be that the calls that failed have done nothing. -/
theorem mayBeLive_liveNow (asked : List Asked) : MayBeLive asked (liveNow asked) := by
  induction asked using List.reverseRecOn with
  | nil => exact .nothing
  | append_singleton asked one ih =>
    unfold liveNow at ih ⊢
    rw [List.foldl_append, List.foldl_cons, List.foldl_nil]
    rcases hanswer : one.answer with e | outcome
    · obtain ⟨request, answer⟩ := one
      cases hanswer
      exact .undone request e ih
    · exact .done one ih

/-- The savepoints that a session is asked for have different names that are savepoint names, and
only live ones are released or gone back to. -/
structure WellFormed (asked : List Asked) : Prop where
  accepted : ∀ name ∈ madeNames asked, checkSavepointName name = .ok ()
  distinct : (madeNames asked).Nodup
  live : ∀ earlier one later, asked = earlier ++ one :: later →
    ∀ name, one.request.used? = some name → ∀ live, MayBeLive earlier live → name ∈ live

/-- If the calls that failed have done nothing, the savepoints that are used are live too. -/
theorem WellFormed.mem_liveNow {asked earlier later : List Asked} {one : Asked} {name : String}
    (h : WellFormed asked) (hall : asked = earlier ++ one :: later)
    (hused : one.request.used? = some name) : name ∈ liveNow earlier :=
  h.live earlier one later hall name hused _ (mayBeLive_liveNow earlier)

/-! ### What one more call does -/

section calls

variable {asked : List Asked} {one : Asked} {live : List String}

/-- One more call adds the name of the savepoint that it makes, if it makes one. -/
theorem madeNames_snoc (asked : List Asked) (one : Asked) :
    madeNames (asked ++ [one]) = madeNames asked ++ one.request.made?.toList := by
  unfold madeNames
  rw [List.filterMap_append]
  rcases hmade : one.request.made? with _ | name <;> simp [hmade]

/-- After one more call it has been carried out, or it failed. -/
theorem mayBeLive_snoc (h : MayBeLive (asked ++ [one]) live) :
    ∃ before, MayBeLive asked before ∧ (live = one.request.liveAfter before ∨
      live = before ∧ ∃ e, one.answer = .error e) := by
  generalize hall : asked ++ [one] = all at h
  cases h with
  | nothing => simp at hall
  | done one' h =>
    obtain ⟨rfl, hone⟩ := List.append_inj' hall rfl
    obtain rfl := List.singleton_inj.mp hone
    exact ⟨_, h, .inl rfl⟩
  | undone request e h =>
    obtain ⟨rfl, hone⟩ := List.append_inj' hall rfl
    obtain rfl := List.singleton_inj.mp hone
    exact ⟨_, h, .inr ⟨rfl, e, rfl⟩⟩

end calls

/-! ### Names by number -/

/-- The names of the first savepoints of a session. -/
def firstNames (n : Nat) : List String :=
  (List.range n).map fun i => Transaction.savepointName (UInt32.ofNat (i + 1))

/-- The first names and the next one. -/
theorem firstNames_succ (n : Nat) :
    firstNames (n + 1) = firstNames n ++ [Transaction.savepointName (UInt32.ofNat (n + 1))] := by
  simp [firstNames, List.range_succ]

/-- Each of the first names is accepted as the name of a savepoint. -/
theorem checkSavepointName_of_mem_firstNames {n : Nat} {name : String} (h : name ∈ firstNames n) :
    checkSavepointName name = .ok () := by
  obtain ⟨i, -, rfl⟩ := List.mem_map.mp h
  rw [checkSavepointName, if_pos (isSavepointName_savepointName _)]

/-- As long as the numbers last, the names are different. -/
theorem nodup_firstNames {n : Nat} (h : n < 2 ^ 32) : (firstNames n).Nodup := by
  refine List.Nodup.map_on ?_ List.nodup_range
  intro i hi j hj hname
  rw [List.mem_range] at hi hj
  have hnumber := congrArg UInt32.toNat (savepointName_injective hname)
  rw [UInt32.toNat_ofNat', UInt32.toNat_ofNat', Nat.mod_eq_of_lt (by omega),
    Nat.mod_eq_of_lt (by omega)] at hnumber
  omega

/-! ### Transactions on savepoints -/

/-- The savepoints that were asked for have the first names, in order, and only live ones were
released or gone back to. -/
structure InOrder (asked : List Asked) : Prop where
  names : madeNames asked = firstNames (madeNames asked).length
  live : ∀ earlier one later, asked = earlier ++ one :: later →
    ∀ name, one.request.used? = some name → ∀ live, MayBeLive earlier live → name ∈ live

/-- The transaction has counted the savepoints that its session was asked for, and the savepoints of
its open scopes are live, among others. -/
structure StandsOn (opened : OpenTransaction) (asked : List Asked) : Prop extends InOrder asked where
  count : opened.transaction.savepoints = UInt32.ofNat (madeNames asked).length
  scopes : ∀ live, MayBeLive asked live → (opened.scopes.map NestedScope.name).Sublist live

/-- Fewer savepoints than there are numbers are well-formed. -/
theorem InOrder.wellFormed {asked : List Asked} (h : InOrder asked)
    (hfew : (madeNames asked).length < 2 ^ 32) : WellFormed asked where
  accepted name hname := by
    rw [h.names] at hname
    exact checkSavepointName_of_mem_firstNames hname
  distinct := by
    rw [h.names]
    exact nodup_firstNames hfew
  live := h.live

/-- Where nothing was asked for, nothing is out of order. -/
theorem InOrder.nothing : InOrder [] where
  names := rfl
  live earlier one later h := by simp at h

/-- One more call is in order if the name that it makes is the next one and the name that it uses is
live. -/
theorem InOrder.snoc {asked : List Asked} {one : Asked} (h : InOrder asked)
    (hmade : ∀ name, one.request.made? = some name →
      name = Transaction.savepointName (UInt32.ofNat ((madeNames asked).length + 1)))
    (hused : ∀ name, one.request.used? = some name → ∀ live, MayBeLive asked live → name ∈ live) :
    InOrder (asked ++ [one]) where
  names := by
    rw [madeNames_snoc]
    rcases hname : one.request.made? with _ | name
    · rw [Option.toList_none, List.append_nil]
      exact h.names
    · rw [Option.toList_some, List.length_append, List.length_singleton, firstNames_succ,
        ← h.names, hmade name hname]
  live earlier one' later hall := by
    rcases List.eq_nil_or_concat later with rfl | ⟨later, last, rfl⟩
    · obtain ⟨rfl, hone⟩ := List.append_inj' hall rfl
      obtain rfl := List.singleton_inj.mp hone
      exact hused
    · rw [List.concat_eq_append, ← List.cons_append, ← List.append_assoc] at hall
      obtain ⟨rfl, -⟩ := List.append_inj' hall rfl
      exact h.live earlier one' later rfl

/-- A call without a name is in order. -/
theorem InOrder.unnamed {asked : List Asked} {one : Asked} (h : InOrder asked)
    (hnamed : one.request.isNamed = false) : InOrder (asked ++ [one]) := by
  apply h.snoc
  · rw [SessionCall.made?_of_not_isNamed hnamed]
    rintro _ ⟨⟩
  · rw [SessionCall.used?_of_not_isNamed hnamed]
    rintro _ ⟨⟩

/-- The savepoints from one of them back, where the names of it and of older ones are in order. -/
theorem dropWhile_of_sublist {name : String} {older live : List String}
    (h : (name :: older).Sublist live) :
    ∃ earlier, live.dropWhile (· != name) = name :: earlier ∧ older.Sublist earlier := by
  induction live with
  | nil => cases h
  | cons latest live ih =>
    by_cases hsame : latest = name
    · subst hsame
      rw [List.dropWhile_cons_of_neg (by simp)]
      exact ⟨live, rfl, List.cons_sublist_cons.mp h⟩
    · rw [List.dropWhile_cons_of_pos (by simpa using hsame)]
      rcases List.sublist_cons_iff.mp h with hskip | ⟨rest, heq, -⟩
      · exact ih hskip
      · exact absurd (List.cons.inj heq).1.symm hsame

namespace StandsOn

variable {opened opened' : OpenTransaction} {asked : List Asked} {tx : Transaction}
  {scope : NestedScope} {scopes : List NestedScope}
  {answer : Except SessionError StatementOutcome}

/-- A transaction that was just begun stands on no savepoints. -/
theorem nothing (session : SessionId) : StandsOn ⟨{ session }, []⟩ [] where
  toInOrder := .nothing
  count := rfl
  scopes _ _ := List.nil_sublist _

/-- A transaction with the same count and with some of the scopes stands like the other. -/
theorem congr (h : StandsOn opened asked)
    (hcount : opened'.transaction.savepoints = opened.transaction.savepoints)
    (hscopes : opened'.scopes.Sublist opened.scopes) : StandsOn opened' asked where
  toInOrder := h.toInOrder
  count := hcount.trans h.count
  scopes live hlive := (hscopes.map _).trans (h.scopes live hlive)

/-- Settings and statements do not change how a transaction stands. -/
theorem idle {one : Asked} (h : StandsOn opened asked) (hidle : one.request.isIdle = true) :
    StandsOn opened (asked ++ [one]) where
  toInOrder := h.unnamed (SessionCall.isNamed_of_isIdle hidle)
  count := by
    rw [madeNames_snoc, SessionCall.made?_of_not_isNamed (SessionCall.isNamed_of_isIdle hidle),
      Option.toList_none, List.append_nil]
    exact h.count
  scopes live hlive := by
    obtain ⟨before, hbefore, rfl | ⟨rfl, -⟩⟩ := mayBeLive_snoc hlive
    · rw [SessionCall.liveAfter_of_isIdle hidle]
      exact h.scopes before hbefore
    · exact h.scopes _ hbefore

/-- The transaction counts a savepoint that it asks for; a scope stands on it only if it is there. -/
theorem savepoint (h : StandsOn ⟨tx, scopes⟩ asked) :
    let asked' := asked ++ [⟨.savepoint tx.nextName, answer⟩]
    StandsOn ⟨tx.counted, scopes⟩ asked' ∧ ∀ outcome, answer = .ok outcome →
      StandsOn ⟨tx.counted, tx.nextScope :: scopes⟩ asked' := by
  intro asked'
  have hcount : tx.savepoints = UInt32.ofNat (madeNames asked).length := h.count
  have hnext : tx.savepoints + 1 = UInt32.ofNat ((madeNames asked).length + 1) := by
    rw [hcount, UInt32.ofNat_add]
    rfl
  have horder : InOrder asked' := by
    apply h.toInOrder.snoc
    · rintro _ ⟨⟩
      rw [← hnext]
      rfl
    · rintro _ ⟨⟩
  have hcounted : tx.counted.savepoints = UInt32.ofNat (madeNames asked').length := by
    rw [madeNames_snoc, List.length_append]
    exact hnext
  refine ⟨⟨horder, hcounted, ?_⟩, ?_⟩
  · intro live hlive
    obtain ⟨before, hbefore, rfl | ⟨rfl, -⟩⟩ := mayBeLive_snoc hlive
    · exact (h.scopes before hbefore).cons _
    · exact h.scopes _ hbefore
  · rintro outcome rfl
    refine ⟨horder, hcounted, ?_⟩
    intro live hlive
    obtain ⟨before, hbefore, rfl | ⟨-, e, he⟩⟩ := mayBeLive_snoc hlive
    · exact (h.scopes before hbefore).cons_cons _
    · cases he

/-- The savepoint of the innermost scope is live. -/
theorem innermost_live (h : StandsOn ⟨tx, scope :: scopes⟩ asked) {live : List String}
    (hlive : MayBeLive asked live) : scope.name ∈ live :=
  (h.scopes live hlive).subset List.mem_cons_self

/-- The savepoint of the innermost scope may be released; then the scope is no more. -/
theorem release (h : StandsOn ⟨tx, scope :: scopes⟩ asked) :
    StandsOn ⟨tx, scopes⟩ (asked ++ [⟨.release scope.name, answer⟩]) where
  toInOrder := by
    apply h.toInOrder.snoc
    · rintro _ ⟨⟩
    · rintro _ ⟨⟩ live hlive
      exact h.innermost_live hlive
  count := by
    rw [madeNames_snoc]
    exact h.count.trans (by simp [SessionCall.made?])
  scopes live hlive := by
    obtain ⟨before, hbefore, rfl | ⟨rfl, -⟩⟩ := mayBeLive_snoc hlive
    · obtain ⟨earlier, hearlier, holder⟩ := dropWhile_of_sublist (h.scopes before hbefore)
      show (scopes.map NestedScope.name).Sublist (before.dropWhile (· != scope.name)).tail
      rw [hearlier]
      exact holder
    · exact (List.sublist_cons_self _ _).trans (h.scopes _ hbefore)

/-- The savepoint of the innermost scope may be gone back to; then the scope stands on it still. -/
theorem rollbackTo (h : StandsOn ⟨tx, scope :: scopes⟩ asked) :
    StandsOn ⟨tx, scope :: scopes⟩ (asked ++ [⟨.rollbackTo scope.name, answer⟩]) where
  toInOrder := by
    apply h.toInOrder.snoc
    · rintro _ ⟨⟩
    · rintro _ ⟨⟩ live hlive
      exact h.innermost_live hlive
  count := by
    rw [madeNames_snoc]
    exact h.count.trans (by simp [SessionCall.made?])
  scopes live hlive := by
    obtain ⟨before, hbefore, rfl | ⟨rfl, -⟩⟩ := mayBeLive_snoc hlive
    · obtain ⟨earlier, hearlier, holder⟩ := dropWhile_of_sublist (h.scopes before hbefore)
      show (scope.name :: scopes.map NestedScope.name).Sublist
        (before.dropWhile (· != scope.name))
      rw [hearlier]
      exact holder.cons_cons _
    · exact h.scopes _ hbefore

end StandsOn
end TenantAccess
