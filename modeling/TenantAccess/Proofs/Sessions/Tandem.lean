import TenantAccess.Proofs.Lockstep
import TenantAccess.Proofs.Sessions.Kept

/-!
# Platforms in tandem

Two platforms are in tandem when what the access layer asks of them runs in lockstep.  Then whatever
is made of it does: finding the policy of the moment and the operations of transactions, each with the
same outcome on both platforms, up to what the errors of their sessions say.

* `Tandem`: the two platforms, with what it means that their worlds agree.
* `Tandem.current`, `Tandem.execute`, `Tandem.executeAlone`: one lemma for each operation.  It asks
  for `SessionCall.Plain` calls only.
-/

namespace TenantAccess

/-! ### Names of savepoints -/

/-- The characters of savepoint names take one octet each. -/
theorem utf8Size_of_isSavepointChar {c : Char} (h : isSavepointChar c = true) : c.utf8Size = 1 := by
  rw [Char.utf8Size_eq_one_iff]
  simp only [isSavepointChar, Bool.or_eq_true, Char.isLower, Char.isDigit, Bool.and_eq_true,
    decide_eq_true_eq] at h
  rcases h with (h | h) | rfl
  · exact UInt32.le_trans h.2 (by decide)
  · exact UInt32.le_trans h.2 (by decide)
  · decide

/-- A text of such characters takes as many octets as it has characters. -/
theorem octets_of_savepointChars {cs : List Char} (h : cs.all isSavepointChar = true) :
    Text.octets cs = cs.length :=
  Text.octets_eq_length fun c hc => utf8Size_of_isSavepointChar (List.all_eq_true.mp h c hc)

/-- The names that nested scopes get are savepoint names, whatever their number. -/
theorem isSavepointName_savepointName (number : UInt32) :
    isSavepointName (Transaction.savepointName number) = true := by
  let digits := Nat.toDigits 10 number.toNat
  have htext : (Transaction.savepointName number).toList = "inspectra_sp_".toList ++ digits := by
    simp [Transaction.savepointName, Nat.toList_repr, digits]
  have hdigits : digits.all isSavepointChar = true := by
    rw [List.all_eq_true]
    intro c hc
    have hdigit : c.isDigit = true := Nat.isDigit_of_mem_toDigits (by decide) le_rfl hc
    simp [isSavepointChar, hdigit]
  have hchars : ("inspectra_sp_".toList ++ digits).all isSavepointChar = true := by
    rw [List.all_append, hdigits]
    rfl
  have hlength : digits.length ≤ 10 := by
    apply Nat.toDigits_length 10 _ 10 (by decide)
    exact number.toNat_lt.trans (by decide)
  have hoctets : Text.octets ("inspectra_sp_".toList ++ digits) ≤ 63 := by
    rw [octets_of_savepointChars hchars, List.length_append]
    exact (Nat.add_le_add_left hlength _).trans (by decide)
  unfold isSavepointName
  rw [htext]
  show (decide (Text.octets ("inspectra_sp_".toList ++ digits) ≤ 63) && isSavepointStart 'i' &&
    ("inspectra_sp_".toList ++ digits).all isSavepointChar) = true
  rw [decide_eq_true hoctets, hchars]
  rfl

/-! ### Calls and answers -/

/-- The call makes some settings, if it makes settings, and names savepoints by savepoint names. -/
def SessionCall.Plain : SessionCall → Prop
  | .settings values => values ≠ []
  | .savepoint name | .release name | .rollbackTo name => isSavepointName name = true
  | .execute _ | .commit | .rollback => True

/-- Every policy makes some settings. -/
theorem DataAccessPolicy.settings_plain (policy : DataAccessPolicy) :
    (SessionCall.settings policy.settings).Plain := by
  rcases policy with reason | inputs <;> exact List.cons_ne_nil _ _

/-- The two errors are the same, but for what the sessions say if it is they that failed. -/
inductive ErrorsAlike (alike : SessionError → SessionError → Prop) :
    DataAccessError → DataAccessError → Prop where
  | same (e : DataAccessError) : ErrorsAlike alike e e
  | session {e e' : SessionError} (h : alike e e') : ErrorsAlike alike (.session e) (.session e')

/-- Where sessions fail with the same errors, the outcomes are the same. -/
theorem OutcomesAlike.eq {α : Type} {result result' : Except DataAccessError α}
    (h : OutcomesAlike (ErrorsAlike Eq) result result') : result = result' := by
  rcases h with value | (e | rfl) <;> rfl

/-! ### Platforms -/

variable {σ τ α : Type}

/-- Two platforms on which what the access layer asks for runs in lockstep: reads of sites, entries
of the audit trail and events in any case, and sessions as long as the first platform does what is
expected of it.  It does not come back to that by any means of data access. -/
structure Tandem (p : Platform σ) (q : Platform τ)
    (alike : SessionError → SessionError → Prop) where
  Agree : σ → τ → Prop
  Expected : σ → Prop
  sitesFor : ∀ client around, Lockstep Agree (fun _ => True) (OutcomesAlike Eq)
    (p.store.sitesFor client around) (q.store.sitesFor client around)
  audit : ∀ entry world world', Agree world world' →
    Agree (p.audit entry world) (q.audit entry world')
  emit : ∀ event world world', Agree world world' →
    Agree (p.emit event world) (q.emit event world')
  begin : Lockstep Agree Expected (OutcomesAlike alike) p.sessions.begin q.sessions.begin
  call : ∀ session request, request.Plain → Lockstep Agree Expected (OutcomesAlike alike)
    (p.sessions.call session request) (q.sessions.call session request)
  sitesFor_back : ∀ client around world,
    Expected (p.store.sitesFor client around world).2 → Expected world
  audit_back : ∀ entry world, Expected (p.audit entry world) → Expected world
  emit_back : ∀ event world, Expected (p.emit event world) → Expected world
  call_back : ∀ session request world,
    Expected (p.sessions.call session request world).2 → Expected world
  abandon_back : ∀ session world, Expected (p.sessions.abandon session world).2 → Expected world

namespace Tandem

variable {p : Platform σ} {q : Platform τ} {alike : SessionError → SessionError → Prop}
  (tandem : Tandem p q alike)

/-- The worlds agree, and what is remembered around them is the same. -/
structure Along (s : AccessState σ) (t : AccessState τ) : Prop where
  world : tandem.Agree s.world t.world
  grants : s.grants = t.grants
  sites : s.sites = t.sites
  around : s.around = t.around

/-- Lockstep of computations of the access layer. -/
abbrev Alongside {α β : Type} (V : α → β → Prop) (m : Work σ α) (m' : Work τ β) : Prop :=
  Lockstep tandem.Along (fun s => tandem.Expected s.world) V m m'

/-- Lockstep whatever is expected. -/
abbrev AlwaysAlongside {α β : Type} (V : α → β → Prop) (m : Work σ α) (m' : Work τ β) : Prop :=
  Lockstep tandem.Along (fun _ => True) V m m'

/-- Lockstep of computations on a transaction. -/
abbrev AlongsideOn (m : TransactionTask σ α) (m' : TransactionTask τ α) : Prop :=
  ∀ tx, tandem.Alongside (Lockstep.OnTransaction (ErrorsAlike alike)) (m tx) (m' tx)

/-- What touches the world only is in lockstep if it is so on the worlds. -/
theorem ofWorld {β : Type} {Expected : σ → Prop} {V : α → β → Prop} {m : StateM σ α}
    {m' : StateM τ β} (h : Lockstep tandem.Agree Expected V m m') :
    Lockstep tandem.Along (fun s => Expected s.world) V (Work.ofWorld m) (Work.ofWorld m') where
  back s hs := h.back s.world hs
  along s t hst hs := by
    obtain ⟨hvalue, hworld⟩ := h.along s.world t.world hst.world hs
    exact ⟨hvalue, hworld, hst.grants, hst.sites, hst.around⟩

/-! ### The policy of the moment -/

/-- Sites are read on both sides with the same answer. -/
theorem readSites (client : ClientId) :
    tandem.AlwaysAlongside (OutcomesAlike Eq) (Work.read (p.store.sitesFor client))
      (Work.read (q.store.sitesFor client)) where
  back _ _ := trivial
  along s t hst _ := by
    have hread := (tandem.ofWorld (tandem.sitesFor client s.around)).along s t hst trivial
    show OutcomesAlike Eq _ (Work.ofWorld (q.store.sitesFor client t.around) t).1 ∧
      tandem.Along _ (Work.ofWorld (q.store.sitesFor client t.around) t).2
    rw [← hst.around]
    exact hread

/-- Both keep the same about sites. -/
theorem keepSites (change : SiteCache → SiteCache) :
    tandem.AlwaysAlongside (OutcomesAlike Eq)
      (modify fun state => { state with sites := change state.sites } : Task σ SiteTreeError PUnit)
      (modify fun state => { state with sites := change state.sites } :
        Task τ SiteTreeError PUnit) where
  back _ _ := trivial
  along _ _ hst _ :=
    ⟨.ok _, hst.world, hst.grants, congrArg change hst.sites, hst.around⟩

/-- The tree of a client is the same on both sides, kept or read. -/
theorem tree (client : ClientId) :
    tandem.AlwaysAlongside (OutcomesAlike Eq) (SiteTrees.tree p client)
      (SiteTrees.tree q client) := by
  apply Lockstep.bindGet
  intro s t hst
  rw [← hst.sites]
  rcases s.sites.tree? client with _ | tree
  · have hread : tandem.AlwaysAlongside (OutcomesAlike Eq)
        (ExceptT.adapt SiteTreeError.store (Work.read (p.store.sitesFor client)))
        (ExceptT.adapt SiteTreeError.store (Work.read (q.store.sitesFor client))) :=
      Lockstep.adapt SiteTreeError.store (fun _ _ => congrArg _) (tandem.readSites client)
    apply hread.bindTask Eq.refl
    intro sites
    split
    · exact .pure (.error rfl)
    · rename_i tree _
      have hkeep := tandem.keepSites fun cache => cache.keepTree client tree
      apply hkeep.bindTask Eq.refl
      intro _
      exact .pure (.ok tree)
  · exact .pure (.ok tree)

/-- So are the sites below a site. -/
theorem descendantsOf (client : ClientId) (site : SiteId) :
    tandem.AlwaysAlongside (OutcomesAlike Eq) (SiteTrees.descendantsOf p client site)
      (SiteTrees.descendantsOf q client site) := by
  apply Lockstep.bindGet
  intro s t hst
  rw [← hst.sites]
  rcases s.sites.descendants? site with _ | below
  · apply (tandem.tree client).bindTask Eq.refl
    intro tree
    have hkeep := tandem.keepSites fun cache =>
      cache.keepDescendants site (tree.descendantsOf site)
    apply hkeep.bindTask Eq.refl
    intro _
    exact .pure (.ok _)
  · exact .pure (.ok below)

/-- So are the sites that a grant makes visible. -/
theorem visibleTo (grant : EffectiveGrant) :
    tandem.AlwaysAlongside (OutcomesAlike Eq) (SiteTrees.visibleTo p grant)
      (SiteTrees.visibleTo q grant) := by
  unfold SiteTrees.visibleTo
  split
  · rcases grant.clientId with _ | client
    · exact .pure (.error rfl)
    · apply (tandem.descendantsOf client _).bindTask Eq.refl
      intro below
      exact .pure (.ok _)
  · exact .pure (.ok _)

/-- The policy of the moment is the same in both surroundings. -/
theorem current :
    tandem.Alongside (OutcomesAlike (ErrorsAlike alike)) (DataAccessPolicy.current p)
      (DataAccessPolicy.current q) := by
  have hsame : tandem.AlwaysAlongside (OutcomesAlike (ErrorsAlike alike))
      (DataAccessPolicy.current p) (DataAccessPolicy.current q) := by
    apply Lockstep.bindGet
    intro s t hst
    rw [← hst.around]
    dsimp only
    split
    · exact .pure (.ok _)
    · exact .pure (.error (.same _))
    · split
      · exact .pure (.ok _)
      · rename_i grant _ _
        have hsites : ∀ e e' : SiteTreeError, e = e' →
            ErrorsAlike alike (.sites e) (.sites e') := by
          rintro e _ rfl
          exact .same (.sites e)
        have hvisible := Lockstep.adapt DataAccessError.sites hsites (tandem.visibleTo grant)
        apply hvisible.bindTask .same
        intro sites
        exact .pure (.ok _)
      · exact .pure (.error (.same _))
  apply hsame.expecting
  intro s hs
  have hworlds : ∀ world, Relation.ReflTransGen (fun before after =>
      ∃ client around, after = (p.store.sitesFor client around before).2) s.world world →
      tandem.Expected world → tandem.Expected s.world := by
    intro world hreads
    induction hreads with
    | refl => exact id
    | tail _ hlast ih =>
      obtain ⟨client, around, rfl⟩ := hlast
      exact fun hafter => ih (tandem.sitesFor_back client around _ hafter)
  exact hworlds _ (current_reading p s).world hs

/-! ### Operations of transactions -/

/-- The sessions of both are asked, and their errors passed on. -/
theorem asking (session : SessionId) (request : SessionCall) (h : request.Plain) :
    tandem.Alongside (OutcomesAlike (ErrorsAlike alike)) (Transaction.call p session request)
      (Transaction.call q session request) :=
  Lockstep.adapt DataAccessError.session (fun _ _ => .session)
    (tandem.ofWorld (tandem.call session request h))

/-- The policy of the moment is put in force on both sides, or on neither. -/
theorem applyPolicy (session : SessionId) :
    tandem.Alongside (OutcomesAlike (ErrorsAlike alike)) (Transaction.applyPolicy p session)
      (Transaction.applyPolicy q session) := by
  unfold Transaction.applyPolicy
  apply tandem.current.bindTask .same
  intro policy
  apply (tandem.asking session _ policy.settings_plain).bindTask .same
  intro _
  exact .pure (.ok policy)

/-- A transaction is begun on both sides, or on neither. -/
theorem beginning :
    tandem.Alongside (OutcomesAlike (ErrorsAlike alike)) (Transaction.begin p)
      (Transaction.begin q) := by
  have hbegin : tandem.Alongside (OutcomesAlike (ErrorsAlike alike))
      (ExceptT.adapt .session (ExceptT.mk (Work.ofWorld p.sessions.begin)))
      (ExceptT.adapt .session (ExceptT.mk (Work.ofWorld q.sessions.begin))) :=
    Lockstep.adapt DataAccessError.session (fun _ _ => .session) (tandem.ofWorld tandem.begin)
  unfold Transaction.begin
  apply hbegin.bindTask .same
  intro session
  exact .pure (.ok _)

/-- The listeners of both are told the same events. -/
theorem emitAll (pending : List ChangeEvent) :
    Lockstep tandem.Agree tandem.Expected (OutcomesAlike (ErrorsAlike alike))
      (fun world => (.ok (), pending.foldl (fun world e => p.emit e world) world))
      (fun world => (.ok (), pending.foldl (fun world e => q.emit e world) world)) := by
  induction pending with
  | nil => exact .pure (.ok ())
  | cons event pending ih =>
    refine ⟨?_, ?_⟩
    · intro world hworld
      exact tandem.emit_back event world (ih.back _ hworld)
    · intro world world' hagree hworld
      exact ih.along _ _ (tandem.emit event world world' hagree) hworld

/-- A transaction is committed on both sides, and the same events are told, or on neither. -/
theorem commit (tx : Transaction) :
    tandem.Alongside (OutcomesAlike (ErrorsAlike alike)) (Transaction.commit p tx)
      (Transaction.commit q tx) := by
  unfold Transaction.commit
  apply (tandem.asking tx.session .commit trivial).bindTask .same
  intro _
  exact tandem.ofWorld (tandem.emitAll tx.pending)

/-- A transaction is rolled back on both sides, or on neither. -/
theorem rollback (tx : Transaction) :
    tandem.Alongside (OutcomesAlike (ErrorsAlike alike)) (Transaction.rollback p tx)
      (Transaction.rollback q tx) := by
  unfold Transaction.rollback
  apply (tandem.asking tx.session .rollback trivial).bindTask .same
  intro _
  exact .pure (.ok ())

section onTransaction

variable {tandem}

/-- What leaves the transaction alone is in lockstep on it. -/
theorem ofTask {m : Task σ DataAccessError α} {m' : Task τ DataAccessError α}
    (h : tandem.Alongside (OutcomesAlike (ErrorsAlike alike)) m m') :
    tandem.AlongsideOn (Transaction.ofTask m) (Transaction.ofTask m') := fun tx =>
  h.map (·, tx) (·, tx) fun _ _ hresult => ⟨hresult, rfl⟩

/-- A value, whatever the transaction. -/
theorem ofPure (value : α) :
    tandem.AlongsideOn (pure value : TransactionTask σ α) (pure value : TransactionTask τ α) :=
  fun _ => .pure ⟨.ok value, rfl⟩

/-- Looking at the transaction, which is the same on both sides. -/
theorem getTransaction :
    tandem.AlongsideOn (getThe Transaction : TransactionTask σ Transaction)
      (getThe Transaction : TransactionTask τ Transaction) :=
  fun tx => .pure ⟨.ok tx, rfl⟩

/-- The same change of the transaction. -/
theorem modifyTransaction (change : Transaction → Transaction) :
    tandem.AlongsideOn (modifyThe Transaction change : TransactionTask σ PUnit)
      (modifyThe Transaction change : TransactionTask τ PUnit) :=
  fun _ => .pure ⟨.ok _, rfl⟩

/-- Computations on a transaction that go on in lockstep. -/
theorem bindOn {β : Type} {m : TransactionTask σ α} {m' : TransactionTask τ α}
    {f : α → TransactionTask σ β} {f' : α → TransactionTask τ β} (h : tandem.AlongsideOn m m')
    (hnext : ∀ value, tandem.AlongsideOn (f value) (f' value)) :
    tandem.AlongsideOn (m >>= f) (m' >>= f') := fun tx =>
  (h tx).bindOn .same fun value tx' => hnext value tx'

end onTransaction

/-- A statement, with the policy of the moment put in force before it. -/
theorem execute (statement : Statement) :
    tandem.AlongsideOn (Transaction.execute p statement) (Transaction.execute q statement) := by
  unfold Transaction.execute
  apply bindOn getTransaction
  intro tx
  apply bindOn (ofTask (tandem.applyPolicy tx.session))
  intro policy
  apply bindOn (ofTask (tandem.asking tx.session (.execute _) trivial))
  intro outcome
  have haround : tandem.Alongside (OutcomesAlike (ErrorsAlike alike))
      (monadLift (Work.around : Work σ Surroundings) : Task σ DataAccessError _)
      (monadLift (Work.around : Work τ Surroundings) : Task τ DataAccessError _) := by
    refine ⟨fun _ hs => hs, ?_⟩
    intro s t hst _
    show OutcomesAlike _ (.ok s.around) (.ok t.around) ∧ tandem.Along s t
    rw [← hst.around]
    exact ⟨.ok _, hst⟩
  apply bindOn (ofTask haround)
  intro around
  apply bindOn (modifyTransaction _)
  intro _
  exact ofPure outcome

/-- Opening a nested scope, whose savepoint has a savepoint name. -/
theorem openNested :
    tandem.AlongsideOn (Transaction.openNested p) (Transaction.openNested q) := by
  unfold Transaction.openNested
  apply bindOn (modifyTransaction _)
  intro _
  apply bindOn getTransaction
  intro tx
  have hname := isSavepointName_savepointName tx.savepoints
  apply bindOn (ofTask (tandem.asking tx.session (.savepoint _) hname))
  intro _
  apply bindOn (ofTask (tandem.applyPolicy tx.session))
  intro _
  exact ofPure _

/-- Releasing a nested scope whose savepoint has a savepoint name. -/
theorem releaseNested {scope : NestedScope} (h : isSavepointName scope.name = true) :
    tandem.AlongsideOn (Transaction.releaseNested p scope)
      (Transaction.releaseNested q scope) := by
  unfold Transaction.releaseNested
  apply bindOn getTransaction
  intro tx
  apply bindOn (ofTask (tandem.asking tx.session (.release scope.name) h))
  intro _
  exact ofPure ()

/-- Rolling back a nested scope whose savepoint has a savepoint name. -/
theorem rollbackNested {scope : NestedScope} (h : isSavepointName scope.name = true) :
    tandem.AlongsideOn (Transaction.rollbackNested p scope)
      (Transaction.rollbackNested q scope) := by
  unfold Transaction.rollbackNested
  apply bindOn getTransaction
  intro tx
  apply bindOn (ofTask (tandem.asking tx.session (.rollbackTo scope.name) h))
  intro _
  apply bindOn (modifyTransaction _)
  intro _
  exact tandem.releaseNested h

/-- A statement in a transaction of its own, which ends in the same way on both sides. -/
theorem executeAlone (statement : Statement) :
    tandem.Alongside (OutcomesAlike (ErrorsAlike alike)) (Transaction.executeAlone p statement)
      (Transaction.executeAlone q statement) := by
  unfold Transaction.executeAlone
  apply tandem.beginning.bindTask .same
  intro tx
  apply Lockstep.bindLift (fun left => ⟨.refl .same left.1, rfl⟩) (tandem.execute statement tx)
  rintro ⟨result, tx'⟩ ⟨result', tx''⟩ ⟨hresult, rfl⟩
  cases hresult with
  | ok outcome =>
    apply (tandem.commit tx').bindTask .same
    intro _
    exact .pure (.ok outcome)
  | error he =>
    apply Lockstep.bindLift (OutcomesAlike.refl .same) (tandem.rollback tx')
    intro _ _ _
    exact .pure (.error he)

end Tandem
end TenantAccess
