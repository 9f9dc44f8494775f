import TenantAccess.Proofs.Events.Tracking

/-!
# Events are told of the work that was committed

Whatever code does on a platform with a ledger, and whichever calls fail: right after the work of a
session has become durable, and only then, listeners are told the events of that work, one for each
statement in it that has one, in the order of the statements.

* `Balanced`: each open transaction tracks its draft, and the history is `Published`.
* `Settles`: what running preserves; one lemma for each operation (up to `Settles.perform`), one for
  each frame (`Settles.framed`), and then for all code (`Code.run_settles`).
* `published_of_run`: so it is for code that starts outside of any frame with an empty ledger.
-/

namespace TenantAccess

variable {σ : Type} {platform : Platform σ}

/-! ### All open transactions -/

/-- The open transaction has a draft in the ledger that it tracks. -/
def Follows (attempts : List (Attempt (σ × Ledger))) (ledger : Ledger) (opened : OpenTransaction) :
    Prop :=
  ∃ draft kept points, ledger.drafts opened.transaction.session = some draft ∧
    Tracks attempts draft opened kept points

/-- Each open transaction follows its draft, no two of them have a session in common, and for those
that are over the history is right. -/
structure Balanced (course : Course (σ × Ledger)) (ledger : Ledger) : Prop where
  sound : ledger.Sound
  follows : ∀ number opened, course.open? number = some opened →
    Follows course.attempts ledger opened
  apart : ∀ number number' opened opened', course.open? number = some opened →
    course.open? number' = some opened' →
    opened.transaction.session = opened'.transaction.session → number = number'
  published : Published course.attempts ledger.history

/-- A transaction still follows its draft after more attempts, as long as the draft is the same. -/
theorem Follows.mono {attempts attempts' : List (Attempt (σ × Ledger))} {ledger ledger' : Ledger}
    {opened : OpenTransaction} (h : Follows attempts ledger opened)
    (hgrown : attempts.Sublist attempts')
    (hdraft : ledger'.drafts opened.transaction.session =
      ledger.drafts opened.transaction.session) : Follows attempts' ledger' opened := by
  obtain ⟨draft, kept, points, hopen, htracks⟩ := h
  exact ⟨draft, kept, points, hdraft.trans hopen, htracks.mono hgrown⟩

namespace Balanced

variable {course course' : Course (σ × Ledger)} {ledger ledger' : Ledger} {number : Nat}
  {opened : OpenTransaction} {draft : Draft}

/-- After a step that leaves the open transactions and their drafts as they are. -/
theorem others (h : Balanced course ledger) (hdesk : course'.desk = course.desk)
    (hgrown : course.attempts.Sublist course'.attempts) (hsound : ledger'.Sound)
    (hdrafts : ∀ session draft, ledger.drafts session = some draft →
      ledger'.drafts session = some draft)
    (hpublished : Published course'.attempts ledger'.history) : Balanced course' ledger' := by
  have hopen : ∀ other, course'.open? other = course.open? other := by
    intro other
    unfold Course.open?
    rw [hdesk]
  have hapart : course'.Apart := Course.Apart.mono h.apart fun other _ hother => hopen other ▸ hother
  refine ⟨hsound, ?_, hapart, hpublished⟩
  intro other opened' hother
  obtain ⟨draft, kept, points, hdraft, htracks⟩ := h.follows other opened' (hopen other ▸ hother)
  exact ⟨draft, kept, points, hdrafts _ _ hdraft, htracks.mono hgrown⟩

/-- After a statement in a session of its own, the next one. -/
theorem note (h : Balanced course ledger) (attempt : Attempt (σ × Ledger)) (hsound : ledger'.Sound)
    (hothers : ∀ other, other ≠ ledger.opened → ledger'.drafts other = ledger.drafts other)
    (hpublished : Published (course.attempts ++ [attempt]) ledger'.history) :
    Balanced (course.note attempt) ledger' :=
  h.others rfl (List.sublist_append_left _ _) hsound
    (fun _ _ => h.sound.drafts_eq_some hothers) hpublished

/-- After a step of one transaction that stays open with a draft that it tracks, or is over. -/
theorem step (h : Balanced course ledger) (hopen : course.open? number = some opened)
    {opened? : Option OpenTransaction} (hdesk : course'.desk = course.desk.set number opened?)
    (hgrown : course.attempts.Sublist course'.attempts) (hsound : ledger'.Sound)
    (hothers : ∀ session, session ≠ opened.transaction.session →
      ledger'.drafts session = ledger.drafts session)
    (hnew : ∀ opened', opened? = some opened' →
      opened'.transaction.session = opened.transaction.session ∧
        Follows course'.attempts ledger' opened')
    (hpublished : Published course'.attempts ledger'.history) : Balanced course' ledger' := by
  have hapart : course'.Apart :=
    Course.Apart.set h.apart hopen hdesk fun opened' hopened => (hnew opened' hopened).1
  refine ⟨hsound, ?_, hapart, hpublished⟩
  intro other opened' hother
  rw [Course.open?_set hopen hdesk] at hother
  split at hother
  · exact (hnew opened' hother).2
  · rename_i hne
    refine (h.follows other opened' hother).mono hgrown (hothers _ ?_)
    intro hsame
    exact hne (h.apart other number opened' opened hother hopen hsame)

/-- After a call on the session of a transaction that was answered and is not a commit. -/
theorem answered (h : Balanced course ledger) (hopen : course.open? number = some opened)
    (hdraft : ledger.drafts opened.transaction.session = some draft) {request : SessionCall}
    (hrefusal : draft.refusal? request = none) {outcome : StatementOutcome}
    {opened? : Option OpenTransaction} (hdesk : course'.desk = course.desk.set number opened?)
    (hgrown : course.attempts.Sublist course'.attempts)
    (hhistory : (ledger.answered opened.transaction.session draft outcome request).history =
      ledger.history)
    (hnew : ∀ opened', opened? = some opened' →
      opened'.transaction.session = opened.transaction.session ∧
        Follows course'.attempts
          (ledger.answered opened.transaction.session draft outcome request) opened') :
    Balanced course' (ledger.answered opened.transaction.session draft outcome request) := by
  refine h.step hopen hdesk hgrown (h.sound.answered hdraft hrefusal outcome) ?_ hnew ?_
  · intro session hne
    exact ledger.drafts_answered draft outcome request hne
  · rw [hhistory]
    exact h.published.mono hgrown

/-- After a step of one transaction that did nothing in the ledger. -/
theorem idle (h : Balanced course ledger) (hopen : course.open? number = some opened)
    {opened? : Option OpenTransaction} (hdesk : course'.desk = course.desk.set number opened?)
    (hgrown : course.attempts.Sublist course'.attempts)
    (hnew : ∀ opened', opened? = some opened' →
      opened'.transaction.session = opened.transaction.session ∧
        Follows course'.attempts ledger opened') : Balanced course' ledger :=
  h.step hopen hdesk hgrown h.sound (fun _ _ => rfl) hnew (h.published.mono hgrown)

/-- After one more transaction was begun, in a session that was not open, or tried to. -/
theorem start (h : Balanced course ledger) {opened? : Option OpenTransaction}
    (hsound : ledger'.Sound)
    (hdrafts : ∀ session draft, ledger.drafts session = some draft →
      ledger'.drafts session = some draft)
    (hhistory : ledger'.history = ledger.history)
    (hnew : ∀ opened, opened? = some opened → Follows course.attempts ledger' opened ∧
      ledger.drafts opened.transaction.session = none) :
    Balanced (course.start opened?) ledger' := by
  -- a transaction from before has an open session, the new one had none
  have hdifferent : ∀ other before opened', course.open? other = some before →
      opened? = some opened' → before.transaction.session ≠ opened'.transaction.session := by
    intro other before opened' hbefore hopened hsame
    obtain ⟨draft, -, -, hdraft, -⟩ := h.follows other before hbefore
    rw [hsame, (hnew opened' hopened).2] at hdraft
    cases hdraft
  refine ⟨hsound, ?_, Course.Apart.start h.apart hdifferent, ?_⟩
  · intro other opened' hother
    rcases Course.open?_start_cases hother with hbefore | ⟨-, hopened⟩
    · obtain ⟨draft, kept, points, hdraft, htracks⟩ := h.follows other opened' hbefore
      exact ⟨draft, kept, points, hdrafts _ _ hdraft, htracks⟩
    · exact (hnew opened' hopened).1
  · rw [hhistory]
    exact h.published

end Balanced

/-! ### What running preserves -/

/-- From one point to another of running code: the surroundings are those of the frames, which are
still the same ones, and if all was balanced, it is again. -/
structure Settles (course : Course (σ × Ledger)) (s : AccessState (σ × Ledger))
    (course' : Course (σ × Ledger)) (t : AccessState (σ × Ledger)) : Prop where
  around : t.around = Layer.surroundings course'.layers
  layers : Layer.Grown course.layers course'.layers
  balanced : Balanced course s.world.2 → Balanced course' t.world.2

namespace Settles

variable {course course' course'' : Course (σ × Ledger)} {s t u : AccessState (σ × Ledger)}
  {number : Nat} {opened : OpenTransaction} {scope : NestedScope} {scopes : List NestedScope}

/-- Where nothing happens all stays balanced. -/
theorem refl (h : s.around = Layer.surroundings course.layers) : Settles course s course s where
  around := h
  layers := .refl _
  balanced := id

/-- Two steps that keep all balanced keep it together. -/
theorem trans (h : Settles course s course' t) (h' : Settles course' t course'' u) :
    Settles course s course'' u where
  around := h'.around
  layers := h.layers.trans h'.layers
  balanced := h'.balanced ∘ h.balanced

/-- An operation between frames. -/
theorem here (h : s.around = Layer.surroundings course.layers) (haround : t.around = s.around)
    (hlayers : course'.layers = course.layers)
    (hbalanced : Balanced course s.world.2 → Balanced course' t.world.2) :
    Settles course s course' t where
  around := by rw [haround, h, hlayers]
  layers := by
    rw [hlayers]
    exact .refl _
  balanced := hbalanced

/-! ### Operations on an open transaction -/

/-- A statement on an open transaction: if it is carried out, its event is pending. -/
theorem runOn (number : Nat) (statement : Statement) (hopen : course.open? number = some opened)
    (h : s.around = Layer.surroundings course.layers) :
    Settles course s (DataCall.runOn platform.withLedger course number statement opened s).1.2
      (DataCall.runOn platform.withLedger course number statement opened s).2 := by
  obtain ⟨result, tx', t, hrun, haround, hledger⟩ :=
    execute_ledger platform opened.transaction statement h
  unfold DataCall.runOn
  rw [hrun]
  refine here h haround rfl ?_
  intro hbalanced
  have hgrown : ∀ attempt, course.attempts.Sublist (course.attempts ++ [attempt]) :=
    fun _ => List.sublist_append_left _ _
  rcases result with e | outcome
  · obtain ⟨rfl, hsame⟩ := hledger
    dsimp only
    rw [hsame]
    refine hbalanced.idle hopen rfl (hgrown _) ?_
    rintro _ ⟨⟩
    exact ⟨rfl, (hbalanced.follows number opened hopen).mono (hgrown _) rfl⟩
  · obtain ⟨draft, sent, hdraft, hequal, hanswered, rfl⟩ := hledger
    dsimp only
    rw [hanswered]
    refine hbalanced.answered hopen hdraft rfl rfl (hgrown _) rfl ?_
    rintro _ ⟨⟩
    obtain ⟨draft', kept, points, hdraft', htracks⟩ := hbalanced.follows number opened hopen
    obtain rfl := Option.some.inj (hdraft.symm.trans hdraft')
    have hsound := (hbalanced.sound.draft _ _ hdraft).2
    exact ⟨rfl, _, _, _, Ledger.drafts_put_self _ _ _,
      htracks.append hsound ⟨rfl, rfl, hequal, rfl⟩⟩

/-- Opening a nested scope of an open transaction: it marks where its savepoint is. -/
theorem openNested (number : Nat) (hopen : course.open? number = some opened)
    (h : s.around = Layer.surroundings course.layers) :
    Settles course s
      (DataCall.performOn platform.withLedger course opened (.openNested number) s).1.2
      (DataCall.performOn platform.withLedger course opened (.openNested number) s).2 := by
  obtain ⟨result, tx', t, hrun, haround, hsession, hpending, hledger⟩ :=
    openNested_ledger platform opened.transaction h
  rcases result with e | scope
  · rw [DataCall.performOn_openNested_error hrun]
    refine here h haround rfl ?_
    intro hbalanced
    obtain ⟨draft, kept, points, hdraft, htracks⟩ := hbalanced.follows number opened hopen
    dsimp only
    rcases hledger with ⟨-, hsame⟩ | ⟨draft', name, outcome, hdraft', hrefusal, hanswered, -⟩
    · rw [hsame]
      refine hbalanced.idle hopen rfl (.refl _) ?_
      rintro _ ⟨⟩
      exact ⟨hsession, draft, kept, points, hsession ▸ hdraft,
        htracks.congr hsession hpending rfl⟩
    · obtain rfl := Option.some.inj (hdraft.symm.trans hdraft')
      rw [hanswered]
      refine hbalanced.answered hopen hdraft hrefusal rfl (.refl _) rfl ?_
      rintro _ ⟨⟩
      refine ⟨hsession, _, kept, points, ?_, (htracks.markOnly name).congr hsession hpending rfl⟩
      rw [hsession]
      exact Ledger.drafts_put_self _ _ _
  · rw [DataCall.performOn_openNested_ok hrun]
    refine here h haround rfl ?_
    intro hbalanced
    obtain ⟨draft, kept, points, hdraft, htracks⟩ := hbalanced.follows number opened hopen
    dsimp only
    rcases hledger with ⟨⟨e, he⟩, -⟩ | ⟨draft', name, outcome, hdraft', hrefusal, hanswered, hscope⟩
    · cases he
    · obtain rfl := Option.some.inj (hdraft.symm.trans hdraft')
      obtain rfl := hscope scope rfl
      rw [hanswered]
      refine hbalanced.answered hopen hdraft hrefusal rfl (.refl _) rfl ?_
      rintro _ ⟨⟩
      refine ⟨hsession, _, kept, _, ?_, (htracks.mark name).congr hsession hpending rfl⟩
      rw [hsession]
      exact Ledger.drafts_put_self _ _ _

/-- Releasing the innermost nested scope, from wherever the transaction has come. -/
theorem released (platform : Platform σ) (hopen : course.open? number = some opened)
    (hscopes : opened.scopes = scope :: scopes)
    (h : s.around = Layer.surroundings course.layers) :
    let ran := Transaction.releaseNested platform.withLedger scope opened.transaction s
    Settles course s (course.put number (some ⟨ran.1.2, scopes⟩)) ran.2 := by
  obtain ⟨result, t, hrun, haround, hledger⟩ :=
    releaseNested_ledger platform opened.transaction scope s
  rw [hrun]
  refine here h haround rfl ?_
  intro hbalanced
  dsimp only
  obtain ⟨draft, kept, points, hdraft, htracks⟩ := hbalanced.follows number opened hopen
  rcases hledger with hsame | ⟨draft', outcome, hdraft', hrefusal, hanswered⟩
  · rw [hsame]
    refine hbalanced.idle hopen rfl (.refl _) ?_
    rintro _ ⟨⟩
    refine ⟨rfl, draft, kept, points.tail, hdraft, htracks.drop.congr rfl rfl ?_⟩
    rw [hscopes]
    rfl
  · obtain rfl := Option.some.inj (hdraft.symm.trans hdraft')
    rw [hanswered]
    refine hbalanced.answered hopen hdraft hrefusal rfl (.refl _) rfl ?_
    rintro _ ⟨⟩
    have hsound := (hbalanced.sound.draft _ _ hdraft).2
    exact ⟨rfl, _, kept, points.tail, Ledger.drafts_put_self _ _ _,
      htracks.release hsound hscopes⟩

/-- Going back to the savepoint of the innermost nested scope. -/
theorem wentBack (hopen : course.open? number = some opened)
    (hscopes : opened.scopes = scope :: scopes)
    (h : s.around = Layer.surroundings course.layers) (haround : t.around = s.around)
    {draft : Draft} {outcome : StatementOutcome}
    (hdraft : s.world.2.drafts opened.transaction.session = some draft)
    (hrefusal : draft.refusal? (.rollbackTo scope.name) = none)
    (hledger : t.world.2 =
      s.world.2.answered opened.transaction.session draft outcome (.rollbackTo scope.name)) :
    Settles course s (course.put number
      (some (opened.withPending (opened.transaction.pending.take scope.mark)))) t := by
  refine here h haround rfl ?_
  intro hbalanced
  obtain ⟨draft', kept, points, hdraft', htracks⟩ := hbalanced.follows number opened hopen
  obtain rfl := Option.some.inj (hdraft.symm.trans hdraft')
  rw [hledger]
  refine hbalanced.answered hopen hdraft hrefusal rfl (.refl _) rfl ?_
  rintro _ ⟨⟩
  have hsound := (hbalanced.sound.draft _ _ hdraft).2
  obtain ⟨kept', hback⟩ := htracks.rollbackTo hsound hscopes
  exact ⟨rfl, _, kept', points, Ledger.drafts_put_self _ _ _, hback⟩

/-- Rolling the innermost nested scope back, which is then no longer used. -/
theorem rolledBack (platform : Platform σ) (hopen : course.open? number = some opened)
    (hscopes : opened.scopes = scope :: scopes)
    (h : s.around = Layer.surroundings course.layers) :
    let ran := Transaction.rollbackNested platform.withLedger scope opened.transaction s
    Settles course s (course.put number (some ⟨ran.1.2, scopes⟩)) ran.2 := by
  rcases rollbackNested_ledger platform opened.transaction scope s with
    ⟨result, t, hrun, hsame⟩ | ⟨draft, outcome, t, hdraft, hrefusal, haround, hledger, hrun⟩
  · rw [hrun]
    refine here h hsame.around rfl ?_
    intro hbalanced
    dsimp only
    obtain ⟨draft, kept, points, hdraft, htracks⟩ := hbalanced.follows number opened hopen
    rw [hsame.ledger]
    refine hbalanced.idle hopen rfl (.refl _) ?_
    rintro _ ⟨⟩
    refine ⟨rfl, draft, kept, points.tail, hdraft, htracks.drop.congr rfl rfl ?_⟩
    rw [hscopes]
    rfl
  · have hback := wentBack hopen hscopes h haround hdraft hrefusal hledger
    have hopen' : (course.put number (some (opened.withPending
        (opened.transaction.pending.take scope.mark)))).open? number =
          some (opened.withPending (opened.transaction.pending.take scope.mark)) :=
      (Course.open?_set hopen rfl number).trans (if_pos rfl)
    have hreleased := released platform hopen' hscopes hback.around
    have hput : ∀ first second, (course.put number first).put number second =
        course.put number second := by
      intro first second
      unfold Course.put
      rw [List.set_set]
    dsimp only at hreleased
    rw [hput] at hreleased
    rw [hrun]
    exact hback.trans hreleased

/-- The end of an open transaction that leaves no work. -/
theorem closed (hopen : course.open? number = some opened)
    (h : s.around = Layer.surroundings course.layers) (haround : t.around = s.around)
    (hledger : t.world.2 = s.world.2 ∨
      t.world.2 = s.world.2.put opened.transaction.session none) :
    Settles course s (course.put number none) t := by
  refine here h haround rfl ?_
  intro hbalanced
  rcases hledger with hsame | hput
  · rw [hsame]
    exact hbalanced.idle hopen rfl (.refl _) (by simp)
  · obtain ⟨draft, kept, points, hdraft, -⟩ := hbalanced.follows number opened hopen
    rw [hput]
    exact hbalanced.step hopen rfl (.refl _) (hbalanced.sound.put hdraft (by simp))
      (fun _ hne => Ledger.drafts_put_other _ _ hne) (by simp) hbalanced.published

/-- The commit of an open transaction: its events are those of its draft. -/
theorem committed (platform : Platform σ) (hopen : course.open? number = some opened)
    (h : s.around = Layer.surroundings course.layers) :
    Settles course s (course.put number none)
      (Transaction.commit platform.withLedger opened.transaction s).2 := by
  obtain ⟨result, t, hrun, haround, hledger⟩ := commit_ledger platform opened.transaction s
  rw [hrun]
  rcases result with e | ⟨⟩
  · exact closed hopen h haround (.inl hledger)
  · refine here h haround rfl ?_
    intro hbalanced
    obtain ⟨draft, hdraft, hcommitted⟩ := hledger
    obtain ⟨draft', kept, points, hdraft', htracks⟩ := hbalanced.follows number opened hopen
    obtain rfl := Option.some.inj (hdraft.symm.trans hdraft')
    dsimp only
    rw [hcommitted]
    refine hbalanced.step hopen rfl (.refl _) (hbalanced.sound.commit hdraft _)
      (fun _ hne => Ledger.drafts_put_other _ _ hne) (by simp) ?_
    rw [htracks.pending]
    refine hbalanced.published.commit ?_ htracks.kept_sublist htracks.wrote
    intro before hbefore
    have hclosed := (hbalanced.sound.committed _ _ hbefore).2
    rw [hdraft] at hclosed
    cases hclosed

/-- Whatever operation is carried out on an open transaction. -/
theorem performOn (request : DataCall) (hnumber : request.number? = some number)
    (hopen : course.open? number = some opened)
    (h : s.around = Layer.surroundings course.layers) :
    Settles course s (DataCall.performOn platform.withLedger course opened request s).1.2
      (DataCall.performOn platform.withLedger course opened request s).2 := by
  cases request with
  | executeAlone statement => cases hnumber
  | begin => cases hnumber
  | execute number' statement =>
    obtain rfl := Option.some.inj hnumber
    exact runOn number' statement hopen h
  | openNested number' =>
    obtain rfl := Option.some.inj hnumber
    exact openNested number' hopen h
  | releaseNested number' =>
    obtain rfl := Option.some.inj hnumber
    unfold DataCall.performOn
    rcases hscopes : opened.scopes with _ | ⟨scope, scopes⟩
    · exact refl h
    · exact released platform hopen hscopes h
  | rollbackNested number' =>
    obtain rfl := Option.some.inj hnumber
    unfold DataCall.performOn
    rcases hscopes : opened.scopes with _ | ⟨scope, scopes⟩
    · exact refl h
    · exact rolledBack platform hopen hscopes h
  | dropNested number' =>
    obtain rfl := Option.some.inj hnumber
    refine here h rfl rfl ?_
    intro hbalanced
    refine hbalanced.idle hopen rfl (.refl _) ?_
    rintro _ ⟨⟩
    obtain ⟨draft, kept, points, hdraft, htracks⟩ := hbalanced.follows _ opened hopen
    exact ⟨rfl, draft, kept, points.tail, hdraft, htracks.drop⟩
  | commit number' =>
    obtain rfl := Option.some.inj hnumber
    exact committed platform hopen h
  | rollback number' =>
    obtain rfl := Option.some.inj hnumber
    obtain ⟨result, t, hrun, haround, hledger⟩ := rollback_ledger platform opened.transaction s
    have hclosed : Settles course s (course.put number' none)
        (Transaction.rollback platform.withLedger opened.transaction s).2 := by
      rw [hrun]
      exact closed hopen h haround hledger
    exact hclosed
  | drop number' =>
    obtain rfl := Option.some.inj hnumber
    obtain ⟨haround, hledger⟩ := abandon_ledger platform opened.transaction s
    exact closed hopen h haround hledger

/-- Whatever operation is carried out on the transaction that it is on. -/
theorem performOpen (request : DataCall) (h : s.around = Layer.surroundings course.layers) :
    Settles course s (DataCall.performOpen platform.withLedger course request s).1.2
      (DataCall.performOpen platform.withLedger course request s).2 := by
  unfold DataCall.performOpen
  rcases hnumber : request.number? with _ | number
  · exact refl h
  · rw [Option.bind_some]
    rcases hopen : course.open? number with _ | opened
    · exact refl h
    · exact performOn request hnumber hopen h

/-! ### Operations on no open transaction -/

/-- Beginning a transaction: it has nothing pending, and an empty draft. -/
theorem began (platform : Platform σ) (h : s.around = Layer.surroundings course.layers) :
    Settles course s (DataCall.begin.perform platform.withLedger course s).1.2
      (DataCall.begin.perform platform.withLedger course s).2 := by
  obtain ⟨result, t, hrun, haround, hledger⟩ := begin_ledger platform s
  have hperform : DataCall.begin.perform platform.withLedger course s =
      let ran := Transaction.begin platform.withLedger s
      ((reply ran.1, course.start (ran.1.toOption.map ({ transaction := · }))), ran.2) := rfl
  rw [hperform, hrun]
  refine here h haround rfl ?_
  intro hbalanced
  dsimp only
  rcases result with e | tx
  · rw [hledger]
    refine hbalanced.start hbalanced.sound (fun _ _ => id) rfl ?_
    rintro _ ⟨⟩
  · obtain ⟨rfl, inner, hopening⟩ := hledger
    have hfresh := hbalanced.sound.drafts_opened
    rw [hopening]
    refine hbalanced.start (hbalanced.sound.opening inner) ?_ rfl ?_
    · intro session draft
      exact hbalanced.sound.drafts_eq_some fun _ hne => Ledger.drafts_put_other _ _ hne
    · rintro _ ⟨⟩
      refine ⟨⟨{ inner }, [], [], Ledger.drafts_put_self _ _ _, ?_⟩, hfresh⟩
      exact ⟨List.nil_sublist _, .nil, rfl, .slnil, .nil⟩

/-- A statement in a transaction of its own. -/
theorem alone (platform : Platform σ) (statement : Statement)
    (h : s.around = Layer.surroundings course.layers) :
    Settles course s (DataCall.runAlone platform.withLedger course statement s).1.2
      (DataCall.runAlone platform.withLedger course statement s).2 := by
  obtain ⟨result, t, hrun, haround, hlone, hhistory⟩ := executeAlone_ledger platform statement h
  unfold DataCall.runAlone
  rw [hrun]
  rcases hbegin : Transaction.begin platform.withLedger s with ⟨e | tx, opened⟩
  · -- without a transaction there is no statement
    obtain ⟨rfl, -⟩ := Prod.mk.inj (hrun.symm.trans (executeAlone_of_error hbegin))
    refine here h haround rfl fun hbalanced => ?_
    exact hbalanced.others rfl (.refl _) (hlone.sound hbalanced.sound)
      (fun _ _ => hbalanced.sound.drafts_eq_some hlone.others) (hhistory ▸ hbalanced.published)
  · refine here h haround rfl fun hbalanced => ?_
    refine hbalanced.note _ (hlone.sound hbalanced.sound) hlone.others ?_
    have hpublished := fun attempt => hbalanced.published.mono
      (List.sublist_append_left course.attempts [attempt])
    rcases result with e | outcome
    · dsimp only at hhistory ⊢
      rw [hhistory]
      exact hpublished _
    · obtain ⟨number, sent, hequal, hbegun, hhistory⟩ := hhistory
      obtain ⟨hsession, hnumber⟩ := hbegun tx opened hbegin
      let attempt : Attempt (σ × Ledger) :=
        ⟨course.layers, tx.session, statement, opened, .ok outcome, t⟩
      have htold : (Layer.event? course.layers statement outcome).toList =
          [attempt].filterMap Attempt.event? := by
        rcases hevent : Layer.event? course.layers statement outcome with _ | event <;>
          simp [Attempt.event?, attempt, hevent]
      rw [hhistory, htold]
      refine (hpublished attempt).commit ?_ (List.sublist_append_right _ _)
        (.cons ⟨hsession, hnumber, hequal, rfl⟩ .nil)
      intro before hbefore
      exact Nat.lt_irrefl _ (hbalanced.sound.committed _ _ hbefore).1

/-- Whatever operation is carried out. -/
theorem perform (platform : Platform σ) (request : DataCall)
    (h : s.around = Layer.surroundings course.layers) :
    Settles course s (request.perform platform.withLedger course s).1.2
      (request.perform platform.withLedger course s).2 := by
  obtain ⟨statement, rfl⟩ | rfl | hopen := request.perform_cases platform.withLedger course
  · exact alone platform statement h
  · exact began platform h
  · rw [hopen]
    exact performOpen request h

/-! ### Frames -/

/-- Attaching a grant preserves it. -/
theorem attached (grant : EffectiveGrant) (h : s.around = Layer.surroundings course.layers) :
    Settles course s { course with layers := Layer.attach grant course.layers }
      (Work.attachGrant grant s).2 := by
  rw [Layer.attachGrant_apply h]
  refine ⟨rfl, .attach grant _, fun hbalanced => ?_⟩
  exact ⟨hbalanced.sound, hbalanced.follows, hbalanced.apart, hbalanced.published⟩

/-- What the code in a frame preserves is preserved around it. -/
theorem framed (frame : Frame) (h : s.around = Layer.surroundings course.layers)
    (hsettles : Settles { course with layers := frame.layer :: course.layers }
      (frame.entered platform.withLedger s) course' t) :
    Settles course s { course' with layers := course'.layers.tail }
      { t with around := frame.left s.around t.around } := by
  have hentered : (frame.entered platform.withLedger s).world.2 = s.world.2 := by
    rcases frame.entered_world platform.withLedger s with hsame | ⟨entry, haudit⟩
    · rw [hsame]
    · rw [haudit]
      rfl
  obtain ⟨haround, hlayers, hbalanced⟩ := hsettles
  obtain ⟨hgrown, hleft⟩ := frame.left_grown hlayers
  refine ⟨?_, hgrown, fun hbefore => ?_⟩
  · show frame.left s.around t.around = _
    rw [h, haround, hleft]
  · rw [hentered] at hbalanced
    have hafter := hbalanced ⟨hbefore.sound, hbefore.follows, hbefore.apart, hbefore.published⟩
    exact ⟨hafter.sound, hafter.follows, hafter.apart, hafter.published⟩

end Settles

/-! ### Running code -/

/-- Running any code preserves it. -/
theorem Code.run_settles (platform : Platform σ) (code : Code) {course : Course (σ × Ledger)}
    {s : AccessState (σ × Ledger)} (h : s.around = Layer.surroundings course.layers) :
    Settles course s (code.run platform.withLedger course s).1
      (code.run platform.withLedger course s).2 := by
  induction code generalizing course s with
  | done => exact .refl h
  | call request next ih =>
    have hcall := Settles.perform platform request h
    exact hcall.trans (ih _ hcall.around)
  | attach grant next ih =>
    have hattach : Settles course s _ _ := .attached grant h
    exact hattach.trans (ih hattach.around)
  | framed frame body next ihBody ihNext =>
    have hframe : Settles course s _ _ :=
      .framed frame h (ihBody (frame.entered_around platform.withLedger h))
    have hnext := ihNext hframe.around
    rw [Code.run_framed, frame.enclose_eq]
    exact hframe.trans hnext

/-- The state with an empty ledger, outside of any frame. -/
def AccessState.withLedger (s : AccessState σ) : AccessState (σ × Ledger) where
  world := (s.world, {})
  grants := s.grants
  sites := s.sites

/-- With nothing open yet, nothing can be out of balance. -/
theorem Balanced.beginning (s : AccessState σ) :
    Balanced ({} : Course (σ × Ledger)) s.withLedger.world.2 := by
  refine ⟨.empty, ?_, ?_, .nothing⟩
  · rintro number opened hopen
    simp [Course.open?] at hopen
  · rintro number number' opened opened' hopen
    simp [Course.open?] at hopen

/-- Events are told of nothing but work that was committed, and of all of that: whatever code does
from outside of any frame, and whichever calls the platform lets fail, the events of a session are
told right after its work has become durable, one for each statement of that work that has a target
and affected rows, in their order, with that target and number of rows and on behalf of the unit of
work in which the statement was called. -/
theorem published_of_run (platform : Platform σ) (code : Code) (s : AccessState σ) :
    Published (code.run platform.withLedger {} s.withLedger).1.attempts
      (code.run platform.withLedger {} s.withLedger).2.world.2.history := by
  exact ((code.run_settles platform rfl).balanced (.beginning s)).published

end TenantAccess
