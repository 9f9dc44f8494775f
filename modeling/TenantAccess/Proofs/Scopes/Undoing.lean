import TenantAccess.Proofs.Scopes.Alike

/-!
# Code whose failed nested scopes are undone

Code is run on a platform with a ledger, as it is, and such that every nested scope that could not
be opened is as if it had not been asked for.  Both runs come to the same, apart from the numbers of
nested scopes.

* `DataCall.performUndoing`: an operation, undone if it is a nested scope that could not be opened.
* `Twins`: two points that code has come to, whose open transactions stand for each other.
* `Twins.perform`: what an operation preserves.
* `Code.carryOut`: what code calls and is told with some way to carry operations out.
* `Code.carried`, `Code.undone`: as they are, and with failed nested scopes undone.
* `Code.carried_twins`: what a whole run preserves.
-/

namespace TenantAccess

variable {σ : Type}

/-! ### Operations -/

namespace DataCall

/-- The operation opens a nested scope of the transaction with a number. -/
def opens (number : Nat) : DataCall → Bool
  | openNested other => other = number
  | _ => false

/-- Carry an operation out, but leave the transaction and the ledger as they are where a nested
scope could not be opened. -/
def performUndoing (platform : Platform σ) (course : Course (σ × Ledger)) (request : DataCall) :
    Work (σ × Ledger) (Reply × Course (σ × Ledger)) := fun s =>
  let after := request.perform platform.withLedger course s
  match request, after.1.1 with
  | .openNested _, some (.error e) =>
    ((some (.error e), course), after.2.withWorldLedger s.world.2)
  | _, _ => after

variable {platform : Platform σ} {course : Course σ} {request : DataCall} {number : Nat}
  {opened : OpenTransaction}

/-- An operation on an open transaction. -/
theorem perform_of_open (request : DataCall) (hnumber : request.number? = some number)
    (hopen : course.open? number = some opened) :
    request.perform platform course = performOn platform course opened request := by
  have hperform : request.perform platform course = request.performOpen platform course := by
    cases request <;> first | rfl | cases hnumber
  rw [hperform]
  unfold performOpen
  rw [hnumber, Option.bind_some, hopen]

/-- An operation on a transaction that is not open. -/
theorem perform_of_none (request : DataCall) (hnumber : request.number? = some number)
    (hopen : course.open? number = none) :
    request.perform platform course = pure (none, course) := by
  have hperform : request.perform platform course = request.performOpen platform course := by
    cases request <;> first | rfl | cases hnumber
  rw [hperform]
  unfold performOpen
  rw [hnumber, Option.bind_some, hopen]

section undoing

variable {course : Course (σ × Ledger)} {s t : AccessState (σ × Ledger)}

/-- Only the opening of a nested scope is ever undone. -/
theorem performUndoing_of_ne (h : ∀ number, request ≠ .openNested number) :
    request.performUndoing platform course = request.perform platform.withLedger course := by
  cases request with
  | openNested number => exact absurd rfl (h number)
  | _ => rfl

/-- Where the transaction is not open, no nested scope is asked for. -/
theorem performUndoing_none (hopen : course.open? number = none) :
    (openNested number).performUndoing platform course s = ((none, course), s) := by
  unfold performUndoing
  rw [perform_of_none (.openNested number) rfl hopen]
  rfl

/-- A nested scope that could be opened is not undone. -/
theorem performUndoing_ok {scope : NestedScope} {transaction : Transaction}
    (hopen : course.open? number = some opened)
    (h : Transaction.openNested platform.withLedger opened.transaction s =
      ((.ok scope, transaction), t)) :
    (openNested number).performUndoing platform course s =
      ((reply (.ok scope), course.put number (some ⟨transaction, scope :: opened.scopes⟩)), t) := by
  unfold performUndoing
  rw [perform_of_open (.openNested number) rfl hopen, performOn_openNested_ok h]
  rfl

/-- Of a nested scope that could not be opened only the failure is told. -/
theorem performUndoing_error {e : DataAccessError} {transaction : Transaction}
    (hopen : course.open? number = some opened)
    (h : Transaction.openNested platform.withLedger opened.transaction s =
      ((.error e, transaction), t)) :
    (openNested number).performUndoing platform course s =
      ((some (.error e), course), t.withWorldLedger s.world.2) := by
  unfold performUndoing
  rw [perform_of_open (.openNested number) rfl hopen, performOn_openNested_error h]
  rfl

end undoing

end DataCall

/-- Undoing preserves what carrying out does. -/
theorem Settles.performUndoing (platform : Platform σ) (request : DataCall)
    {course : Course (σ × Ledger)} {s : AccessState (σ × Ledger)}
    (h : s.around = Layer.surroundings course.layers) :
    Settles course s (request.performUndoing platform course s).1.2
      (request.performUndoing platform course s).2 := by
  have hperform := Settles.perform platform request h
  by_cases hopens : ∃ number, request = .openNested number
  · obtain ⟨number, rfl⟩ := hopens
    rcases hopen : course.open? number with _ | opened
    · rw [DataCall.performUndoing_none hopen]
      exact .refl h
    · rw [DataCall.perform_of_open (.openNested number) rfl hopen] at hperform
      obtain ⟨result, transaction, t, hrun, haround, -⟩ :=
        openNested_ledger platform opened.transaction h
      rcases result with e | scope
      · -- the ledger is the one before, and so is the course
        rw [DataCall.performUndoing_error hopen hrun]
        exact .here h haround rfl id
      · rw [DataCall.performUndoing_ok hopen hrun]
        rw [DataCall.performOn_openNested_ok hrun] at hperform
        exact hperform
  · rw [DataCall.performUndoing_of_ne fun number hsame => hopens ⟨number, hsame⟩]
    exact hperform

/-! ### Two runs of code -/

/-- The surroundings are those of the frames, and the open transactions follow their drafts. -/
structure Settled (course : Course (σ × Ledger)) (s : AccessState (σ × Ledger)) : Prop where
  around : s.around = Layer.surroundings course.layers
  balanced : Balanced course s.world.2

/-- What settles keeps the course settled. -/
theorem Settles.settled {course course' : Course (σ × Ledger)} {s t : AccessState (σ × Ledger)}
    (h : Settles course s course' t) (hsettled : Settled course s) : Settled course' t :=
  ⟨h.around, h.balanced hsettled.balanced⟩

/-- Two points that code has come to: the same is known around them, and the open transactions stand
for each other, each with room for as many more nested scopes. -/
structure Twins (platform : Platform σ) (room : Nat → Nat) (course course' : Course (σ × Ledger))
    (s t : AccessState (σ × Ledger)) : Prop where
  along : platform.bareTandem.Along s t
  places : course.desk.length = course'.desk.length
  few : ∀ number, room number < 2 ^ 32
  twin : ∀ number, Option.Rel (Twin (room number) s.world.2 t.world.2) (course.open? number)
    (course'.open? number)
  settled : Settled course s
  settled' : Settled course' t

/-- Putting a transaction back where it is changes nothing. -/
theorem Course.set_open? {course : Course σ} {number : Nat} {opened : OpenTransaction}
    (hopen : course.open? number = some opened) :
    course.desk.set number (some opened) = course.desk := by
  obtain ⟨hlt, hplace⟩ := List.getElem?_eq_some_iff.mp (Option.join_eq_some_iff.mp hopen)
  rw [← hplace]
  exact List.set_getElem_self hlt

namespace Twins

variable {platform : Platform σ} {room room' : Nat → Nat}
  {course course' after after' : Course (σ × Ledger)} {s t u v : AccessState (σ × Ledger)}
  {number : Nat} {opened opened' : OpenTransaction}

/-- Open transactions still stand for each other when nothing happened in their sessions. -/
theorem later (h : Twins platform room course course' s t)
    (hroom : ∀ other, room' other ≤ room other)
    (hothers : ∀ session, session < s.world.2.opened →
      u.world.2.drafts session = s.world.2.drafts session)
    (hothers' : ∀ session, session < s.world.2.opened →
      v.world.2.drafts session = t.world.2.drafts session) (number : Nat) :
    Option.Rel (Twin (room' number) u.world.2 v.world.2) (course.open? number)
      (course'.open? number) := by
  have htwin := h.twin number
  rcases hopen : course.open? number with _ | opened <;>
    rcases hopen' : course'.open? number with _ | opened' <;> rw [hopen, hopen'] at htwin
  · exact .none
  · cases htwin
  · cases htwin
  · obtain ⟨htwin⟩ := htwin
    obtain ⟨draft, -, -, hdraft, -⟩ := h.settled.balanced.follows number opened hopen
    have hlt := (h.settled.balanced.sound.draft _ _ hdraft).1
    exact .some (htwin.mono (hroom number) (hothers _ hlt) (hothers' _ hlt))

/-- After a step that leaves the open transactions and their drafts alone. -/
theorem keep (h : Twins platform room course course' s t)
    (hroom : ∀ other, room' other ≤ room other) (halong : platform.bareTandem.Along u v)
    (hdesk : after.desk = course.desk)
    (hdesk' : after'.desk = course'.desk) (hsettles : Settles course s after u)
    (hsettles' : Settles course' t after' v)
    (hothers : ∀ session, session < s.world.2.opened →
      u.world.2.drafts session = s.world.2.drafts session)
    (hothers' : ∀ session, session < s.world.2.opened →
      v.world.2.drafts session = t.world.2.drafts session) :
    Twins platform room' after after' u v where
  along := halong
  places := by rw [hdesk, hdesk', h.places]
  few number := (hroom number).trans_lt (h.few number)
  twin number := by
    have htwin := h.later hroom hothers hothers' number
    unfold Course.open? at htwin ⊢
    rw [hdesk, hdesk']
    exact htwin
  settled := hsettles.settled h.settled
  settled' := hsettles'.settled h.settled'

/-- After one more transaction was begun on both sides, or tried to. -/
theorem start (h : Twins platform room course course' s t)
    (hroom : ∀ other, room' other ≤ room other) {opened? opened'? : Option OpenTransaction}
    (halong : platform.bareTandem.Along u v) (hsettles : Settles course s (course.start opened?) u)
    (hsettles' : Settles course' t (course'.start opened'?) v)
    (hothers : ∀ session, session < s.world.2.opened →
      u.world.2.drafts session = s.world.2.drafts session)
    (hothers' : ∀ session, session < s.world.2.opened →
      v.world.2.drafts session = t.world.2.drafts session)
    (hnew : ∀ number, Option.Rel (Twin (room' number) u.world.2 v.world.2) opened? opened'?) :
    Twins platform room' (course.start opened?) (course'.start opened'?) u v where
  along := halong
  places := by
    unfold Course.start
    simp [h.places]
  few number := (hroom number).trans_lt (h.few number)
  twin number := by
    rw [Course.open?_start, Course.open?_start, ← h.places]
    split
    · exact hnew number
    · exact h.later hroom hothers hothers' number
  settled := hsettles.settled h.settled
  settled' := hsettles'.settled h.settled'

/-- After a step of one transaction that stays open on both sides, or is over on both. -/
theorem step (h : Twins platform room course course' s t)
    (hroom : ∀ other, room' other ≤ room other)
    (hopen : course.open? number = some opened) (hopen' : course'.open? number = some opened')
    {opened? opened'? : Option OpenTransaction}
    (hdesk : after.desk = course.desk.set number opened?)
    (hdesk' : after'.desk = course'.desk.set number opened'?)
    (hstepped : Stepped platform (room' number) opened.transaction.session s t opened? opened'? u v)
    (hsettles : Settles course s after u) (hsettles' : Settles course' t after' v) :
    Twins platform room' after after' u v where
  along := hstepped.along
  places := by rw [hdesk, hdesk', List.length_set, List.length_set, h.places]
  few number := (hroom number).trans_lt (h.few number)
  twin other := by
    have htwin := h.twin other
    rw [Course.open?_set hopen hdesk, Course.open?_set hopen' hdesk']
    split
    · rename_i hsame
      rw [hsame]
      exact hstepped.twin
    · rename_i hne
      rcases hother : course.open? other with _ | before <;>
        rcases hother' : course'.open? other with _ | before' <;> rw [hother, hother'] at htwin
      · exact .none
      · cases htwin
      · cases htwin
      · obtain ⟨htwin⟩ := htwin
        have hapart : before.transaction.session ≠ opened.transaction.session := fun hsame =>
          hne (h.settled.balanced.apart other number before opened hother hopen hsame)
        exact .some (htwin.mono (hroom other) (hstepped.others _ hapart)
          (hstepped.others' _ hapart))
  settled := hsettles.settled h.settled
  settled' := hsettles'.settled h.settled'

/-- Nothing happened on either side. -/
theorem idle (h : Twins platform room course course' s t)
    (hroom : ∀ other, room' other ≤ room other) : Twins platform room' course course' s t :=
  h.keep hroom h.along rfl rfl (.refl h.settled.around) (.refl h.settled'.around)
    (fun _ _ => rfl) fun _ _ => rfl

/-! ### Operations on an open transaction -/

/-- The operation is told the same on both sides, and is a step of the transaction with a number. -/
def StepsAlike (platform : Platform σ) (room number : Nat) (session : SessionId)
    (course course' : Course (σ × Ledger)) (s t : AccessState (σ × Ledger))
    (left right : (Reply × Course (σ × Ledger)) × AccessState (σ × Ledger)) : Prop :=
  left.1.1 = right.1.1 ∧ ∃ opened? opened'?, left.1.2.desk = course.desk.set number opened? ∧
    right.1.2.desk = course'.desk.set number opened'? ∧
    Stepped platform room session s t opened? opened'? left.2 right.2

/-- A nested scope that could not be opened is undone. -/
theorem openNested_steps (hnameless : platform.Nameless)
    (hst : platform.bareTandem.Along s t) {space : Nat}
    (hopen : course.open? number = some opened) (hopen' : course'.open? number = some opened')
    (htwin : Twin (space + 1) s.world.2 t.world.2 opened opened') :
    StepsAlike platform space number opened.transaction.session course course' s t
      ((DataCall.openNested number).perform platform.withLedger course s)
      ((DataCall.openNested number).performUndoing platform course' t) := by
  have halike := openNested_alike hnameless hst htwin
  rcases hrun : Transaction.openNested platform.withLedger opened.transaction s with
    ⟨⟨result, transaction⟩, u⟩
  rcases hrun' : Transaction.openNested platform.withLedger opened'.transaction t with
    ⟨⟨result', transaction'⟩, v⟩
  rw [hrun, hrun'] at halike
  rw [DataCall.perform_of_open (.openNested number) rfl hopen]
  rcases halike with ⟨e, he, he', hstepped⟩ | ⟨scope, scope', hscope, hscope', hstepped⟩
  · obtain rfl : result = .error e := he
    obtain rfl : result' = .error e := he'
    rw [DataCall.performOn_openNested_error hrun, DataCall.performUndoing_error hopen' hrun']
    exact ⟨rfl, _, _, rfl, (Course.set_open? hopen').symm, hstepped⟩
  · obtain rfl : result = .ok scope := hscope
    obtain rfl : result' = .ok scope' := hscope'
    rw [DataCall.performOn_openNested_ok hrun, DataCall.performUndoing_ok hopen' hrun']
    exact ⟨rfl, _, _, rfl, rfl, hstepped⟩

/-- Any other operation is carried out as it is. -/
theorem performOn_steps (hnameless : platform.Nameless) (h : Twins platform room course course' s t)
    {request : DataCall} (hopens : ∀ number, request ≠ .openNested number)
    (hnumber : request.number? = some number) (hopen : course.open? number = some opened)
    (hopen' : course'.open? number = some opened') {space : Nat}
    (htwin : Twin space s.world.2 t.world.2 opened opened') :
    StepsAlike platform space number opened.transaction.session course course' s t
      (DataCall.performOn platform.withLedger course opened request s)
      (DataCall.performOn platform.withLedger course' opened' request t) := by
  have hst := h.along
  have hsound := h.settled.balanced.sound
  have hsound' := h.settled'.balanced.sound
  have hstill : StepsAlike platform space number opened.transaction.session course course' s t
      ((none, course), s) ((none, course'), t) :=
    ⟨rfl, _, _, (Course.set_open? hopen).symm, (Course.set_open? hopen').symm, hst,
      fun _ _ => rfl, fun _ _ => rfl, .some htwin⟩
  obtain ⟨transaction, scopes⟩ := opened
  obtain ⟨transaction', scopes'⟩ := opened'
  cases request with
  | executeAlone statement => cases hnumber
  | begin => cases hnumber
  | execute number' statement =>
    obtain rfl : number' = number := Option.some.inj hnumber
    obtain ⟨hresult, hstepped⟩ := execute_alike hst statement htwin
    exact ⟨congrArg some hresult, _, _, rfl, rfl, hstepped⟩
  | openNested number' => exact absurd rfl (hopens number')
  | releaseNested number' =>
    obtain rfl : number' = number := Option.some.inj hnumber
    rcases htwin.scopes_cases with ⟨rfl, rfl⟩ | ⟨scope, scopes, scope', scopes', rfl, rfl⟩
    · exact hstill
    · obtain ⟨hresult, hstepped⟩ := releaseNested_alike hnameless hst hsound hsound' htwin
      exact ⟨congrArg reply hresult, _, _, rfl, rfl, hstepped⟩
  | rollbackNested number' =>
    obtain rfl : number' = number := Option.some.inj hnumber
    rcases htwin.scopes_cases with ⟨rfl, rfl⟩ | ⟨scope, scopes, scope', scopes', rfl, rfl⟩
    · exact hstill
    · obtain ⟨hresult, hstepped⟩ := rollbackNested_alike hnameless hst hsound hsound' htwin
      exact ⟨congrArg reply hresult, _, _, rfl, rfl, hstepped⟩
  | dropNested number' =>
    obtain rfl : number' = number := Option.some.inj hnumber
    refine ⟨rfl, _, _, rfl, rfl, hst, fun _ _ => rfl, fun _ _ => rfl, .some ?_⟩
    rcases htwin.scopes_cases with ⟨rfl, rfl⟩ | ⟨scope, scopes, scope', scopes', rfl, rfl⟩
    · exact htwin
    · exact htwin.drop
  | commit number' =>
    obtain rfl : number' = number := Option.some.inj hnumber
    obtain ⟨hresult, hstepped⟩ := commit_alike hst htwin
    exact ⟨congrArg reply hresult, _, _, rfl, rfl, hstepped⟩
  | rollback number' =>
    obtain rfl : number' = number := Option.some.inj hnumber
    obtain ⟨hresult, hstepped⟩ := rollback_alike hst htwin
    exact ⟨congrArg reply hresult, _, _, rfl, rfl, hstepped⟩
  | drop number' =>
    obtain rfl : number' = number := Option.some.inj hnumber
    exact ⟨rfl, _, _, rfl, rfl, abandon_alike hst htwin⟩

/-! ### Operations on no open transaction -/

/-- The same number of sessions was begun on both sides. -/
theorem opened_eq (h : platform.bareTandem.Along s t) : s.world.2.opened = t.world.2.opened := by
  show s.world.2.bare.opened = t.world.2.bare.opened
  rw [h.world.2]

/-- A transaction is begun on both sides, or on neither. -/
theorem began (h : Twins platform room course course' s t)
    (hroom : ∀ other, room' other ≤ room other) :
    let left := DataCall.begin.perform platform.withLedger course s
    let right := DataCall.begin.perform platform.withLedger course' t
    left.1.1 = right.1.1 ∧ Twins platform room' left.1.2 right.1.2 left.2 right.2 := by
  have hperform : ∀ (course : Course (σ × Ledger)) s,
      DataCall.begin.perform platform.withLedger course s =
        let ran := Transaction.begin platform.withLedger s
        ((reply ran.1, course.start (ran.1.toOption.map ({ transaction := · }))), ran.2) :=
    fun _ _ => rfl
  have halike : (Transaction.begin platform.withLedger s).1 =
        (Transaction.begin platform.withLedger t).1 ∧
      platform.bareTandem.Along (Transaction.begin platform.withLedger s).2
        (Transaction.begin platform.withLedger t).2 :=
    same_of_alongside platform.bareTandem.beginning h.along
  have hsettles := Settles.began platform h.settled.around
  have hsettles' := Settles.began platform h.settled'.around
  obtain ⟨result, u, hbegin, -, hledger⟩ := begin_ledger platform s
  obtain ⟨result', v, hbegin', -, hledger'⟩ := begin_ledger platform t
  rw [hbegin, hbegin'] at halike
  obtain ⟨rfl, halong⟩ : result = result' ∧ platform.bareTandem.Along u v := halike
  rw [hperform, hbegin] at hsettles
  rw [hperform, hbegin'] at hsettles'
  rw [hperform, hperform, hbegin, hbegin']
  refine ⟨rfl, ?_⟩
  rcases result with e | tx
  · refine h.start hroom halong hsettles hsettles' (fun _ _ => ?_) (fun _ _ => ?_) fun _ => .none
    · exact congrArg (Ledger.drafts · _) hledger
    · exact congrArg (Ledger.drafts · _) hledger'
  · obtain ⟨rfl, inner, hopening⟩ := hledger
    obtain ⟨-, inner', hopening'⟩ := hledger'
    have hopened := opened_eq h.along
    have hfew : ∀ number, (0 : UInt32).toNat + room' number < 2 ^ 32 := by
      intro number
      have hlt := (hroom number).trans_lt (h.few number)
      simpa using hlt
    refine h.start hroom halong hsettles hsettles' ?_ ?_ fun number => .some ?_
    · intro session hlt
      rw [hopening]
      exact Ledger.drafts_put_other _ _ (Nat.ne_of_lt hlt)
    · intro session hlt
      rw [hopening']
      exact Ledger.drafts_put_other _ _ (hopened ▸ Nat.ne_of_lt hlt)
    · refine ⟨rfl, rfl, rfl, hfew number, hfew number, { inner }, { inner := inner' }, [], [],
        ?_, ?_, .empty inner, .empty inner', rfl⟩
      · rw [hopening]
        exact Ledger.drafts_put_self _ _ _
      · rw [hopening']
        dsimp only
        rw [hopened]
        exact Ledger.drafts_put_self _ _ _

/-- A statement in a transaction of its own has the same outcome on both sides. -/
theorem alone (h : Twins platform room course course' s t)
    (hroom : ∀ other, room' other ≤ room other) (statement : Statement) :
    let left := (DataCall.executeAlone statement).perform platform.withLedger course s
    let right := (DataCall.executeAlone statement).perform platform.withLedger course' t
    left.1.1 = right.1.1 ∧ Twins platform room' left.1.2 right.1.2 left.2 right.2 := by
  have halike : (Transaction.executeAlone platform.withLedger statement s).1 =
        (Transaction.executeAlone platform.withLedger statement t).1 ∧
      platform.bareTandem.Along (Transaction.executeAlone platform.withLedger statement s).2
        (Transaction.executeAlone platform.withLedger statement t).2 :=
    same_of_alongside (platform.bareTandem.executeAlone statement) h.along
  have hsettles := Settles.alone platform statement h.settled.around
  have hsettles' := Settles.alone platform statement h.settled'.around
  obtain ⟨result, u, hrun, -, hlone, -⟩ :=
    executeAlone_ledger platform statement h.settled.around
  obtain ⟨result', v, hrun', -, hlone', -⟩ :=
    executeAlone_ledger platform statement h.settled'.around
  obtain ⟨after, hdesk, halone⟩ :=
    Tandem.runAlone_cases platform.withLedger course statement s
  obtain ⟨after', hdesk', halone'⟩ :=
    Tandem.runAlone_cases platform.withLedger course' statement t
  have hopened := opened_eq h.along
  have hperform : ∀ course : Course (σ × Ledger),
      (DataCall.executeAlone statement).perform platform.withLedger course =
        DataCall.runAlone platform.withLedger course statement := fun _ => rfl
  rw [halone, hrun] at hsettles
  rw [halone', hrun'] at hsettles'
  rw [hrun, hrun'] at halike
  rw [hperform, hperform, halone, halone', hrun, hrun']
  refine ⟨congrArg some halike.1, h.keep hroom halike.2 hdesk hdesk' hsettles hsettles' ?_ ?_⟩
  · intro session hlt
    exact hlone.others session (Nat.ne_of_lt hlt)
  · intro session hlt
    exact hlone'.others session (hopened ▸ Nat.ne_of_lt hlt)

/-! ### Any operation -/

/-- Whatever operation is carried out on both sides, on the second one without nested scopes that
could not be opened: the same is told, and the open transactions stand for each other again. -/
theorem perform (hnameless : platform.Nameless) (h : Twins platform room course course' s t)
    (request : DataCall)
    (hroom : ∀ number, room' number + (if request.opens number then 1 else 0) ≤ room number) :
    let left := request.perform platform.withLedger course s
    let right := request.performUndoing platform course' t
    left.1.1 = right.1.1 ∧ Twins platform room' left.1.2 right.1.2 left.2 right.2 := by
  have hle : ∀ number, room' number ≤ room number := fun number =>
    (Nat.le_add_right _ _).trans (hroom number)
  have hsettles := Settles.perform platform request h.settled.around
  have hsettles' := Settles.performUndoing platform request h.settled'.around
  rcases hnumber : request.number? with _ | number
  · cases request with
    | executeAlone statement => exact h.alone hle statement
    | begin => exact h.began hle
    | _ => cases hnumber
  · have htwin := h.twin number
    rcases hopen : course.open? number with _ | opened <;>
      rcases hopen' : course'.open? number with _ | opened' <;> rw [hopen, hopen'] at htwin
    · have hright : request.performUndoing platform course' t = ((none, course'), t) := by
        by_cases hopens : ∃ number, request = .openNested number
        · obtain ⟨number', rfl⟩ := hopens
          obtain rfl : number' = number := Option.some.inj hnumber
          exact DataCall.performUndoing_none hopen'
        · rw [DataCall.performUndoing_of_ne fun number hsame => hopens ⟨number, hsame⟩,
            DataCall.perform_of_none request hnumber hopen']
          rfl
      rw [DataCall.perform_of_none request hnumber hopen, hright]
      exact ⟨rfl, h.idle hle⟩
    · cases htwin
    · cases htwin
    · obtain ⟨htwin⟩ := htwin
      have hsteps : StepsAlike platform (room' number) number opened.transaction.session course
          course' s t (request.perform platform.withLedger course s)
          (request.performUndoing platform course' t) := by
        by_cases hopens : ∃ number, request = .openNested number
        · obtain ⟨number', rfl⟩ := hopens
          obtain rfl : number' = number := Option.some.inj hnumber
          have hspace : room' number' + 1 ≤ room number' := by
            simpa [DataCall.opens] using hroom number'
          exact openNested_steps hnameless h.along hopen hopen' (htwin.mono hspace rfl rfl)
        · have hne : ∀ number, request ≠ .openNested number := fun number hsame =>
            hopens ⟨number, hsame⟩
          rw [DataCall.performUndoing_of_ne hne, DataCall.perform_of_open request hnumber hopen,
            DataCall.perform_of_open request hnumber hopen']
          exact h.performOn_steps hnameless hne hnumber hopen hopen'
            (htwin.mono (hle number) rfl rfl)
      obtain ⟨hreply, opened?, opened'?, hdesk, hdesk', hstepped⟩ := hsteps
      exact ⟨hreply, h.step hle hopen hopen' hdesk hdesk' hstepped hsettles hsettles'⟩

/-! ### Frames -/

/-- After a change of the frames only. -/
theorem reframe (h : Twins platform room course course' s t) (hdesk : after.desk = course.desk)
    (hdesk' : after'.desk = course'.desk) (halong : platform.bareTandem.Along u v)
    (hledger : u.world.2 = s.world.2) (hledger' : v.world.2 = t.world.2)
    (hsettled : Settled after u) (hsettled' : Settled after' v) :
    Twins platform room after after' u v where
  along := halong
  places := by rw [hdesk, hdesk', h.places]
  few := h.few
  twin number := by
    have htwin := h.twin number
    unfold Course.open? at htwin ⊢
    rw [hdesk, hdesk', hledger, hledger']
    exact htwin
  settled := hsettled
  settled' := hsettled'

/-- A grant is attached on both sides. -/
theorem attach (h : Twins platform room course course' s t) (grant : EffectiveGrant) :
    Twins platform room { course with layers := Layer.attach grant course.layers }
      { course' with layers := Layer.attach grant course'.layers } (Work.attachGrant grant s).2
      (Work.attachGrant grant t).2 := by
  refine h.reframe rfl rfl (platform.bareTandem.attached grant h.along) ?_ ?_
    ((Settles.attached grant h.settled.around).settled h.settled)
    ((Settles.attached grant h.settled'.around).settled h.settled')
  · rw [Layer.attachGrant_after]
  · rw [Layer.attachGrant_after]

/-- Entering a frame is nothing to the ledger. -/
theorem entered_ledger (platform : Platform σ) (frame : Frame) (s : AccessState (σ × Ledger)) :
    (frame.entered platform.withLedger s).world.2 = s.world.2 := by
  rcases frame.entered_world platform.withLedger s with hsame | ⟨entry, haudit⟩
  · rw [hsame]
  · rw [haudit]
    rfl

/-- A course that is settled is settled inside of a frame, too. -/
theorem settled_entered (platform : Platform σ) (frame : Frame) (h : Settled course s) :
    Settled { course with layers := frame.layer :: course.layers }
      (frame.entered platform.withLedger s) where
  around := frame.entered_around platform.withLedger h.around
  balanced := by
    rw [entered_ledger]
    exact ⟨h.balanced.sound, h.balanced.follows, h.balanced.apart, h.balanced.published⟩

/-- The same frame is entered on both sides. -/
theorem enter (h : Twins platform room course course' s t) (frame : Frame) :
    Twins platform room { course with layers := frame.layer :: course.layers }
      { course' with layers := frame.layer :: course'.layers }
      (frame.entered platform.withLedger s) (frame.entered platform.withLedger t) :=
  h.reframe rfl rfl (platform.bareTandem.entered frame h.along) (entered_ledger platform frame s)
    (entered_ledger platform frame t) (settled_entered platform frame h.settled)
    (settled_entered platform frame h.settled')

end Twins

/-! ### Code -/

namespace Code

/-- Where code in a frame has come to once it has left the frame. -/
def leaving (frame : Frame) (s : AccessState σ) (inner : Course σ × AccessState σ) :
    Course σ × AccessState σ :=
  ({ inner.1 with layers := inner.1.layers.tail },
    { inner.2 with around := frame.left s.around inner.2.around })

/-- What comes of code when its operations are carried out in some way: the operations with what it
was told of them, in order, and how far it came. -/
def carryOut (platform : Platform σ)
    (perform : DataCall → Course σ → AccessState σ → (Reply × Course σ) × AccessState σ) :
    Code → Course σ → AccessState σ → List (DataCall × Reply) × Course σ × AccessState σ
  | done, course, s => ([], course, s)
  | call request next, course, s =>
    let called := perform request course s
    let rest := (next called.1.1).carryOut platform perform called.1.2 called.2
    ((request, called.1.1) :: rest.1, rest.2)
  | attach grant next, course, s =>
    next.carryOut platform perform { course with layers := Layer.attach grant course.layers }
      (Work.attachGrant grant s).2
  | framed frame body next, course, s =>
    let inner := body.carryOut platform perform
      { course with layers := frame.layer :: course.layers } (frame.entered platform s)
    let left := leaving frame s inner.2
    let rest := next.carryOut platform perform left.1 left.2
    (inner.1 ++ rest.1, rest.2)

/-- With its operations carried out as they are, code is told what it is told, and comes as far as
it comes. -/
theorem carryOut_perform (platform : Platform σ) (code : Code) (course : Course σ)
    (s : AccessState σ) :
    let run :=
      code.carryOut platform (fun request course => request.perform platform course) course s
    run.1.map (·.2) = code.told platform course s ∧ run.2 = code.run platform course s := by
  induction code generalizing course s with
  | done => exact ⟨rfl, rfl⟩
  | call request next ih =>
    obtain ⟨htold, hrun⟩ := ih (request.perform platform course s).1.1
      (request.perform platform course s).1.2 (request.perform platform course s).2
    exact ⟨congrArg (_ :: ·) htold, hrun⟩
  | attach grant next ih => exact ih _ _
  | framed frame body next ihBody ihNext =>
    obtain ⟨htold, hrun⟩ := ihBody { course with layers := frame.layer :: course.layers }
      (frame.entered platform s)
    have hleft : leaving frame s (body.carryOut platform
        (fun request course => request.perform platform course)
        { course with layers := frame.layer :: course.layers } (frame.entered platform s)).2 =
          body.inFrame platform frame course s := by
      rw [hrun]
      rfl
    obtain ⟨htold', hrun'⟩ := ihNext (body.inFrame platform frame course s).1
      (body.inFrame platform frame course s).2
    rw [run_framed_eq]
    unfold carryOut told
    dsimp only
    rw [hleft, List.map_append, htold, htold']
    exact ⟨rfl, hrun'⟩

variable {platform : Platform σ} {course course' : Course (σ × Ledger)}
  {s t : AccessState (σ × Ledger)}

/-- What every operation preserves, any code preserves. -/
theorem carryOut_settles
    {perform : DataCall → Course (σ × Ledger) → AccessState (σ × Ledger) →
      (Reply × Course (σ × Ledger)) × AccessState (σ × Ledger)}
    (hperform : ∀ request course s, s.around = Layer.surroundings course.layers →
      Settles course s (perform request course s).1.2 (perform request course s).2)
    (code : Code) (h : s.around = Layer.surroundings course.layers) :
    let run := code.carryOut platform.withLedger perform course s
    Settles course s run.2.1 run.2.2 := by
  induction code generalizing course s with
  | done => exact .refl h
  | call request next ih =>
    have hcall := hperform request course s h
    exact hcall.trans (ih _ hcall.around)
  | attach grant next ih =>
    have hattach : Settles course s _ _ := .attached grant h
    exact hattach.trans (ih hattach.around)
  | framed frame body next ihBody ihNext =>
    have hframe : Settles course s _ _ :=
      .framed frame h (ihBody (frame.entered_around platform.withLedger h))
    exact hframe.trans (ihNext hframe.around)

/-- Leaving a frame on both sides. -/
theorem leaving_twins {frame : Frame} {room : Nat → Nat} {inner inner' : Course (σ × Ledger)}
    {u v : AccessState (σ × Ledger)} {outer : Nat → Nat}
    (h : Twins platform outer course course' s t)
    (hinner : Twins platform room inner inner' u v)
    (hsettles : Settles { course with layers := frame.layer :: course.layers }
      (frame.entered platform.withLedger s) inner u)
    (hsettles' : Settles { course' with layers := frame.layer :: course'.layers }
      (frame.entered platform.withLedger t) inner' v) :
    Twins platform room (leaving frame s (inner, u)).1 (leaving frame t (inner', v)).1
      (leaving frame s (inner, u)).2 (leaving frame t (inner', v)).2 :=
  hinner.reframe rfl rfl (platform.bareTandem.left frame h.along hinner.along) rfl rfl
    ((Settles.framed frame h.settled.around hsettles).settled h.settled)
    ((Settles.framed frame h.settled'.around hsettles').settled h.settled')

/-- What comes of code as it is. -/
def carried (platform : Platform σ) (code : Code) (course : Course (σ × Ledger))
    (s : AccessState (σ × Ledger)) :
    List (DataCall × Reply) × Course (σ × Ledger) × AccessState (σ × Ledger) :=
  code.carryOut platform.withLedger
    (fun request course => request.perform platform.withLedger course) course s

/-- What comes of code if every nested scope that could not be opened is undone. -/
def undone (platform : Platform σ) (code : Code) (course : Course (σ × Ledger))
    (s : AccessState (σ × Ledger)) :
    List (DataCall × Reply) × Course (σ × Ledger) × AccessState (σ × Ledger) :=
  code.carryOut platform.withLedger (fun request course => request.performUndoing platform course)
    course s

/-- Code preserves what its operations do when they are carried out as they are. -/
theorem carried_settles (platform : Platform σ) (code : Code)
    (h : s.around = Layer.surroundings course.layers) :
    Settles course s (code.carried platform course s).2.1 (code.carried platform course s).2.2 :=
  carryOut_settles (fun request _ _ => Settles.perform platform request) code h

/-- Code preserves it also when failed nested scopes are undone. -/
theorem undone_settles (platform : Platform σ) (code : Code)
    (h : s.around = Layer.surroundings course.layers) :
    Settles course s (code.undone platform course s).2.1 (code.undone platform course s).2.2 :=
  carryOut_settles (fun request _ _ => Settles.performUndoing platform request) code h

/-- How often code opens nested scopes of the transaction with a number. -/
def opened (number : Nat) (entries : List (DataCall × Reply)) : Nat :=
  entries.countP fun entry => entry.1.opens number

/-- Whatever code does: with nested scopes that could not be opened undone it calls the same
operations, is told the same, and comes to a point where the open transactions stand for each
other. -/
theorem carried_twins (hnameless : platform.Nameless) (code : Code) {room room' : Nat → Nat}
    (h : Twins platform room course course' s t)
    (hroom : ∀ number,
      room' number + opened number (code.carried platform course s).1 ≤ room number) :
    let left := code.carried platform course s
    let right := code.undone platform course' t
    left.1 = right.1 ∧ Twins platform room' left.2.1 right.2.1 left.2.2 right.2.2 := by
  induction code generalizing course course' s t room room' with
  | done => exact ⟨rfl, h.idle hroom⟩
  | call request next ih =>
    let called := request.perform platform.withLedger course s
    let rest := (next called.1.1).carried platform called.1.2 called.2
    have hfirst : ∀ number, room' number + opened number rest.1 +
        (if request.opens number then 1 else 0) ≤ room number := by
      intro number
      have hall := hroom number
      unfold carried carryOut opened at hall
      rw [List.countP_cons, ← Nat.add_assoc] at hall
      exact hall
    obtain ⟨hreply, hcalled⟩ := h.perform hnameless request hfirst
    obtain ⟨hrest, hafter⟩ := ih _ hcalled fun number => Nat.le_refl _
    unfold carried undone carryOut
    dsimp only
    rw [← hreply]
    exact ⟨congrArg (_ :: ·) hrest, hafter⟩
  | attach grant next ih => exact ih (h.attach grant) hroom
  | framed frame body next ihBody ihNext =>
    let inner := body.carried platform { course with layers := frame.layer :: course.layers }
      (frame.entered platform.withLedger s)
    let rest := next.carried platform (leaving frame s inner.2).1 (leaving frame s inner.2).2
    have hbody : ∀ number, room' number + opened number rest.1 + opened number inner.1 ≤
        room number := by
      intro number
      have hall : room' number + opened number (inner.1 ++ rest.1) ≤ room number := hroom number
      have hboth : opened number (inner.1 ++ rest.1) =
          opened number inner.1 + opened number rest.1 := List.countP_append
      omega
    obtain ⟨hentries, hinner⟩ := ihBody (h.enter frame) hbody
    have hsettles : Settles { course with layers := frame.layer :: course.layers } _ _ _ :=
      body.carried_settles platform (frame.entered_around platform.withLedger h.settled.around)
    have hsettles' : Settles { course' with layers := frame.layer :: course'.layers } _ _ _ :=
      body.undone_settles platform (frame.entered_around platform.withLedger h.settled'.around)
    obtain ⟨hrest, hafter⟩ := ihNext (leaving_twins h hinner hsettles hsettles')
      fun number => Nat.le_refl _
    exact ⟨congrArg₂ (· ++ ·) hentries hrest, hafter⟩

end Code
end TenantAccess
