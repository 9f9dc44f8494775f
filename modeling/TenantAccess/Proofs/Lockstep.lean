import TenantAccess.Proofs.Computation

/-!
# Computations in lockstep

Two computations, each on a state of its own, run in lockstep: from states that agree they give
values that correspond, and leave states that agree.  What the second one is told by its world may
depend on what the first one is going to do.  For that the states of the first one may be held to
what is expected of them: the two have to correspond only as long as the first one does what is
expected, and it must not come back to that once it has left it.

* `Lockstep`: the two computations run so.
* `Lockstep.bind`, `Lockstep.bindTask`, `Lockstep.bindOn`: so do the steps that follow, if each pair
  of values that correspond is followed by computations in lockstep.
-/

namespace TenantAccess

variable {σ τ α β : Type}

/-- From states that agree the two computations lead to values that correspond and to states that
agree, if the first one leads to what is expected. That is expected beforehand, then. -/
structure Lockstep (Agree : σ → τ → Prop) (Expected : σ → Prop) (Corresponds : α → β → Prop)
    (m : StateM σ α) (m' : StateM τ β) : Prop where
  back : ∀ s, Expected (m s).2 → Expected s
  along : ∀ s t, Agree s t → Expected (m s).2 →
    Corresponds (m s).1 (m' t).1 ∧ Agree (m s).2 (m' t).2

namespace Lockstep

variable {Agree : σ → τ → Prop} {Expected : σ → Prop} {V : α → β → Prop}
  {m : StateM σ α} {m' : StateM τ β}

/-- Two values that correspond are given in lockstep. -/
theorem pure {a : α} {b : β} (h : V a b) :
    Lockstep Agree Expected V (pure a : StateM σ α) (pure b : StateM τ β) where
  back _ hs := hs
  along _ _ hst _ := ⟨h, hst⟩

/-- What is made of the values corresponds, too. -/
theorem map {γ δ : Type} {W : γ → δ → Prop} (f : α → γ) (f' : β → δ)
    (h : Lockstep Agree Expected V m m') (hmade : ∀ a b, V a b → W (f a) (f' b)) :
    Lockstep Agree Expected W (f <$> m) (f' <$> m') where
  back := h.back
  along s t hst hs := by
    obtain ⟨hvalue, hagree⟩ := h.along s t hst hs
    exact ⟨hmade _ _ hvalue, hagree⟩

/-- One step after another. Whatever the first step gives has to correspond to itself, so that the
steps after it are known not to come back to what is expected, either. -/
theorem bind {γ δ : Type} {V : α → α → Prop} {W : γ → δ → Prop} {m' : StateM τ α}
    {f : α → StateM σ γ} {f' : α → StateM τ δ} (hrefl : ∀ a, V a a)
    (h : Lockstep Agree Expected V m m')
    (hnext : ∀ a b, V a b → Lockstep Agree Expected W (f a) (f' b)) :
    Lockstep Agree Expected W (m >>= f) (m' >>= f') where
  back s hs := h.back s ((hnext _ _ (hrefl _)).back _ hs)
  along s t hst hs := by
    have hfirst : Expected (m s).2 := (hnext _ _ (hrefl _)).back _ hs
    obtain ⟨hvalue, hagree⟩ := h.along s t hst hfirst
    exact (hnext _ _ hvalue).along _ _ hagree hs

/-- Computations in lockstep whatever is expected are so under an expectation that they do not come
back to. -/
theorem expecting (h : Lockstep Agree (fun _ => True) V m m')
    (hback : ∀ s, Expected (m s).2 → Expected s) : Lockstep Agree Expected V m m' where
  back := hback
  along s t hst _ := h.along s t hst trivial

end Lockstep

/-! ### Computations that may fail -/

/-- Both succeed with the same value, or both fail, with errors that correspond. -/
inductive OutcomesAlike {ε δ : Type} (E : ε → δ → Prop) : Except ε α → Except δ α → Prop where
  | ok (value : α) : OutcomesAlike E (.ok value) (.ok value)
  | error {e : ε} {e' : δ} (h : E e e') : OutcomesAlike E (.error e) (.error e')

namespace OutcomesAlike

variable {ε δ ε' δ' : Type} {E : ε → δ → Prop}

/-- An outcome is alike to itself, if every error corresponds to itself. -/
theorem refl {E : ε → ε → Prop} (h : ∀ e, E e e) :
    ∀ result : Except ε α, OutcomesAlike E result result
  | .ok value => .ok value
  | .error e => .error (h e)

/-- Errors that are changed on both sides stay alike, if the changes lead from errors that
correspond to errors that do. -/
theorem mapError {E' : ε' → δ' → Prop} {f : ε → ε'} {f' : δ → δ'}
    (hmade : ∀ e e', E e e' → E' (f e) (f' e')) {result : Except ε α} {result' : Except δ α}
    (h : OutcomesAlike E result result') :
    OutcomesAlike E' (result.mapError f) (result'.mapError f') := by
  cases h with
  | ok value => exact .ok value
  | error he => exact .error (hmade _ _ he)

/-- What is made of the value of a success, in the same way on both sides, is alike. -/
theorem map {γ : Type} (f : α → γ) {result : Except ε α} {result' : Except δ α}
    (h : OutcomesAlike E result result') : OutcomesAlike E (result.map f) (result'.map f) := by
  cases h with
  | ok value => exact .ok (f value)
  | error he => exact .error he

end OutcomesAlike

namespace Lockstep

variable {ε : Type} {Agree : AccessState σ → AccessState τ → Prop} {Expected : AccessState σ → Prop}

/-- One task after another; after a failure both stop. -/
theorem bindTask {E : ε → ε → Prop} (hrefl : ∀ e, E e e) {m : Task σ ε α} {m' : Task τ ε α}
    {f : α → Task σ ε β} {f' : α → Task τ ε β}
    (h : Lockstep Agree Expected (OutcomesAlike E) m m')
    (hnext : ∀ value, Lockstep Agree Expected (OutcomesAlike E) (f value) (f' value)) :
    Lockstep Agree Expected (OutcomesAlike E) (m >>= f : Task σ ε β) (m' >>= f' : Task τ ε β) := by
  let next (result : Except ε α) : Work σ (Except ε β) := ExceptT.bindCont f result
  let next' (result : Except ε α) : Work τ (Except ε β) := ExceptT.bindCont f' result
  show Lockstep Agree Expected _ (StateT.bind m next) (StateT.bind m' next')
  apply Lockstep.bind (OutcomesAlike.refl hrefl) h
  intro result result' hresult
  cases hresult with
  | ok value => exact hnext value
  | error he => exact .pure (.error he)

/-- The results of computations on a transaction are alike, and they leave the same transaction. -/
def OnTransaction (E : DataAccessError → DataAccessError → Prop)
    (left right : Except DataAccessError α × Transaction) : Prop :=
  OutcomesAlike E left.1 right.1 ∧ left.2 = right.2

/-- A task after a computation that cannot fail as a whole, whose values may differ. -/
theorem bindLift {γ : Type} {E : ε → ε → Prop} {V : γ → γ → Prop} (hrefl : ∀ a, V a a)
    {m : Work σ γ} {m' : Work τ γ} {f : γ → Task σ ε β} {f' : γ → Task τ ε β}
    (h : Lockstep Agree Expected V m m')
    (hnext : ∀ a b, V a b → Lockstep Agree Expected (OutcomesAlike E) (f a) (f' b)) :
    Lockstep Agree Expected (OutcomesAlike E)
      (monadLift m >>= f : Task σ ε β) (monadLift m' >>= f' : Task τ ε β) :=
  Lockstep.bind hrefl h hnext

/-- A task that begins with a look at the state, where nothing is expected. -/
theorem bindGet {E : ε → ε → Prop} {f : AccessState σ → Task σ ε β}
    {f' : AccessState τ → Task τ ε β}
    (hnext : ∀ s t, Agree s t → Lockstep Agree (fun _ => True) (OutcomesAlike E) (f s) (f' t)) :
    Lockstep Agree (fun _ => True) (OutcomesAlike E)
      (get >>= f : Task σ ε β) (get >>= f' : Task τ ε β) where
  back _ _ := trivial
  along s t hst _ := (hnext s t hst).along s t hst trivial

/-- A change of the error on both sides. -/
theorem adapt {E : ε → ε → Prop} {δ : Type} {E' : δ → δ → Prop} {m : Task σ ε α}
    {m' : Task τ ε α} (f : ε → δ) (hmade : ∀ e e', E e e' → E' (f e) (f e'))
    (h : Lockstep Agree Expected (OutcomesAlike E) m m') :
    Lockstep Agree Expected (OutcomesAlike E')
      (ExceptT.adapt f m : Task σ δ α) (ExceptT.adapt f m' : Task τ δ α) :=
  h.map (Except.mapError f) (Except.mapError f) fun _ _ => .mapError hmade

/-- One computation on a transaction after another; after a failure both stop. -/
theorem bindOn {E : DataAccessError → DataAccessError → Prop} (hrefl : ∀ e, E e e)
    {m : TransactionTask σ α} {m' : TransactionTask τ α} {f : α → TransactionTask σ β}
    {f' : α → TransactionTask τ β} {tx : Transaction}
    (h : Lockstep Agree Expected (OnTransaction E) (m tx) (m' tx))
    (hnext : ∀ value tx',
      Lockstep Agree Expected (OnTransaction E) (f value tx') (f' value tx')) :
    Lockstep Agree Expected (OnTransaction E) ((m >>= f) tx) ((m' >>= f') tx) := by
  let next (left : Except DataAccessError α × Transaction) := ExceptT.bindCont f left.1 left.2
  let next' (right : Except DataAccessError α × Transaction) := ExceptT.bindCont f' right.1 right.2
  show Lockstep Agree Expected _ (StateT.bind (m tx) next) (StateT.bind (m' tx) next')
  apply Lockstep.bind (fun left => ⟨.refl hrefl left.1, rfl⟩) h
  rintro ⟨result, tx'⟩ ⟨result', tx''⟩ ⟨hresult, rfl⟩
  cases hresult with
  | ok value => exact hnext value tx'
  | error he => exact .pure ⟨.error he, rfl⟩

end Lockstep
end TenantAccess
