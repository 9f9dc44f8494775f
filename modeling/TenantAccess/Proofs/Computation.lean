import Mathlib
import TenantAccess.Transaction

/-!
# Running computations of the access layer

A computation with a state is run on one state and gives a result and another state.  The lemmas
here say what one step after another comes to: the second step is run on what the first one left
(`bind_of_eq`), if that was a success (`bind_of_ok`), while a failure is the outcome of the whole
(`bind_of_error`).  The same is said of a `Task`, which is run on a state of the access layer, and
of computations on an open transaction.
-/

namespace TenantAccess

variable {σ ε δ α β : Type}

/-! ### Steps on any state -/

section steps

variable {s t : σ}

/-- The second step is run on the value and the state that the first one gave. -/
theorem bind_of_eq {m : StateM σ α} {f : α → StateM σ β} {a : α} (h : m s = (a, t)) :
    (m >>= f) s = f a t := by
  show f (m s).1 (m s).2 = f a t
  rw [h]

variable {m : ExceptT ε (StateM σ) α} {f : α → ExceptT ε (StateM σ) β}

/-- After a success the second step is run on what the first one left. -/
theorem bind_of_ok {a : α} (h : m s = (.ok a, t)) : (m >>= f) s = f a t := by
  show ExceptT.bind m f s = _
  rw [ExceptT.bind, ExceptT.mk, bind_of_eq h]
  rfl

/-- After a failure there is no second step. -/
theorem bind_of_error {e : ε} (h : m s = (.error e, t)) : (m >>= f) s = (.error e, t) := by
  show ExceptT.bind m f s = _
  rw [ExceptT.bind, ExceptT.mk, bind_of_eq h]
  rfl

end steps

/-! ### Tasks -/

namespace Task

/-- After a success the next step is run on the state that the first one left. -/
theorem bind_ok {m : Task σ ε α} {f : α → Task σ ε β} {s t : AccessState σ} {a : α}
    (h : m s = (.ok a, t)) : (m >>= f) s = f a t := bind_of_ok h

/-- A failure is the outcome of the whole. -/
theorem bind_error {m : Task σ ε α} {f : α → Task σ ε β} {s t : AccessState σ} {e : ε}
    (h : m s = (.error e, t)) : (m >>= f) s = (.error e, t) := bind_of_error h

/-- What is made of a success is made of the outcome. -/
theorem bind_pure_apply (f : α → β) (m : Task σ ε α) (s : AccessState σ) :
    (m >>= fun a => pure (f a)) s = ((m s).1.map f, (m s).2) := by
  rcases h : m s with ⟨e | a, t⟩
  · exact bind_error h
  · exact bind_ok h

/-- A change of the error leaves the outcome and the state otherwise as they are. -/
theorem adapt_apply (f : ε → δ) (m : Task σ ε α) (s : AccessState σ) :
    (ExceptT.adapt f m : Task σ δ α) s = ((m s).1.mapError f, (m s).2) := rfl

end Task

/-! ### Computations on a transaction -/

namespace TransactionTask

/-- After a success the next step is run on the transaction and the state that the first one left. -/
theorem bind_ok {m : TransactionTask σ α} {f : α → TransactionTask σ β} {tx tx' : Transaction}
    {s t : AccessState σ} {a : α} (h : m tx s = ((.ok a, tx'), t)) :
    (m >>= f) tx s = f a tx' t := by
  show ExceptT.bind m f tx s = _
  simp only [ExceptT.bind, ExceptT.mk, bind, StateT.bind, h]
  rfl

/-- A failure is the outcome of the whole. -/
theorem bind_error {m : TransactionTask σ α} {f : α → TransactionTask σ β}
    {tx tx' : Transaction} {s t : AccessState σ} {e : DataAccessError}
    (h : m tx s = ((.error e, tx'), t)) : (m >>= f) tx s = ((.error e, tx'), t) := by
  show ExceptT.bind m f tx s = _
  simp only [ExceptT.bind, ExceptT.mk, bind, StateT.bind, h]
  rfl

/-- A task is no change of the transaction. -/
theorem ofTask_apply {m : Task σ DataAccessError α} {result : Except DataAccessError α}
    {s t : AccessState σ} (tx : Transaction) (h : m s = (result, t)) :
    Transaction.ofTask m tx s = ((result, tx), t) := by
  show (((m s).1, tx), (m s).2) = _
  rw [h]

end TransactionTask
end TenantAccess
