import TenantAccess.Membership
import TenantAccess.Session

/-!
# Faults

A store or a session backend in which single operations fail.  An operation with a fault does not
reach what is behind it.
-/

namespace TenantAccess

variable {σ α : Type}

/-- The operation, or the error of its fault. -/
def unlessFault {ε : Type} (fault : σ → Option ε) (m : StateM σ (Except ε α)) :
    StateM σ (Except ε α) := fun state =>
  match fault state with
  | some e => (.error e, state)
  | none => m state

/-- The store with the faults of its reads. -/
def MembershipStore.withFaults (fault : StoreOperation → σ → Option StoreError)
    (store : MembershipStore σ) : MembershipStore σ where
  grantsFor principal around := unlessFault (fault .grantsFor) (store.grantsFor principal around)
  clientStatus client around := unlessFault (fault .clientStatus) (store.clientStatus client around)
  siteStatus client site around :=
    unlessFault (fault .siteStatus) (store.siteStatus client site around)
  sitesFor client around := unlessFault (fault .sitesFor) (store.sitesFor client around)

/-- The backend with the faults of its operations. A session whose last call has a fault is let go
of. -/
def SessionBackend.withFaults (fault : SessionOperation → σ → Option String)
    (backend : SessionBackend σ) : SessionBackend σ where
  begin := unlessFault (fun state => (fault .begin state).map .database) backend.begin
  call session request := fun state =>
    match fault request.operation state with
    | none => backend.call session request state
    | some explanation =>
      let state := if request.isLast then (backend.abandon session state).2 else state
      (.error (.database explanation), state)
  abandon := backend.abandon

end TenantAccess
