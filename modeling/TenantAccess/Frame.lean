import TenantAccess.AccessState

/-!
# Frames

Code runs in frames: units of work, bypasses and background jobs.  Every frame that turns row
policies off writes an entry to the audit trail before the code in it runs.
-/

namespace TenantAccess

/-- Why no grant was attached to the unit of work. -/
inductive AttachError where
  /-- The code runs outside of any unit of work. -/
  | noWork
  /-- The unit of work has its grant. -/
  | alreadyAttached
deriving DecidableEq, Repr

namespace Work

variable {σ α : Type}

/-- Write the entry for a frame that turns row policies off. -/
def auditBypass (platform : Platform σ) (reason : String) : Work σ Unit := do
  let around ← Work.around
  Work.audit platform (.policyBypass reason none around.actor)

/-- Run with row policies off. -/
def bypassing (platform : Platform σ) (reason : String) (m : Work σ α) : Work σ α := do
  auditBypass platform reason
  withBypass reason m

/-- Run as a background job. -/
def asJob (platform : Platform σ) (job : String) (m : Work σ α) : Work σ α := do
  auditBypass platform (scheduledReason job)
  withWork (.scheduled job) m

/-- Attach a grant to the innermost unit of work. -/
def attachGrant (grant : EffectiveGrant) : Work σ (Except AttachError Unit) := do
  match (← get).around.work with
  | none => return .error .noWork
  | some work =>
    match work.withGrant? grant with
    | none => return .error .alreadyAttached
    | some work =>
      modify fun state => { state with around := { state.around with work := some work } }
      return .ok ()

end Work
end TenantAccess
