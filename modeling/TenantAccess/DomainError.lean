/-!
# Errors of the domain

The three ways in which a value can be unfit for the domain, each with an explanation.
-/

namespace TenantAccess

/-- A value or a state that the domain does not allow. -/
inductive DomainError where
  /-- An input breaks a rule for values of its kind. -/
  | validation (explanation : String)
  /-- A state breaks a rule that always holds. -/
  | invariantViolated (explanation : String)
  /-- A text is not an identifier. -/
  | invalidId (explanation : String)
deriving DecidableEq, Repr

namespace DomainError

/-- The error as a message. -/
def message : DomainError → String
  | validation explanation => "validation failed: " ++ explanation
  | invariantViolated explanation => "invariant violated: " ++ explanation
  | invalidId explanation => "invalid identifier: " ++ explanation

/-- The kind of the error. -/
def kind : DomainError → String
  | validation _ => "Validation"
  | invariantViolated _ => "InvariantViolation"
  | invalidId _ => "InvalidId"

end DomainError
end TenantAccess
