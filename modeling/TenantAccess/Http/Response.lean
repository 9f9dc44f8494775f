import TenantAccess.Resolution

/-!
# Responses

What a caller is told.  A denial is told with its details; every other failure of the resolution is
told as an internal error, in the same words whatever it was.
-/

namespace TenantAccess.Http

/-- A response, with a document as its body or without one. -/
structure Response where
  status : Nat
  body : Option Json := none
deriving Inhabited

namespace Response

/-- A document. -/
def ok (document : Json) : Response := { status := 200, body := some document }

/-- An error with a code and a message. -/
def error (status : Nat) (code message : String) : Response :=
  { status, body := some (.object [("error", .string code), ("message", .string message)]) }

/-- The error that tells nothing. -/
def internalError : Response := error 500 "internal_error" "internal error"

/-- The caller is not identified. -/
def unauthorized (e : AuthenticationError) : Response := error 401 "unauthorized" e.message

/-- The headers do not name a tenant. -/
def invalidTenant (message : String) : Response := error 400 "invalid_tenant_header" message

/-- The caller may not do this. -/
def forbidden (message : String) : Response := error 403 "forbidden" message

/-- The caller may not work in the tenant. -/
def denied (denial : Denial) : Response where
  status := 403
  body := some (.object [
    ("error", .string "access_denied"),
    ("message", .string denial.message),
    ("details", denial.toJson)])

/-- There is no grant. -/
def ofAccessError (e : AccessError) : Response :=
  match e.denial? with
  | some denial => denied denial
  | none => internalError

/-- The response without its body. -/
def withoutBody (response : Response) : Response := { response with body := none }

end Response
end TenantAccess.Http
