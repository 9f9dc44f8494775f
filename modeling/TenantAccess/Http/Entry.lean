import TenantAccess.Frame
import TenantAccess.Http.Headers
import TenantAccess.Http.Response

/-!
# The way in

A request gets in when its bearer is identified, its headers name a tenant, and the bearer gets a
grant there, in this order.  What it asks for then runs in a unit of work that holds the principal,
the tenant asked for and the grant.
-/

namespace TenantAccess.Http

/-- The bearer's token. -/
def bearerToken (headers : Headers) : Except AuthenticationError String :=
  match headers.get? "authorization" with
  | none => .error .missingToken
  | some value =>
    if !value.toList.all Text.isVisibleAscii then
      .error (.malformed "authorization header is not ascii")
    else
      match Text.dropBeginning? "Bearer ".toList value.toList with
      | none => .error (.malformed "expected a bearer token")
      | some rest =>
        match Text.nonBlank? (String.ofList rest) with
        | none => .error .missingToken
        | some token => .ok token

/-- Where requests come in. -/
structure Entry (σ : Type) where
  resolver : AccessResolver σ
  /-- The principal a token stands for at a moment. -/
  verify : String → Timestamp → Except AuthenticationError Principal

/-- A request as far as the way in is concerned. -/
structure Arrival where
  headers : Headers
  moment : Timestamp
  /-- Identifies the request if it brings no identifier itself. -/
  fresh : Uuid

namespace Arrival

/-- The bearer of a request. -/
def bearer {σ : Type} (entry : Entry σ) (arrival : Arrival) :
    Except AuthenticationError Principal := do
  entry.verify (← bearerToken arrival.headers) arrival.moment

/-- The unit of work of a request that got in. -/
def work (arrival : Arrival) (principal : Principal) (requested : RequestedTenant)
    (grant : EffectiveGrant) : UnitOfWork :=
  { UnitOfWork.interactive principal requested (requestMetadata arrival.headers arrival.fresh) with
    grant := some grant }

end Arrival

/-- Let a request in and run what it asks for. -/
def Entry.admit {σ : Type} (entry : Entry σ) (arrival : Arrival) (inside : Work σ Response) :
    Work σ Response :=
  match arrival.bearer entry with
  | .error e => return .unauthorized e
  | .ok principal =>
    match requestedTenant arrival.headers with
    | .error message => return .invalidTenant message
    | .ok requested => do
      match ← entry.resolver.resolve principal requested with
      | .error e => return .ofAccessError e
      | .ok grant => Work.withWork (arrival.work principal requested grant) inside

end TenantAccess.Http
