import TenantAccess.Tenancy
import TenantAccess.UnitOfWork

/-!
# Headers of a request

The names of headers do not depend on the case of letters; of several headers with one name the
first counts.  Headers name the tenant a caller asks for, and tell where a request came from.
-/

namespace TenantAccess.Http

/-- The headers of a request, in order. -/
structure Headers where
  fields : List (String × String)
deriving Repr, Inhabited

namespace Headers

/-- The first value of a header. -/
def get? (headers : Headers) (name : String) : Option String :=
  (headers.fields.find? fun field => Text.equalIgnoringAsciiCase field.1 name).map (·.2)

/-- The value of a header that is visible ASCII. -/
def visible? (headers : Headers) (name : String) : Option String :=
  (headers.get? name).filter fun value => value.toList.all Text.isVisibleAscii

/-- The value of a header without blanks around it; a blank one counts as missing. -/
def value? (headers : Headers) (name : String) : Option String :=
  (headers.visible? name).bind Text.nonBlank?

end Headers

/-- The value of a header, read; a missing header is no error. -/
def readHeader {α : Type} (headers : Headers) (name : String)
    (parse : String → Except DomainError α) : Except String (Option α) :=
  match headers.value? name with
  | none => .ok none
  | some text =>
    match parse text with
    | .ok a => .ok (some a)
    | .error e => .error (name ++ ": " ++ e.message)

/-- The tenant that headers ask for. A site can only be asked for together with its client. -/
def requestedTenant (headers : Headers) : Except String RequestedTenant := do
  let clientId ← readHeader headers "x-client-id" Id.parse
  let siteId ← readHeader headers "x-site-id" Id.parse
  let intent ← readHeader headers "x-access-intent" AccessIntent.parse
  if siteId.isSome && clientId.isNone then
    throw "x-site-id requires x-client-id"
  pure ⟨clientId, siteId, intent.getD .normal⟩

/-- Where a request came from. `fresh` identifies a request that brings no identifier itself. -/
def requestMetadata (headers : Headers) (fresh : Uuid) : RequestMetadata where
  requestId := some (((headers.value? "x-request-id").bind Uuid.ofText?).getD fresh)
  clientIp := (headers.value? "x-forwarded-for").map fun addresses =>
    Text.trim ((Text.split ',' addresses).headD "")
  userAgent := headers.value? "user-agent"
  requestedView := headers.value? "x-requested-view"

end TenantAccess.Http
