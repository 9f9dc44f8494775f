import TenantAccess.Http.Body
import TenantAccess.Http.Entry
import TenantAccess.Http.MediaType

/-!
# The service

What can be asked for over HTTP: who the caller is, which sites it sees, and to forget what is cached
about a client.  Everything but the health of the service is behind the way in.
-/

namespace TenantAccess.Http

/-- A request. -/
structure Request where
  method : String
  /-- The path, and after a question mark the query, which is not looked at; or a full address. -/
  target : String
  headers : Headers
  body : String
deriving Inhabited

namespace Request

/-- What stands before the query or a fragment. -/
def withoutQuery (cs : List Char) : List Char := cs.takeWhile fun c => c != '?' && c != '#'

/-- What follows the scheme of an address that has one. -/
def afterScheme? : List Char → Option (List Char)
  | ':' :: '/' :: '/' :: rest => some rest
  | _ :: rest => afterScheme? rest
  | [] => none

/-- The path of the request. A full address names a host before the path, and without a path it is
the root that is asked for. -/
def path (request : Request) : String :=
  let target := request.target.toList
  if target.head? == some '/' then String.ofList (withoutQuery target)
  else match afterScheme? target with
    | none => request.target
    | some rest =>
      let path := withoutQuery (rest.dropWhile fun c => c != '/' && c != '?' && c != '#')
      if path.isEmpty then "/" else String.ofList path

/-- The request has the method. A request for the head only goes where one for the whole goes. -/
def has (request : Request) (method : String) : Bool :=
  request.method == method || (method == "GET" && request.method == "HEAD")

/-- The body is said to be written in JSON. -/
def bringsJson (request : Request) : Bool :=
  match (request.headers.visible? "content-type").bind MediaType.ofText? with
  | some media => media.isJson
  | none => false

end Request

/-- Something behind the way in. -/
structure Endpoint (σ : Type) where
  method : String
  respond : Request → Work σ Response

/-- Answer a request by the endpoint of its path. -/
def serve {σ : Type} (endpoints : List (String × Endpoint σ)) (request : Request) :
    Work σ Response :=
  match endpoints.lookup request.path with
  | none => return { status := 404 }
  | some endpoint =>
    if request.has endpoint.method then endpoint.respond request else return { status := 405 }

/-- The response as it is sent. Where the whole can be asked for, a request for the head only is
answered without a body, whatever the answer is. -/
def sent {σ : Type} (endpoints : List (String × Endpoint σ)) (request : Request)
    (response : Response) : Response :=
  match endpoints.lookup request.path with
  | some endpoint =>
    if endpoint.method == "GET" && request.method == "HEAD" then response.withoutBody else response
  | none => response

/-- The parts of the service. -/
structure Service (σ : Type) extends Entry σ where
  /-- Where invalidation messages go. -/
  channel : InvalidationChannel

namespace Service

variable {σ : Type}

/-- Who the caller is, and what it has been granted. -/
def whoAmI : Work σ Response := do
  match (← Work.around).work with
  | none => return { status := 500 }
  | some work =>
    match work.principal, work.grant with
    | some principal, some grant => return .ok (.object [
      ("idp_id", principal.idpId.toJson),
      ("email", .string principal.email),
      ("display_name", .string principal.displayName),
      ("intent", work.requested.intent.toJson),
      ("requested_view", .ofText? work.metadata.requestedView),
      ("ephemeral", .bool grant.isEphemeral),
      ("grant", grant.toJson)])
    | _, _ => return .internalError

/-- The sites that the caller sees. -/
def visibleSites (service : Service σ) : Work σ Response := do
  match (← Work.around).grant with
  | none => return .internalError
  | some grant =>
    match ← (SiteTrees.visibleTo service.resolver.platform grant).run with
    | .ok visible => return .ok visible.toJson
    | .error _ => return .internalError

/-- A grant allows to forget what is cached about a client: it holds the capability to manage users,
and is for that client or for all clients. -/
def checkInvalidation (grant : EffectiveGrant) (client : ClientId) : Except String Unit :=
  match grant.authorize .manageUsers with
  | .error e => .error e.message
  | .ok () =>
    if grant.scope.atLeast .global || grant.clientId = some client then .ok ()
    else .error "cannot invalidate another client"

/-- Forget what is cached about a client. -/
def invalidate (service : Service σ) (message : InvalidationMessage) : Work σ Response := do
  match (← Work.around).grant with
  | none => return .internalError
  | some grant =>
    match checkInvalidation grant message.client with
    | .error explanation => return .forbidden explanation
    | .ok () =>
      match ← service.channel.announce service.resolver.platform message with
      | .ok () => return { status := 204 }
      | .error _ => return .internalError

/-- The most octets that the body of a request can have. -/
def bodyLimit : Nat := 2 * 1024 * 1024

/-- Forget what the message in the body of a request tells to. -/
def invalidateAsAsked (service : Service σ) (request : Request) : Work σ Response :=
  if !request.bringsJson then return { status := 415 }
  else if bodyLimit < request.body.utf8ByteSize then return { status := 413 }
  else
    match Body.readMessage request.body with
    | .error .notDocument => return { status := 400 }
    | .error .otherShape => return { status := 422 }
    | .ok message => service.invalidate message

/-- What is behind the way in. -/
def endpoints (service : Service σ) : List (String × Endpoint σ) := [
  ("/whoami", { method := "GET", respond := fun _ => whoAmI }),
  ("/visible-sites", { method := "GET", respond := fun _ => service.visibleSites }),
  ("/access/invalidations", { method := "POST", respond := service.invalidateAsAsked })]

/-- Answer a request that is in already. -/
def respondInside (service : Service σ) (request : Request) : Work σ Response := do
  return sent service.endpoints request (← serve service.endpoints request)

/-- Answer a request from outside, with the endpoints behind the way in. -/
def respondWith (service : Service σ) (endpoints : List (String × Endpoint σ)) (request : Request)
    (moment : Timestamp) (fresh : Uuid) : Work σ Response := do
  if request.path == "/health" then
    return { status := if request.has "GET" then 200 else 405 }
  else
    let arrival : Arrival := { headers := request.headers, moment, fresh }
    return sent endpoints request (← service.admit arrival (serve endpoints request))

/-- Answer a request from outside. -/
def respond (service : Service σ) (request : Request) (moment : Timestamp) (fresh : Uuid) :
    Work σ Response :=
  service.respondWith service.endpoints request moment fresh

end Service
end TenantAccess.Http
