import TenantAccess.Json.Buffer
import TenantAccess.Resolution
import TenantAccess.SiteTrees

/-!
# Invalidation

After memberships or site trees have changed, what is cached about them has to be forgotten.  A
message says what has changed; a channel passes it on to the caches, or fails.
-/

namespace TenantAccess

/-- What has changed. -/
inductive InvalidationMessage where
  /-- Memberships of a principal in a client, possibly at the listed sites. -/
  | grants (idpId : IdpId) (client : ClientId) (sites : List SiteId)
  /-- The site tree of a client. -/
  | siteTree (client : ClientId)
deriving DecidableEq

namespace InvalidationMessage

/-- The client that the change is in. -/
def client : InvalidationMessage → ClientId
  | grants _ client _ => client
  | siteTree client => client

/-- The kinds of messages. -/
def kinds : List String := ["grants", "site_tree"]

/-- The fields of a message of the kind `grants`. -/
def decodeGrants : Decoder InvalidationMessage := fun document => do
  let record ← Record.ofJson ["idp_id", "client_id", "site_ids"] document
  let idpId ← record.required "idp_id" IdpId.decode
  let client ← record.required "client_id" Id.decode
  let sites ← record.required "site_ids" (Decoder.list Id.decode)
  pure (grants idpId client sites)

/-- The fields of a message of the kind `site_tree`. -/
def decodeSiteTree : Decoder InvalidationMessage := fun document => do
  let record ← Record.ofJson ["client_id"] document
  siteTree <$> record.required "client_id" Id.decode

/-- The fields of a message of a kind. -/
def decodeFields (kind : Json) : Decoder InvalidationMessage := fun fields =>
  match kind with
  | .string "grants" => decodeGrants fields
  | .string "site_tree" => decodeSiteTree fields
  | _ => failure

/-- A message in a document: an object with the key `kind` beside the fields, or an array of the
kind and the fields in order. The fields are held until the kind is known. -/
def decode : Decoder InvalidationMessage := fun document => do
  let (kind, fields) ← match document with
    | .object fields =>
      match Json.valuesOf "kind" fields with
      | [kind] => pure (kind, Json.object (fields.filter (·.1 != "kind")))
      | _ => failure
    | .array (kind :: items) => pure (kind, Json.array items)
    | _ => failure
  guard (Json.holdable Json.maxDepth fields)
  decodeFields kind fields

/-- The message as a document. -/
def toJson : InvalidationMessage → Json
  | grants idpId client sites => .object [
    ("kind", .string "grants"),
    ("idp_id", idpId.toJson),
    ("client_id", client.toJson),
    ("site_ids", .array (sites.map Id.toJson))]
  | siteTree client => .object [("kind", .string "site_tree"), ("client_id", client.toJson)]

end InvalidationMessage

/-- Why a message did not get through. -/
inductive InvalidationError where
  | publish (explanation : String)
  | encode (explanation : String)
deriving DecidableEq, Repr

namespace InvalidationError

/-- The error as a message. -/
def message : InvalidationError → String
  | publish explanation => "failed to publish invalidation: " ++ explanation
  | encode explanation => "failed to encode invalidation: " ++ explanation

/-- The kind of the error. -/
def kind : InvalidationError → String
  | publish _ => "Publish"
  | encode _ => "Encode"

end InvalidationError

/-- Where messages go. -/
inductive InvalidationChannel where
  /-- To the caches of this state. -/
  | caches
  /-- Nowhere, with an error. -/
  | failing (error : InvalidationError)
deriving Inhabited

namespace InvalidationChannel

variable {σ : Type}

/-- Pass a message on. -/
def announce (channel : InvalidationChannel) (platform : Platform σ) (message : InvalidationMessage) :
    Work σ (Except InvalidationError Unit) :=
  match channel with
  | .failing error => return .error error
  | .caches => do
    match message with
    | .grants idpId client sites => AccessResolver.invalidate idpId client sites
    | .siteTree client => SiteTrees.forget platform client
    return .ok ()

end InvalidationChannel
end TenantAccess
