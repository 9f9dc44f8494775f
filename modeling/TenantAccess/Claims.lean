import TenantAccess.Identifier
import TenantAccess.Timestamp

/-!
# Identity claims

What a verified token says about its bearer, and the rules that the claims have to meet before the
bearer counts as authenticated.
-/

namespace TenantAccess

/-- The claims of an identity token. The times are seconds from the start of 1970. -/
structure IdentityClaims where
  subject : IdpId
  email : String
  preferredUsername : Option String
  name : Option String
  givenName : Option String
  familyName : Option String
  issuedAt : Int
  expiresAt : Int
deriving DecidableEq, Repr, Inhabited

/-- Why a caller could not be identified. -/
inductive AuthenticationError where
  | missingToken
  | malformed (explanation : String)
  | rejected (explanation : String)
  | expired
  | notYetValid
  | invalidTimeWindow
  | missingClaim (claim : String)
deriving DecidableEq, Repr

namespace AuthenticationError

/-- The error as a message. -/
def message : AuthenticationError → String
  | missingToken => "missing bearer token"
  | malformed explanation => "malformed token: " ++ explanation
  | rejected explanation => "token signature or format rejected: " ++ explanation
  | expired => "token has expired"
  | notYetValid => "token not yet valid (issued_at is in the future)"
  | invalidTimeWindow => "invalid token time window (expires_at <= issued_at)"
  | missingClaim claim => "token is missing required claim '" ++ claim ++ "'"

/-- The kind of the error. -/
def kind : AuthenticationError → String
  | missingToken => "MissingToken"
  | malformed _ => "Malformed"
  | rejected _ => "Rejected"
  | expired => "Expired"
  | notYetValid => "NotYetValid"
  | invalidTimeWindow => "InvalidTimeWindow"
  | missingClaim _ => "MissingClaim"

end AuthenticationError

namespace IdentityClaims

/-- The moment of issue, when it can be represented. -/
def issued? (claims : IdentityClaims) : Option Timestamp := Timestamp.ofSeconds? claims.issuedAt

/-- The moment of expiry, when it can be represented. -/
def expires? (claims : IdentityClaims) : Option Timestamp := Timestamp.ofSeconds? claims.expiresAt

/-- Check the claims at a given moment: the subject and the email are there, the token is issued
before it expires, and the moment lies from its issue on and before its expiry. -/
def validate (claims : IdentityClaims) (now : Timestamp) : Except AuthenticationError Unit :=
  if (Text.nonBlank? claims.subject.text).isNone then .error (.missingClaim "sub")
  else if (Text.nonBlank? claims.email).isNone then .error (.missingClaim "email")
  else match claims.issued?, claims.expires? with
    | some issued, some expires =>
      if expires.le issued then .error .invalidTimeWindow
      else if now.lt issued then .error .notYetValid
      else if expires.le now then .error .expired
      else .ok ()
    | _, _ => .error .invalidTimeWindow

/-- The names of the claims in documents, in order. -/
def fieldNames : List String :=
  ["sub", "email", "preferred_username", "name", "given_name", "family_name", "iat", "exp"]

/-- Claims in a document. -/
def decode : Decoder IdentityClaims := fun document => do
  let record ← Record.ofJson fieldNames document
  let subject ← record.required "sub" IdpId.decode
  let email ← record.required "email" Decoder.text
  let preferredUsername ← record.optional "preferred_username" Decoder.text
  let name ← record.optional "name" Decoder.text
  let givenName ← record.optional "given_name" Decoder.text
  let familyName ← record.optional "family_name" Decoder.text
  let issuedAt ← record.required "iat" Decoder.int64
  let expiresAt ← record.required "exp" Decoder.int64
  pure { subject, email, preferredUsername, name, givenName, familyName, issuedAt, expiresAt }

/-- The claims as a document, in which absent names have no field. -/
def toJson (claims : IdentityClaims) : Json := .objectOfSome [
  ("sub", some claims.subject.toJson),
  ("email", some (.string claims.email)),
  ("preferred_username", claims.preferredUsername.map .string),
  ("name", claims.name.map .string),
  ("given_name", claims.givenName.map .string),
  ("family_name", claims.familyName.map .string),
  ("iat", some (.int claims.issuedAt)),
  ("exp", some (.int claims.expiresAt))]

end IdentityClaims
end TenantAccess
