import TenantAccess.Json.Buffer
import TenantAccess.Json.Reader
import TenantAccess.Principal
import TenantAccess.Token.Algorithm
import TenantAccess.Token.Base64Url
import TenantAccess.Token.Sha256
import TenantAccess.Token.WebKey

/-!
# Identity tokens

A token is three parts joined by dots: a header that names the signature algorithm, the claims, and
a signature over both.  Only HMAC with SHA-256 under a shared secret is accepted.  A token is checked
from the outside in: form, header, algorithm, signature, claims, and last the window of time in
which it is valid.
-/

namespace TenantAccess.IdentityToken

/-- What is wrong with the parts of a token. -/
inductive FormError where
  /-- There are fewer than three parts. -/
  | parts
  | base64
  | json
  | algorithm
  | signature
deriving DecidableEq, Repr

/-- The error as one of authentication: a token with a wrong signature or algorithm is rejected, any
other one is malformed. -/
def FormError.toAuthenticationError : FormError → AuthenticationError
  | parts => .malformed "InvalidToken"
  | base64 => .malformed "Base64 error"
  | json => .malformed "JSON error"
  | algorithm => .rejected "InvalidAlgorithm"
  | signature => .rejected "InvalidSignature"

/-- What stands before and after the last occurrence of a character. -/
def splitLast? (separator : Char) (cs : List Char) : Option (List Char × List Char) :=
  match cs.reverse.span (· != separator) with
  | (_, []) => none
  | (after, _ :: before) => some (before.reverse, after.reverse)

/-- The octets of characters in UTF-8. -/
def octetsOf (cs : List Char) : List UInt8 := (String.ofList cs).toUTF8.toList

/-- The names of the fields of a header, in order. -/
def headerFields : List String :=
  ["typ", "alg", "cty", "jku", "jwk", "kid", "x5u", "x5c", "x5t", "x5t#S256"]

/-- The algorithm a header names; the other fields have to be of their types. -/
def decodeHeader : Decoder Algorithm := fun document => do
  let record ← Record.ofJson headerFields document
  for name in ["typ", "cty", "jku", "kid", "x5u", "x5t", "x5t#S256"] do
    let _ ← record.optional name Decoder.text
  let _ ← record.optional "x5c" (Decoder.list Decoder.text)
  let _ ← record.optional "jwk" fun key => do
    guard (Json.holdable (Json.maxDepth - 1) key)
    WebKey.decode key
  record.required "alg" (Decoder.oneOf Algorithm.named)

/-- A reader of claims that are not looked at does not mind when they are malformed, as long as it is
left behind the claim. -/
def isHarmless (claim : Json) : Bool := Json.passable (Json.maxDepth - 1) claim

/-- The moment before which a token is not valid has to be a number, and a reader for numbers is left
within an array or object that is not empty. -/
def isHarmlessMoment : Json → Bool
  | .array (_ :: _) => false
  | .object (_ :: _) => false
  | claim => isHarmless claim

/-- The claims of a token are an object in which no registered claim is repeated. -/
def decodeClaims : Decoder IdentityClaims := fun document => do
  match document with
  | .object fields =>
    let issuer := Json.valuesOf "iss" fields
    let audience := Json.valuesOf "aud" fields
    let notBefore := Json.valuesOf "nbf" fields
    guard (issuer.length ≤ 1 ∧ audience.length ≤ 1 ∧ notBefore.length ≤ 1)
    guard (issuer.all isHarmless ∧ audience.all isHarmless ∧ notBefore.all isHarmlessMoment)
    IdentityClaims.decode document
  | _ => failure

/-- Read the claims of a token signed under a secret. -/
def read (secret : List UInt8) (token : List Char) : Except FormError IdentityClaims :=
  match splitLast? '.' token with
  | none => .error .parts
  | some (message, signature) =>
    match splitLast? '.' message with
    | none => .error .parts
    | some (header, payload) =>
      match Base64Url.decode? header with
      | none => .error .base64
      | some header =>
        match (Json.parseOctets? header).bind (Decoder.run decodeHeader) with
        | none => .error .json
        | some (algorithm, _) =>
          if algorithm ≠ .hs256 then .error .algorithm
          else if Base64Url.encode (Sha256.hmac secret (octetsOf message)) ≠ signature then
            .error .signature
          else match Base64Url.decode? payload with
            | none => .error .base64
            | some payload =>
              match (Json.parseOctets? payload).bind (Decoder.run decodeClaims) with
              | none => .error .json
              | some (claims, _) => .ok claims

/-- The principal a token stands for at a given moment. -/
def verify (secret : List UInt8) (token : String) (now : Timestamp) :
    Except AuthenticationError Principal :=
  match read secret token.toList with
  | .error e => .error e.toAuthenticationError
  | .ok claims =>
    match claims.validate now with
    | .error e => .error e
    | .ok () => .ok (.ofClaims claims)

end TenantAccess.IdentityToken
