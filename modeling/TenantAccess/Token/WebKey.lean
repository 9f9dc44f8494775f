import TenantAccess.Json.Decoder
import TenantAccess.Token.Algorithm

/-!
# Keys in headers

A header can bring the key that its token is said to be signed with, as an object.  Such a key is not
trusted and so not used, but a header with a malformed one is malformed.
-/

namespace TenantAccess.IdentityToken

/-- What a key is made of. -/
inductive KeyKind where
  | ellipticCurve
  | rsa
  | octets
  | octetPair
deriving DecidableEq, Repr

namespace KeyKind

/-- The kinds by name. -/
def named : List (String × KeyKind) :=
  [("EC", ellipticCurve), ("RSA", rsa), ("oct", octets), ("OKP", octetPair)]

/-- A key of the kind lies on a curve. -/
def hasCurve : KeyKind → Bool
  | ellipticCurve | octetPair => true
  | rsa | octets => false

/-- The names of the numbers that make a key of the kind. -/
def numbers : KeyKind → List String
  | ellipticCurve => ["x", "y"]
  | rsa => ["n", "e"]
  | octets => ["k"]
  | octetPair => ["x"]

/-- The names of the fields of a key of the kind, besides the kind itself. -/
def fields (kind : KeyKind) : List String :=
  if kind.hasCurve then "crv" :: kind.numbers else kind.numbers

end KeyKind

namespace WebKey

/-- The curves a key can lie on. -/
def curves : List (String × Unit) :=
  ["P-256", "P-384", "P-521", "Ed25519"].map (·, ())

/-- The name of an algorithm that a key can be meant for. -/
def checkAlgorithm (name : String) : Decoding Unit := guard (Algorithm.keyNames.contains name)

/-- The algorithm that a key is meant for, as a text or as the only key of an object that holds
nothing. -/
def decodeAlgorithm : Decoder Unit
  | .string name => checkAlgorithm name
  | .object [(name, .null)] => checkAlgorithm name
  | .object [(name, .object [])] => checkAlgorithm name
  | _ => failure

/-- The names of the fields that keys of every kind can have. -/
def commonFields : List String := ["use", "key_ops", "alg", "kid", "x5u", "x5c", "x5t", "x5t#S256"]

/-- The fields that keys of every kind can have are well formed. -/
def decodeCommon : Decoder Unit := fun document => do
  let record ← Record.ofJson commonFields document
  for name in ["use", "kid", "x5u", "x5t", "x5t#S256"] do
    let _ ← record.optional name Decoder.text
  for name in ["key_ops", "x5c"] do
    let _ ← record.optional name (Decoder.list Decoder.text)
  let _ ← record.optional "alg" decodeAlgorithm

/-- The document has what makes a key of the kind. -/
def decodeMaterial (kind : KeyKind) : Decoder Unit := fun document => do
  let record ← Record.ofJson kind.fields document
  if kind.hasCurve then record.required "crv" (Decoder.oneOf curves)
  for name in kind.numbers do
    let _ ← record.required name Decoder.text

/-- The kind of a key in a document. -/
def decode : Decoder KeyKind := fun document => do
  match document with
  | .object fields =>
    decodeCommon document
    let kind ← match Json.valuesOf "kty" fields with
      | [kind] => Decoder.oneOf KeyKind.named kind
      | _ => failure
    decodeMaterial kind document
    pure kind
  | _ => failure

end WebKey
end TenantAccess.IdentityToken
