import TenantAccess.Claims

/-!
# Principals

The authenticated caller of a unit of work.
-/

namespace TenantAccess

/-- An authenticated caller. -/
structure Principal where
  idpId : IdpId
  email : String
  username : String
  givenName : Option String
  familyName : Option String
  /-- The full name the identity provider gave, if it gave one. -/
  fullName : Option String
deriving DecidableEq, Repr, Inhabited

namespace Principal

/-- A principal of whom no names are known. -/
def unnamed (idpId : IdpId) (email username : String) : Principal :=
  ⟨idpId, email, username, none, none, none⟩

/-- The principal with the given names in place of those known before. -/
def withNames (principal : Principal) (givenName familyName fullName : Option String) :
    Principal :=
  { principal with givenName, familyName, fullName }

/-- The principal that claims describe; without a preferred user name the email stands for it. -/
def ofClaims (claims : IdentityClaims) : Principal where
  idpId := claims.subject
  email := claims.email
  username := claims.preferredUsername.getD claims.email
  givenName := claims.givenName
  familyName := claims.familyName
  fullName := claims.name

/-- The name to show: the full name, else the given and family names, else the user name. -/
def displayName (principal : Principal) : String :=
  match principal.fullName, principal.givenName, principal.familyName with
  | some name, _, _ => name
  | none, some given, some family => given ++ " " ++ family
  | none, some given, none => given
  | none, none, some family => family
  | none, none, none => principal.username

/-- A principal in a document. -/
def decode : Decoder Principal := fun document => do
  let record ← Record.ofJson
    ["idp_id", "email", "username", "given_name", "family_name", "display_name"] document
  let idpId ← record.required "idp_id" IdpId.decode
  let email ← record.required "email" Decoder.text
  let username ← record.required "username" Decoder.text
  let givenName ← record.optional "given_name" Decoder.text
  let familyName ← record.optional "family_name" Decoder.text
  let fullName ← record.optional "display_name" Decoder.text
  pure { idpId, email, username, givenName, familyName, fullName }

/-- The principal as a document. -/
def toJson (principal : Principal) : Json := .object [
  ("idp_id", principal.idpId.toJson),
  ("email", .string principal.email),
  ("username", .string principal.username),
  ("given_name", .ofText? principal.givenName),
  ("family_name", .ofText? principal.familyName),
  ("display_name", .ofText? principal.fullName)]

end Principal
end TenantAccess
