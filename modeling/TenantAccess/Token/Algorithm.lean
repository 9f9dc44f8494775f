/-!
# Algorithms of tokens

The algorithms with which tokens are signed, and those a key can be meant for, by their registered
names.
-/

namespace TenantAccess.IdentityToken

/-- A signature algorithm that a header can name. -/
inductive Algorithm where
  | hs256
  | hs384
  | hs512
  | es256
  | es384
  | rs256
  | rs384
  | rs512
  | ps256
  | ps384
  | ps512
  | edDSA
deriving DecidableEq, Repr

namespace Algorithm

/-- The algorithms by name. -/
def named : List (String × Algorithm) := [
  ("HS256", hs256), ("HS384", hs384), ("HS512", hs512), ("ES256", es256), ("ES384", es384),
  ("RS256", rs256), ("RS384", rs384), ("RS512", rs512), ("PS256", ps256), ("PS384", ps384),
  ("PS512", ps512), ("EdDSA", edDSA)]

/-- The names of what a key can be meant for: signing, or the encryption of another key. -/
def keyNames : List String := named.map (·.1) ++ ["RSA1_5", "RSA-OAEP", "RSA-OAEP-256"]

end Algorithm

end TenantAccess.IdentityToken
