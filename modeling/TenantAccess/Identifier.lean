import TenantAccess.DomainError
import TenantAccess.Json.Decoder
import TenantAccess.Uuid

/-!
# Identifiers of the domain

Clients, sites, roles and memberships are named by identifiers of different types, so that one
cannot stand for another.  Principals are named by the text their identity provider gives them.
-/

namespace TenantAccess

/-- What an identifier names. -/
inductive IdKind where
  | client
  | site
  | role
  | membership
deriving DecidableEq, Repr

/-- The name of the identifier's type in messages. -/
def IdKind.label : IdKind → String
  | client => "ClientId"
  | site => "SiteId"
  | role => "RoleId"
  | membership => "MembershipId"

/-- An identifier of one kind of thing. -/
structure Id (kind : IdKind) where
  uuid : Uuid
deriving DecidableEq, Inhabited

abbrev ClientId := Id .client
abbrev SiteId := Id .site
abbrev RoleId := Id .role
abbrev MembershipId := Id .membership

namespace Id

variable {kind : IdKind}

instance : Ord (Id kind) := ⟨fun a b => compare a.uuid b.uuid⟩

/-- The identifier with the given number. -/
def ofNat (n : Nat) : Id kind := ⟨.ofNat n⟩

/-- The written form. -/
def text (id : Id kind) : String := id.uuid.text

instance : ToString (Id kind) := ⟨text⟩

/-- Read an identifier that blanks may surround. -/
def parse (s : String) : Except DomainError (Id kind) :=
  match Uuid.parse (Text.trim s) with
  | .ok uuid => .ok ⟨uuid⟩
  | .error e => .error (.invalidId (kind.label ++ ": " ++ e.message))

/-- An identifier in a document is a text without blanks around it. -/
def decode : Decoder (Id kind) := fun document => do
  let s ← Decoder.text document
  let uuid ← Decoder.ofOption (Uuid.ofText? s)
  pure ⟨uuid⟩

/-- The identifier as a document. -/
def toJson (id : Id kind) : Json := .string id.text

instance : LE (Id kind) := ⟨fun a b => a.uuid ≤ b.uuid⟩

instance : LT (Id kind) := ⟨fun a b => a.uuid < b.uuid⟩

instance (a b : Id kind) : Decidable (a ≤ b) := inferInstanceAs (Decidable (a.uuid ≤ b.uuid))

instance (a b : Id kind) : Decidable (a < b) := inferInstanceAs (Decidable (a.uuid < b.uuid))

/-- Smaller is a matter of the numbers. -/
theorem lt_iff {a b : Id kind} : a < b ↔ a.uuid.toNat < b.uuid.toNat := Iff.rfl

/-- The order of identifiers is transitive. -/
theorem lt_trans {a b c : Id kind} (h : a < b) (h' : b < c) : a < c :=
  Nat.lt_trans (m := b.uuid.toNat) h h'

/-- Identifiers with the same number are the same. -/
theorem eq_of_toNat_eq {a b : Id kind} (h : a.uuid.toNat = b.uuid.toNat) : a = b := by
  obtain ⟨⟨a⟩⟩ := a
  obtain ⟨⟨b⟩⟩ := b
  simpa [Uuid.toNat, BitVec.toNat_inj] using h

/-- Of two different identifiers one is smaller. -/
theorem lt_of_not_lt_of_ne {a b : Id kind} (h : ¬a < b) (hne : a ≠ b) : b < a := by
  rw [lt_iff] at h ⊢
  have : a.uuid.toNat ≠ b.uuid.toNat := fun he => hne (eq_of_toNat_eq he)
  omega

end Id

/-- The name an identity provider gives to a principal. -/
structure IdpId where
  text : String
deriving DecidableEq, Repr, Inhabited

namespace IdpId

instance : ToString IdpId := ⟨text⟩

/-- Any text of a document is such a name. -/
def decode : Decoder IdpId := fun document => IdpId.mk <$> Decoder.text document

/-- The name as a document. -/
def toJson (id : IdpId) : Json := .string id.text

end IdpId
end TenantAccess
