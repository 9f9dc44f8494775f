import TenantAccess.Capability
import TenantAccess.Json.Decoder

/-!
# Sets of capabilities

A set is a word of 64 bits with one bit for each capability.  Names of capabilities are decoded in
two ways: leniently, dropping the names that are not known, and strictly, refusing the list and
reporting them.
-/

namespace TenantAccess

/-- A set of capabilities, one bit each. -/
structure CapabilitySet where
  bits : BitVec 64
deriving DecidableEq, Inhabited

/-- The bit of a capability. -/
def Capability.bit (c : Capability) : BitVec 64 := BitVec.twoPow 64 c.index

namespace CapabilitySet

/-- The set without members. -/
def empty : CapabilitySet := ⟨0⟩

/-- The set with one more member. -/
def insert (set : CapabilitySet) (c : Capability) : CapabilitySet := ⟨set.bits ||| c.bit⟩

/-- The set with one member less. -/
def remove (set : CapabilitySet) (c : Capability) : CapabilitySet := ⟨set.bits &&& ~~~c.bit⟩

/-- The capability is a member. -/
def has (set : CapabilitySet) (c : Capability) : Bool := set.bits &&& c.bit != 0

/-- One of the capabilities is a member. -/
def hasAny (set : CapabilitySet) (cs : List Capability) : Bool := cs.any set.has

/-- Each of the capabilities is a member. -/
def hasAll (set : CapabilitySet) (cs : List Capability) : Bool := cs.all set.has

/-- The members of either set. -/
def union (a b : CapabilitySet) : CapabilitySet := ⟨a.bits ||| b.bits⟩

/-- No bit is set. -/
def isEmpty (set : CapabilitySet) : Bool := set.bits == 0

/-- The number of bits set. -/
def size (set : CapabilitySet) : Nat := ((List.range 64).filter set.bits.getLsbD).length

/-- The set of the listed capabilities. -/
def ofList (cs : List Capability) : CapabilitySet := cs.foldl insert empty

/-- The set of all capabilities. -/
def full : CapabilitySet := ofList Capability.all

/-- The members in the order of `Capability.all`. -/
def toList (set : CapabilitySet) : List Capability := Capability.all.filter set.has

/-- The names of the members in the order of `Capability.all`. -/
def names (set : CapabilitySet) : List String := set.toList.map Capability.name

/-- The members shown between braces. -/
def display (set : CapabilitySet) : String :=
  "\x7b" ++ ", ".intercalate (set.names.map fun name => "\"" ++ name ++ "\"") ++ "\x7d"

/-! ## Decoding names -/

/-- Take one name into account: a known one becomes a member, another one is dropped. -/
def admitName (state : CapabilitySet × List String) (name : String) :
    CapabilitySet × List String :=
  match Capability.ofName? name with
  | some c => (state.1.insert c, state.2)
  | none => (state.1, state.2 ++ [name])

/-- The set that stored names describe, and the names dropped because they are not known. -/
def ofNames (names : List String) : CapabilitySet × List String :=
  names.foldl admitName (empty, [])

/-- The set that names describe, or the unknown names among them. -/
def ofNamesStrict (names : List String) : Except (List String) CapabilitySet :=
  let known := names.filterMap Capability.ofName?
  let unknown := names.filter fun name => (Capability.ofName? name).isNone
  if unknown.isEmpty then .ok (ofList known) else .error unknown

/-- A set in a document is a list of names, of which the unknown ones are dropped. -/
def decode : Decoder CapabilitySet := fun document => do
  let names ← Decoder.list Decoder.text document
  let (set, dropped) := ofNames names
  dropped.forM Decoder.drop
  pure set

/-- The set as a document. -/
def toJson (set : CapabilitySet) : Json := Json.strings set.names

end CapabilitySet
end TenantAccess
