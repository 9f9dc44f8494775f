import TenantAccess.Json.Magnitude

/-!
# Documents that can be held

A reader that does not know the type of a value yet has to hold the value in memory.  It can hold
documents of limited depth whose numbers fit a floating-point number of 64 bits and whose texts are
texts.  A reader that fails on an item of an array or a field of an object still takes the closing
bracket if it stands next.
-/

namespace TenantAccess.Json

/-- The greatest nesting of arrays and objects that is held. -/
def maxDepth : Nat := 127

/-- The failure on a member of an array or object as one on the whole. -/
def Fault.ofMember (isLast : Bool) : Fault → Fault
  | behind => if isLast then behind else within
  | within => within

mutual

/-- How holding a document fails, if it does, when it may be nested below `depth` levels. -/
def fault? : Nat → Json → Option Fault
  | _, .null => none
  | _, .bool _ => none
  | _, .string _ => none
  | _, .number n => n.fault?
  | _, .unreadable fault => some fault
  | 0, .array _ => some .within
  | 0, .object _ => some .within
  | depth + 1, .array items => itemsFault? depth items
  | depth + 1, .object fields => fieldsFault? depth fields

/-- How holding the items of an array fails. -/
def itemsFault? : Nat → List Json → Option Fault
  | _, [] => none
  | depth, item :: rest =>
    match fault? depth item with
    | some fault => some (fault.ofMember rest.isEmpty)
    | none => itemsFault? depth rest

/-- How holding the fields of an object fails. -/
def fieldsFault? : Nat → List (String × Json) → Option Fault
  | _, [] => none
  | depth, (_, value) :: rest =>
    match fault? depth value with
    | some fault => some (fault.ofMember rest.isEmpty)
    | none => fieldsFault? depth rest

end

/-- The document can be held when it may be nested below `depth` levels. -/
def holdable (depth : Nat) (document : Json) : Bool := (fault? depth document).isNone

/-- A reader that tries to hold the document, and does not mind when that fails, is left behind the
document in either case. -/
def passable (depth : Nat) (document : Json) : Bool := fault? depth document != some .within

end TenantAccess.Json
