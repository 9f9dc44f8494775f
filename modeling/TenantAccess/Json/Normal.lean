import TenantAccess.Json.Basic

/-!
# Documents up to the order of fields

An object means the same whatever the order of its fields, and of several fields with one key the last
counts.  Bringing all fields into the order of their keys makes documents of one meaning equal.
-/

namespace TenantAccess.Json

/-- The fields with one more put where its key belongs, in place of one with the same key. -/
def putField (key : String) (value : Json) : List (String × Json) → List (String × Json)
  | [] => [(key, value)]
  | (other, held) :: rest =>
    if key = other then (key, value) :: rest
    else if key < other then (key, value) :: (other, held) :: rest
    else (other, held) :: putField key value rest

mutual

/-- The document with the fields of every object in the order of their keys. -/
def normal : Json → Json
  | .null => .null
  | .bool value => .bool value
  | .number value => .number value
  | .string value => .string value
  | .array items => .array (normalItems items)
  | .object fields => .object (normalFields [] fields)
  | .unreadable fault => .unreadable fault

/-- The items of an array, each with its fields in order. -/
def normalItems : List Json → List Json
  | [] => []
  | item :: rest => normal item :: normalItems rest

/-- Fields put in order one after the other into those there already. -/
def normalFields (before : List (String × Json)) : List (String × Json) → List (String × Json)
  | [] => before
  | (key, value) :: rest => normalFields (putField key (normal value) before) rest

end

end TenantAccess.Json
