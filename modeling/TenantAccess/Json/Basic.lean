/-!
# JSON documents

A document as a value.  An object keeps its fields in order with repetitions, because a repeated
field is an error for some readers; an integer is kept apart from other numbers, because a field
that wants an integer refuses `1.0`.  What follows the grammar but stands for no value is kept too,
because a reader that is not interested in it passes over it.
-/

namespace TenantAccess

/-- A number of a document. -/
inductive Json.Number where
  /-- Written without fraction and exponent. -/
  | integer (value : Int)
  /-- Any other number, as written: with a fraction, with an exponent, or `-0`. -/
  | decimal (literal : String)
deriving DecidableEq, Repr, Inhabited

/-- Where a reader is left that fails on a value. -/
inductive Json.Fault where
  /-- Behind the value. -/
  | behind
  /-- Before the end of the value. -/
  | within
deriving DecidableEq, Repr, Inhabited

/-- A JSON document. -/
inductive Json where
  | null
  | bool (value : Bool)
  | number (value : Json.Number)
  | string (value : String)
  | array (items : List Json)
  | object (fields : List (String × Json))
  /-- Something that follows the grammar and has no value: what stands between its quotes is no
  text, or one of its keys is none. -/
  | unreadable (fault : Json.Fault)
deriving Repr, Inhabited

namespace Json

/-- An integer as a document. -/
def int (n : Int) : Json := .number (.integer n)

/-- A natural number as a document. -/
def nat (n : Nat) : Json := .int n

/-- A value or `null`. -/
def ofOption {α : Type} (encode : α → Json) : Option α → Json
  | none => .null
  | some a => encode a

/-- A text or `null`. -/
def ofText? (s : Option String) : Json := ofOption .string s

/-- An array of texts. -/
def strings (values : List String) : Json := .array (values.map .string)

/-- An object that holds a field only when it has a value. -/
def objectOfSome (fields : List (String × Option Json)) : Json :=
  .object (fields.filterMap fun (name, value) => value.map (name, ·))

/-- The values of the fields with a given name, in order. -/
def valuesOf (name : String) (fields : List (String × Json)) : List Json :=
  (fields.filter (·.1 == name)).map (·.2)

/-- The last value of a field of an object; nothing for other documents. -/
def field? (name : String) : Json → Option Json
  | .object fields => (valuesOf name fields).getLast?
  | _ => none

end Json
end TenantAccess
