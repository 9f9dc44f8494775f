import TenantAccess.Json.Basic

/-!
# Decoding documents

A decoder turns a document into a value or refuses it.  Along the way it may drop names it does not
know; the names dropped so far are the decoder's state, so that a caller can report them.
-/

namespace TenantAccess

/-- A computation that may refuse its document and that collects the names it drops. -/
abbrev Decoding := StateT (List String) Option

/-- A reading of documents as values of one type. -/
abbrev Decoder (α : Type) := Json → Decoding α

namespace Decoder

/-- The value of a document and the names dropped from it. -/
def run {α : Type} (decoder : Decoder α) (document : Json) : Option (α × List String) :=
  (decoder document).run []

/-- Refuse the document unless a value is there. -/
def ofOption {α : Type} : Option α → Decoding α
  | some a => pure a
  | none => failure

/-- Report a name as dropped. -/
def drop (name : String) : Decoding Unit := modify (· ++ [name])

/-- A text. -/
def text : Decoder String
  | .string s => pure s
  | _ => failure

/-- `true` or `false`. -/
def bool : Decoder Bool
  | .bool b => pure b
  | _ => failure

/-- An integer of 64 bits with sign, written without fraction and exponent. -/
def int64 : Decoder Int
  | .number (.integer n) =>
    if Int64.minValue.toInt ≤ n ∧ n ≤ Int64.maxValue.toInt then pure n else failure
  | _ => failure

/-- The items of an array, each through the same decoder. -/
def list {α : Type} (item : Decoder α) : Decoder (List α)
  | .array items => items.mapM item
  | _ => failure

/-- A value, or nothing where the document is `null`. -/
def nullable {α : Type} (decoder : Decoder α) : Decoder (Option α)
  | .null => pure none
  | document => some <$> decoder document

/-- One of several names, as a text or as the only key of an object whose value is `null`. -/
def oneOf {α : Type} (names : List (String × α)) : Decoder α
  | .string s => ofOption (names.lookup s)
  | .object [(s, .null)] => ofOption (names.lookup s)
  | _ => failure

end Decoder

/-- The fields of a structure as a document gives them. -/
structure Record where
  fields : List (String × Option Json)

namespace Record

/-- A structure is an object, in which unknown keys are passed over and none of the known ones is
repeated, or an array of all its fields in order. -/
def ofJson (names : List String) : Decoder Record
  | .object fields => do
    let values ← names.mapM fun name =>
      match Json.valuesOf name fields with
      | [] => pure (name, none)
      | [value] => pure (name, some value)
      | _ => failure
    pure ⟨values⟩
  | .array items =>
    if items.length = names.length then pure ⟨names.zip (items.map some)⟩ else failure
  | _ => failure

/-- The document of a field, if the structure has it. -/
def get? (record : Record) (name : String) : Option Json :=
  (record.fields.lookup name).join

/-- A field that must be there. -/
def required {α : Type} (record : Record) (name : String) (decoder : Decoder α) : Decoding α :=
  match record.get? name with
  | some document => decoder document
  | none => failure

/-- A field that may be absent or `null`. -/
def optional {α : Type} (record : Record) (name : String) (decoder : Decoder α) :
    Decoding (Option α) :=
  match record.get? name with
  | some document => Decoder.nullable decoder document
  | none => pure none

end Record
end TenantAccess
