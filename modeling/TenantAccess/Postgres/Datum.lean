import TenantAccess.Json.Decoder
import TenantAccess.Statement

/-!
# Data of PostgreSQL

Values as they travel between a client and a PostgreSQL server, as parameters of a request and as
columns of a row.  Every value has a type, and so has the missing value.
-/

namespace TenantAccess.Postgres

/-- A type of the server. -/
inductive ColumnType where
  | text
  | uuid
  | bool
  | int8
  | timestamptz
  | texts
  | uuids
  | jsonb
deriving DecidableEq, Repr, Inhabited

namespace ColumnType

/-- Every type. -/
def all : List ColumnType := [text, uuid, bool, int8, timestamptz, texts, uuids, jsonb]

/-- The name of the type. -/
def name : ColumnType → String
  | text => "text"
  | uuid => "uuid"
  | bool => "bool"
  | int8 => "int8"
  | timestamptz => "timestamptz"
  | texts => "text[]"
  | uuids => "uuid[]"
  | jsonb => "jsonb"

end ColumnType

/-- A value of the server. An array can lack the value of an item. -/
inductive Datum where
  /-- No value of the given type. -/
  | null (type : ColumnType)
  | text (value : String)
  | uuid (value : Uuid)
  | bool (value : Bool)
  | int8 (value : Int)
  /-- A moment, kept to the microsecond. -/
  | timestamptz (value : Timestamp)
  | texts (values : List (Option String))
  | uuids (values : List (Option Uuid))
  | jsonb (value : Json)
deriving Inhabited

namespace Datum

/-- The type of the value. -/
def type : Datum → ColumnType
  | null type => type
  | text _ => .text
  | uuid _ => .uuid
  | bool _ => .bool
  | int8 _ => .int8
  | timestamptz _ => .timestamptz
  | texts _ => .texts
  | uuids _ => .uuids
  | jsonb _ => .jsonb

/-- There is no value. -/
def isNull : Datum → Bool
  | null _ => true
  | _ => false

/-- The value as a document. -/
def valueJson : Datum → Json
  | null _ => .null
  | text value => .string value
  | uuid value => .string value.text
  | bool value => .bool value
  | int8 value => .int value
  | timestamptz value => .string value.text
  | texts values => .array (values.map .ofText?)
  | uuids values => .array (values.map fun value => .ofText? (value.map Uuid.text))
  | jsonb value => value

/-- The value and its type as a document. -/
def toJson (datum : Datum) : Json := .array [.string datum.type.name, datum.valueJson]

/-- The value of a statement's parameter as it is sent. -/
def ofParam : SqlValue → Datum
  | .null => null .text
  | .nullUuid => null .uuid
  | .bool value => bool value
  | .int value => int8 value
  | .text value => text value
  | .uuid value => uuid value
  | .timestamp value => timestamptz value.toMicroseconds
  | .json value => jsonb value
  | .uuids values => uuids (values.map some)
  | .texts values => texts (values.map some)

/-! ## Reading values -/

/-- The text, if the value is one. -/
def text? : Datum → Option String
  | text value => some value
  | _ => none

/-- The identifier, if the value is one. -/
def uuid? : Datum → Option Uuid
  | uuid value => some value
  | _ => none

/-- The truth value, if the value is one. -/
def bool? : Datum → Option Bool
  | bool value => some value
  | _ => none

/-- The moment, if the value is one. -/
def timestamptz? : Datum → Option Timestamp
  | timestamptz value => some value
  | _ => none

/-- The list of texts, if the value is one and none of them is missing. -/
def texts? : Datum → Option (List String)
  | texts values => values.mapM id
  | _ => none

/-- The document, if the value is one. -/
def jsonb? : Datum → Option Json
  | jsonb value => some value
  | _ => none

end Datum

/-- A row of an answer: its columns in order, each with its name. -/
abbrev Row := List (String × Datum)

namespace Row

/-- The value of a column. If several columns have the name, the last of them counts. -/
def get? (row : Row) (name : String) : Option Datum := row.reverse.lookup name

/-- The value of a column that must have a value. -/
def required {α : Type} (row : Row) (name : String) (read : Datum → Option α) : Option α :=
  (row.get? name).bind read

/-- The value of a column that may have none. -/
def nullable {α : Type} (row : Row) (name : String) (read : Datum → Option α) :
    Option (Option α) :=
  match row.get? name with
  | none => none
  | some (.null _) => some none
  | some datum => (read datum).map some

end Row
end TenantAccess.Postgres
