import TenantAccess.Identifier
import TenantAccess.Timestamp

/-!
# Statements

A statement is a text of SQL with the values of its parameters, and for a write the resource it
changes.  Some resources may belong to no client at all; a statement that writes one can point at
the parameter holding the owner, so that the owner can be stamped where the caller left it empty.
-/

namespace TenantAccess

/-- The value of a parameter. -/
inductive SqlValue where
  /-- No value of unknown type. -/
  | null
  /-- No identifier. -/
  | nullUuid
  | bool (value : Bool)
  | int (value : Int)
  | text (value : String)
  | uuid (value : Uuid)
  | timestamp (value : Timestamp)
  | json (value : Json)
  | uuids (values : List Uuid)
  | texts (values : List String)
deriving Inhabited

namespace SqlValue

/-- There is no value. -/
def isNull : SqlValue → Bool
  | null | nullUuid => true
  | _ => false

/-- An identifier that may be missing. -/
def ofUuid? : Option Uuid → SqlValue
  | some value => uuid value
  | none => nullUuid

/-- A text that may be missing. -/
def ofText? : Option String → SqlValue
  | some value => text value
  | none => null

/-- The name of the value's type. -/
def typeName : SqlValue → String
  | null => "null"
  | nullUuid => "null_uuid"
  | bool _ => "bool"
  | int _ => "int"
  | text _ => "text"
  | uuid _ => "uuid"
  | timestamp _ => "timestamp"
  | json _ => "json"
  | uuids _ => "uuids"
  | texts _ => "texts"

/-- The value as a document. -/
def valueJson : SqlValue → Json
  | null | nullUuid => .null
  | bool value => .bool value
  | int value => .int value
  | text value => .string value
  | uuid value => .string value.text
  | timestamp value => .string value.text
  | json value => value
  | uuids values => .strings (values.map Uuid.text)
  | texts values => .strings values

/-- The value and its type as a document. -/
def toJson (value : SqlValue) : Json := .object [
  ("t", .string value.typeName), ("v", value.valueJson), ("is_null", .bool value.isNull)]

end SqlValue

/-- Whether a statement returns rows or the number of rows it affected. -/
inductive StatementKind where
  | query
  | execute
deriving DecidableEq, Repr, Inhabited

/-- The name of the kind. -/
def StatementKind.text : StatementKind → String
  | query => "query"
  | execute => "execute"

/-- A family of resources that belong to tenants. -/
inductive Resource where
  | asset
  | inspection
  | inspectionTemplate
  | category
  | product
  | customQuestion
  | site
  | client
  | membership
deriving DecidableEq, Repr, Inhabited

namespace Resource

/-- Every family of resources. -/
def all : List Resource := [
  asset, inspection, inspectionTemplate, category, product, customQuestion, site, client,
  membership]

/-- The name of the family. -/
def text : Resource → String
  | asset => "asset"
  | inspection => "inspection"
  | inspectionTemplate => "inspection_template"
  | category => "category"
  | product => "product"
  | customQuestion => "custom_question"
  | site => "site"
  | client => "client"
  | membership => "membership"

/-- The resource may belong to no client, but must not come to do so through a write on behalf of a
user. -/
def stampsOwner : Resource → Bool
  | category | product | customQuestion => true
  | _ => false

end Resource

/-- What a write does to its resource. -/
inductive WriteOp where
  | insert
  | update
  | delete
deriving DecidableEq, Repr, Inhabited

namespace WriteOp

/-- Every kind of write. -/
def all : List WriteOp := [insert, update, delete]

/-- The name of the kind of write. -/
def text : WriteOp → String
  | insert => "insert"
  | update => "update"
  | delete => "delete"

end WriteOp

/-- The resource a statement writes. -/
structure WriteTarget where
  resource : Resource
  op : WriteOp
  /-- The place, counted from zero, of the parameter that holds the owning client. -/
  ownerParam : Option Nat
deriving DecidableEq, Repr, Inhabited

/-- The target as a document. -/
def WriteTarget.toJson (target : WriteTarget) : Json := .object [
  ("resource", .string target.resource.text),
  ("op", .string target.op.text),
  ("owner_param", .ofOption .nat target.ownerParam)]

/-- A statement and what has to be known about it. -/
structure Statement where
  sql : String
  params : List SqlValue
  kind : StatementKind
  target : Option WriteTarget
deriving Inhabited

namespace Statement

/-- A statement that writes nothing. -/
def plain (kind : StatementKind) (sql : String) (params : List SqlValue) : Statement :=
  ⟨sql, params, kind, none⟩

/-- The statement as a write of a resource, without a parameter for the owner. -/
def writes (statement : Statement) (resource : Resource) (op : WriteOp) : Statement :=
  { statement with target := some ⟨resource, op, none⟩ }

/-- The statement with the place of the owner's parameter, if it is a write. -/
def ownerAt (statement : Statement) (index : Nat) : Statement :=
  { statement with target := statement.target.map ({ · with ownerParam := some index }) }

/-- The statement writes a resource. -/
def isWrite (statement : Statement) : Bool := statement.target.isSome

/-- The place of the owner's parameter, where the owner is missing and has to be stamped. -/
def unownedParam? (statement : Statement) : Option Nat := do
  let target ← statement.target
  let index ← target.ownerParam
  let param ← statement.params[index]?
  if target.resource.stampsOwner && param.isNull then some index else none

/-- The statement with a missing owner stamped. -/
def stampOwner (statement : Statement) (client : ClientId) : Statement :=
  match statement.unownedParam? with
  | some index => { statement with params := statement.params.set index (.uuid client.uuid) }
  | none => statement

/-- The statement as a document. -/
def toJson (statement : Statement) : Json := .object [
  ("sql", .string statement.sql),
  ("kind", .string statement.kind.text),
  ("params", .array (statement.params.map SqlValue.toJson)),
  ("target", .ofOption WriteTarget.toJson statement.target),
  ("is_write", .bool statement.isWrite)]

end Statement

/-- What a statement brought about. -/
structure StatementOutcome where
  rowsAffected : Nat := 0
  /-- One object for each returned row. -/
  rows : List Json := []
deriving Inhabited

/-- The outcome as a document. -/
def StatementOutcome.toJson (outcome : StatementOutcome) : Json := .object [
  ("rows_affected", .nat outcome.rowsAffected), ("rows", .array outcome.rows)]

end TenantAccess
