import TenantAccess.Text.Ascii

/-!
# Media types

The type, the subtype and the suffix that a media type names, as in `application/problem+json`, and
whether the document it describes is written in JSON.  Parameters have to be well formed and mean
nothing here.
-/

namespace TenantAccess.Http

/-- A media type without its parameters. -/
structure MediaType where
  type : String
  /-- What stands before the last plus sign. -/
  subtype : String
  /-- What stands after the last plus sign. -/
  suffix : Option String
deriving DecidableEq, Repr

namespace MediaType

/-- A character of a name. -/
def isNameChar (c : Char) : Bool :=
  c.isAlphanum || "!#$%&'*+-.^_\x60|~".toList.contains c

/-- A character that may stand between quotes. -/
def isQuotable (c : Char) : Bool := 0x20 ≤ c.toNat && c.toNat ≠ 0x7F

/-- What reading parameters expects next. -/
inductive ParameterState where
  /-- The beginning of a parameter. -/
  | start
  /-- More of a name. -/
  | name
  /-- The first character of a value. -/
  | valueStart
  /-- More of a value without quotes. -/
  | value
  /-- The first character between quotes, which is not their end. -/
  | quotedStart
  /-- More of a value between quotes, where a backslash is a character like any other. -/
  | quoted
  /-- What follows a value between quotes. -/
  | afterQuotes
deriving DecidableEq, Repr

/-- What is expected after a character, if the character is expected. -/
def ParameterState.next? (state : ParameterState) (c : Char) : Option ParameterState :=
  match state with
  | start =>
    if c = ' ' then some start else if isNameChar c then some name else none
  | name =>
    if c = '=' then some valueStart else if isNameChar c then some name else none
  | valueStart =>
    if c = '"' then some quotedStart else if isNameChar c then some value else none
  | value =>
    if c = ';' then some start else if isNameChar c then some value else none
  | quotedStart => if isQuotable c then some quoted else none
  | quoted =>
    if c = '"' then some afterQuotes else if isQuotable c then some quoted else none
  | afterQuotes =>
    if c = ';' then some start else if c = ' ' then some afterQuotes else none

/-- Parameters may end here. -/
def ParameterState.isEnd : ParameterState → Bool
  | start | valueStart | value | afterQuotes => true
  | name | quotedStart | quoted => false

/-- What follows the first semicolon is a list of parameters; nothing may follow it. -/
def areParameters (cs : List Char) : Bool :=
  match cs.foldlM ParameterState.next? .start with
  | some state => state.isEnd
  | none => false

/-- What stands before and after the last plus sign that is not the first character. -/
def splitSuffix (cs : List Char) : List Char × Option (List Char) :=
  match cs.reverse.span (· != '+') with
  | (after, _ :: before) =>
    if before.isEmpty then (cs, none) else (before.reverse, some after.reverse)
  | (_, []) => (cs, none)

/-- Read a media type. -/
def ofText? (text : String) : Option MediaType :=
  let (type, rest) := text.toList.span (· != '/')
  match rest with
  | [] => none
  | _ :: rest =>
    let (name, parameters) := rest.span (· != ';')
    let (subtype, suffix) := splitSuffix name
    if !type.isEmpty && type.all isNameChar && name.all isNameChar
        && (parameters.isEmpty || !name.isEmpty) && areParameters (parameters.drop 1) then
      some ⟨String.ofList type, String.ofList subtype, suffix.map String.ofList⟩
    else none

/-- A document of this type is written in JSON. -/
def isJson (media : MediaType) : Bool :=
  Text.equalIgnoringAsciiCase media.type "application" &&
    (Text.equalIgnoringAsciiCase media.subtype "json" ||
      (media.suffix.map (Text.equalIgnoringAsciiCase · "json")).getD false)

end MediaType
end TenantAccess.Http
