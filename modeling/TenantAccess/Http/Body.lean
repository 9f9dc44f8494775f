import TenantAccess.Invalidation
import TenantAccess.Json.Reader

/-!
# Bodies of requests

Reading an invalidation message from the body of a request.  The body is read from left to right
and the first thing wrong with it counts: its kind is judged where it stands, and its other fields
once the document has ended.  What follows the document is not looked at.
-/

namespace TenantAccess.Http

/-- Why a body is no message. -/
inductive BodyError where
  /-- It does not follow the grammar of documents, or a value in it cannot be held. -/
  | notDocument
  /-- The document has another shape. -/
  | otherShape
deriving DecidableEq, Repr

namespace Body

/-- A value that is held until the kind of the message is known, and what follows it. -/
def readHeld (cs : List Char) : Except BodyError (Json × List Char) :=
  match Json.readBeginning? .characters cs with
  | some (value, rest) =>
    if Json.holdable (Json.maxDepth - 1) value then .ok (value, rest) else .error .notDocument
  | none => .error .notDocument

/-- A value that is no array and no object, and what follows it. -/
def readScalar (cs : List Char) : Except BodyError (Json × List Char) :=
  match Json.skipSpace cs with
  | '[' :: _ | '\x7b' :: _ => .error .otherShape
  | cs =>
    match Json.readBeginning? .characters cs with
    | some (value, rest) =>
      if Json.holdable 0 value then .ok (value, rest) else .error .notDocument
    | none => .error .notDocument

/-- The kind of a message, and what follows it. -/
def readKind (cs : List Char) : Except BodyError (String × List Char) := do
  match ← readScalar cs with
  | (.string kind, rest) =>
    if InvalidationMessage.kinds.contains kind then pure (kind, rest) else throw .otherShape
  | _ => throw .otherShape

/-- The name of a field up to its closing quote, and what follows it. -/
def readName (cs : List Char) : Except BodyError (String × List Char) :=
  match Json.skipSpace cs with
  | '"' :: rest =>
    match Json.readQuoted [] rest with
    | some (written, rest) =>
      match Json.quotedText .characters written with
      | .ok name => .ok (name, rest)
      | .error _ => .error .notDocument
    | none => .error .notDocument
  | _ => .error .notDocument

/-- What follows a colon. -/
def readColon (cs : List Char) : Except BodyError (List Char) :=
  match Json.skipSpace cs with
  | ':' :: rest => .ok rest
  | _ => .error .notDocument

/-- What follows a comma, or nothing at the end of the array or object. -/
def readComma (closing : Char) (cs : List Char) : Except BodyError (Option (List Char)) :=
  match Json.skipSpace cs with
  | ',' :: rest => .ok (some rest)
  | c :: _ => if c = closing then .ok none else .error .notDocument
  | [] => .error .notDocument

/-- The fields of an object from a given one on: the kind of the message, and the other fields.
`fuel` bounds the number of fields. -/
def readFields : Nat → Option String → List (String × Json) → List Char →
    Except BodyError (Option String × List (String × Json))
  | 0, _, _, _ => .error .notDocument
  | fuel + 1, kind, before, cs => do
    let (name, rest) ← readName cs
    if name = "kind" then
      if kind.isSome then throw .otherShape
      let (kind, rest) ← readKind (← readColon rest)
      match ← readComma '\x7d' rest with
      | some rest => readFields fuel (some kind) before rest
      | none => pure (some kind, before.reverse)
    else
      let (value, rest) ← readHeld (← readColon rest)
      match ← readComma '\x7d' rest with
      | some rest => readFields fuel kind ((name, value) :: before) rest
      | none => pure (kind, ((name, value) :: before).reverse)

/-- The items of an array after a given place. `fuel` bounds their number. -/
def readItems : Nat → List Json → List Char → Except BodyError (List Json)
  | 0, _, _ => .error .notDocument
  | fuel + 1, before, cs => do
    match ← readComma ']' cs with
    | none => pure before.reverse
    | some rest =>
      let (value, rest) ← readHeld rest
      readItems fuel (value :: before) rest

/-- The kind of a message and its fields, as an object or as an array. -/
def readParts (cs : List Char) : Except BodyError (String × Json) :=
  match Json.skipSpace cs with
  | '\x7b' :: rest =>
    match Json.skipSpace rest with
    | '\x7d' :: _ => .error .otherShape
    | rest => do
      match ← readFields (rest.length + 1) none [] rest with
      | (some kind, fields) => pure (kind, .object fields)
      | (none, _) => throw .otherShape
  | '[' :: rest =>
    match Json.skipSpace rest with
    | ']' :: _ => .error .otherShape
    | rest => do
      let (kind, rest) ← readKind rest
      pure (kind, .array (← readItems (rest.length + 1) [] rest))
  | cs => do
    let _ ← readScalar cs
    throw .otherShape

/-- The message in a body. -/
def readMessage (body : String) : Except BodyError InvalidationMessage := do
  let (kind, fields) ← readParts body.toList
  match Decoder.run (InvalidationMessage.decodeFields (.string kind)) fields with
  | some (message, _) => pure message
  | none => throw .otherShape

end Body
end TenantAccess.Http
