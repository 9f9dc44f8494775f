import TenantAccess.Json.Quoted

/-!
# Reading JSON

The strict grammar of RFC 8259: no trailing text, no leading zeros and no control characters in
texts.  Reading fails where the grammar is broken; what follows the grammar without being a text is
read as such, and documents of the wrong shape are a matter of the decoders.
-/

namespace TenantAccess.Json

/-- Blanks between the tokens of a document. -/
def isSpace (c : Char) : Bool := c = ' ' || c = '\t' || c = '\n' || c = '\r'

/-- The characters without the blanks before the next token. -/
def skipSpace (cs : List Char) : List Char := cs.dropWhile isSpace

/-- One or more digits, and what follows them. -/
def digits? (cs : List Char) : Option (List Char × List Char) :=
  let digits := cs.takeWhile Char.isDigit
  if digits.isEmpty then none else some (digits, cs.drop digits.length)

/-- A number, and what follows it. -/
def readNumber (cs : List Char) : Option (Number × List Char) := do
  let (negative, rest) := match cs with
    | '-' :: rest => (true, rest)
    | _ => (false, cs)
  let (whole, rest) ← match rest with
    | '0' :: rest =>
      if (rest.head?.map Char.isDigit).getD false then none else some (['0'], rest)
    | _ => digits? rest
  let (fraction, rest) ← match rest with
    | '.' :: rest => (digits? rest).map fun (ds, rest) => ('.' :: ds, rest)
    | _ => some ([], rest)
  let (exponent, rest) ← match rest with
    | 'e' :: rest | 'E' :: rest =>
      let (sign, rest) := match rest with
        | '+' :: rest => (['+'], rest)
        | '-' :: rest => (['-'], rest)
        | _ => ([], rest)
      (digits? rest).map fun (ds, rest) => ('e' :: sign ++ ds, rest)
    | _ => some ([], rest)
  let value := Text.decimalValue whole
  if fraction.isEmpty ∧ exponent.isEmpty ∧ ¬(negative ∧ value = 0) then
    some (.integer (if negative then -value else value), rest)
  else
    let sign := if negative then ['-'] else []
    some (.decimal (String.ofList (sign ++ whole ++ fraction ++ exponent)), rest)

/-- The value that stands between quotes. -/
def ofQuoted (encoding : Encoding) (written : List Char) : Json :=
  match quotedText encoding written with
  | .ok text => .string text
  | .error fault => .unreadable fault

/-- The object with the given fields, some of whose keys may be no texts. -/
def ofFields (fields : List (Option String × Json)) : Json :=
  match fields.mapM fun (key, value) => key.map (·, value) with
  | some fields => .object fields
  | none => .unreadable .within

mutual

/-- A document, and what follows it. `fuel` bounds the number of tokens still read. -/
def readValue (encoding : Encoding) : Nat → List Char → Option (Json × List Char)
  | 0, _ => none
  | fuel + 1, cs =>
    match skipSpace cs with
    | 'n' :: 'u' :: 'l' :: 'l' :: rest => some (.null, rest)
    | 't' :: 'r' :: 'u' :: 'e' :: rest => some (.bool true, rest)
    | 'f' :: 'a' :: 'l' :: 's' :: 'e' :: rest => some (.bool false, rest)
    | '"' :: rest =>
      (readQuoted [] rest).map fun (written, rest) => (ofQuoted encoding written, rest)
    | '[' :: rest =>
      match skipSpace rest with
      | ']' :: rest => some (.array [], rest)
      | rest => (readItems encoding fuel [] rest).map fun (items, rest) => (.array items, rest)
    | '\x7b' :: rest =>
      match skipSpace rest with
      | '\x7d' :: rest => some (.object [], rest)
      | rest =>
        (readFields encoding fuel [] rest).map fun (fields, rest) => (ofFields fields, rest)
    | cs => (readNumber cs).map fun (n, rest) => (.number n, rest)

/-- The items of an array up to its end, those before given in reverse. -/
def readItems (encoding : Encoding) :
    Nat → List Json → List Char → Option (List Json × List Char)
  | 0, _, _ => none
  | fuel + 1, before, cs =>
    match readValue encoding fuel cs with
    | none => none
    | some (item, rest) =>
      match skipSpace rest with
      | ',' :: rest => readItems encoding fuel (item :: before) rest
      | ']' :: rest => some ((item :: before).reverse, rest)
      | _ => none

/-- The fields of an object up to its end, those before given in reverse. A key that is no text is
left out. -/
def readFields (encoding : Encoding) : Nat → List (Option String × Json) → List Char →
    Option (List (Option String × Json) × List Char)
  | 0, _, _ => none
  | fuel + 1, before, cs =>
    match skipSpace cs with
    | '"' :: rest =>
      match readQuoted [] rest with
      | none => none
      | some (key, rest) =>
        match skipSpace rest with
        | ':' :: rest =>
          match readValue encoding fuel rest with
          | none => none
          | some (value, rest) =>
            let field := ((quotedText encoding key).toOption, value)
            match skipSpace rest with
            | ',' :: rest => readFields encoding fuel (field :: before) rest
            | '\x7d' :: rest => some ((field :: before).reverse, rest)
            | _ => none
        | _ => none
    | _ => none

end

/-- The document at the beginning of a text, and what follows it. Each step of the reader passes at
least one character, so twice the length is enough fuel. -/
def readBeginning? (encoding : Encoding) (cs : List Char) : Option (Json × List Char) :=
  readValue encoding (2 * cs.length + 1) cs

/-- Read characters that are one document. -/
def parseChars? (encoding : Encoding) (cs : List Char) : Option Json := do
  let (document, rest) ← readBeginning? encoding cs
  if (skipSpace rest).isEmpty then some document else none

/-- Read a text that is one document. -/
def parse? (s : String) : Option Json := parseChars? .characters s.toList

/-- Read octets that are one document in UTF-8. -/
def parseOctets? (octets : List UInt8) : Option Json :=
  parseChars? .octets (octets.map fun octet => Char.ofNat octet.toNat)

end TenantAccess.Json
