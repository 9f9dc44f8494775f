/-!
# Blank characters

The characters that count as white space wherever a value is trimmed: those with the Unicode
property White_Space.  Zero-width characters (U+200B, U+FEFF) and the information separators
(U+001C to U+001F) are not among them.
-/

namespace TenantAccess.Text

/-- The character has the Unicode property White_Space. -/
def isBlank (c : Char) : Bool :=
  let n := c.toNat
  (0x09 ≤ n && n ≤ 0x0D) || n = 0x20 || n = 0x85 || n = 0xA0 || n = 0x1680 ||
    (0x2000 ≤ n && n ≤ 0x200A) || n = 0x2028 || n = 0x2029 || n = 0x202F || n = 0x205F ||
    n = 0x3000

/-- The characters without the blanks before the first and after the last other character. -/
def trimChars (cs : List Char) : List Char :=
  (((cs.dropWhile isBlank).reverse).dropWhile isBlank).reverse

/-- The text without the blanks around it. -/
def trim (s : String) : String :=
  String.ofList (trimChars s.toList)

/-- The text trimmed, or nothing when it is blank. -/
def nonBlank? (s : String) : Option String :=
  let t := trim s
  if t.isEmpty then none else some t

/-- There is nothing to trim where there are no characters. -/
@[simp] theorem trimChars_nil : trimChars [] = [] := rfl

end TenantAccess.Text
