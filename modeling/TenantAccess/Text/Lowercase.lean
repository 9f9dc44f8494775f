import TenantAccess.Text.Lowercase.Table

/-!
# Lower case

The full Unicode lower-case mapping of a text.  Two rules go beyond the character table: a capital
sigma at the end of a word becomes the final form, and a capital I with dot above becomes an i
followed by a combining dot.
-/

namespace TenantAccess.Text

namespace Lowercase

/-- The code point lies on the run. -/
def CaseRun.covers (run : CaseRun) (n : Nat) : Bool :=
  run.first ≤ n && n ≤ run.last && (n - run.first) % run.step = 0

/-- The code point lies in one of the ranges. -/
def inRanges (ranges : List (Nat × Nat)) (n : Nat) : Bool :=
  ranges.any fun range => range.1 ≤ n && n ≤ range.2

/-- A letter with case that is not passed over. -/
def isCased (c : Char) : Bool :=
  inRanges casedRanges c.toNat

/-- A character that is passed over when looking for a neighbouring letter. -/
def isIgnorable (c : Char) : Bool :=
  inRanges ignorableRanges c.toNat

/-- The first character that is not passed over is a letter with case. -/
def meetsLetter (cs : List Char) : Bool :=
  match cs.dropWhile isIgnorable with
  | [] => false
  | c :: _ => isCased c

/-- The lower-case form of one character, whatever stands around it. -/
def ofChar (c : Char) : List Char :=
  if c = 'İ' then ['i', '\u0307']
  else match caseRuns.find? (·.covers c.toNat) with
    | some run => [Char.ofNat (c.toNat - run.first + run.target)]
    | none => [c]

/-- The lower-case form of characters that follow others, given those in reverse. -/
def following (before : List Char) : List Char → List Char
  | [] => []
  | c :: rest =>
    let here :=
      if c = 'Σ' then
        if meetsLetter before && !meetsLetter rest then ['ς'] else ['σ']
      else ofChar c
    here ++ following (c :: before) rest

end Lowercase

/-- The characters in lower case. -/
def lowercaseChars (cs : List Char) : List Char :=
  Lowercase.following [] cs

/-- The text in lower case. -/
def lowercase (s : String) : String :=
  String.ofList (lowercaseChars s.toList)

end TenantAccess.Text
