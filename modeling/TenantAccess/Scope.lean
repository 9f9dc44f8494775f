import TenantAccess.Json.Decoder
import TenantAccess.Text.Ascii
import TenantAccess.Text.Blank

/-!
# Scopes

How far a grant reaches, from the whole system down to the principal's own things.  Scopes form a
chain; a broader scope includes every narrower one.
-/

namespace TenantAccess

/-- How far a grant reaches. -/
inductive Scope where
  | system
  | global
  | client
  | siteGroup
  | site
  | self
deriving DecidableEq, Repr, Inhabited

namespace Scope

/-- Every scope, broadest first. -/
def all : List Scope := [system, global, client, siteGroup, site, self]

/-- The place in the chain; the broadest scope has the highest. -/
def rank : Scope → Nat
  | system => 5
  | global => 4
  | client => 3
  | siteGroup => 2
  | site => 1
  | self => 0

/-- The written form. -/
def text : Scope → String
  | system => "SYSTEM"
  | global => "GLOBAL"
  | client => "CLIENT"
  | siteGroup => "SITE_GROUP"
  | site => "SITE"
  | self => "SELF"

instance : ToString Scope := ⟨text⟩

instance : Ord Scope := ⟨fun a b => compare a.rank b.rank⟩

/-- Reaches as far as the other scope or farther. -/
def atLeast (a b : Scope) : Bool := b.rank ≤ a.rank

/-- Reaches farther than the other scope. -/
def broader (a b : Scope) : Bool := b.rank < a.rank

/-- The broader of two scopes. -/
def max (a b : Scope) : Scope := if b.broader a then b else a

/-- Every scope that reaches as far as the given one, broadest first. -/
def allAtLeast (scope : Scope) : List Scope := all.filter (·.atLeast scope)

/-- Read a scope: blanks around it, the case of ASCII letters and hyphens for underscores do not
matter. -/
def ofText? (s : String) : Option Scope :=
  let wanted := String.ofList
    ((Text.asciiUpper (Text.trim s)).toList.map fun c => if c = '-' then '_' else c)
  all.find? (·.text == wanted)

/-- The message for a text that is no scope. -/
def unknownMessage (s : String) : String := "unknown scope '" ++ s ++ "'"

/-- A scope in a document is its written form. -/
def decode : Decoder Scope := Decoder.oneOf (all.map fun scope => (scope.text, scope))

/-- The scope as a document. -/
def toJson (scope : Scope) : Json := .string scope.text

end Scope
end TenantAccess
