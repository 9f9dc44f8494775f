import TenantAccess.Grant
import TenantAccess.Hierarchy
import TenantAccess.SiteSet

/-!
# Visible sites

Which sites of its client a grant lets its holder see: all of them from the scope CLIENT up, a site
and everything below it for SITE_GROUP, one site for SITE, and none otherwise.
-/

namespace TenantAccess

/-- The sites a grant makes visible. -/
inductive VisibleSites where
  /-- No restriction: no site may be filtered out. -/
  | all
  /-- These sites only. -/
  | sites (ids : SiteSet)
deriving DecidableEq, Inhabited

namespace VisibleSites

/-- No site. -/
def none : VisibleSites := sites .empty

/-- There is no restriction. -/
def isAll : VisibleSites → Bool
  | all => true
  | sites _ => false

/-- The site is visible. -/
def contains (visible : VisibleSites) (site : SiteId) : Bool :=
  match visible with
  | all => true
  | sites ids => ids.contains site

/-- The visible sites, when they are restricted. -/
def ids? : VisibleSites → Option SiteSet
  | all => Option.none
  | sites ids => some ids

/-- The value of the setting that tells a database the visible sites: a star for all, else their
identifiers joined by commas. -/
def setting : VisibleSites → String
  | all => "*"
  | sites ids => ",".intercalate (ids.toList.map Id.text)

/-- The sites a grant makes visible, given what lies below a site. -/
def ofGrant (grant : EffectiveGrant) (descendantsOf : SiteId → List SiteId) : VisibleSites :=
  if grant.scope.atLeast .client then all
  else match grant.scope, grant.siteId with
    | .siteGroup, some site => sites ((SiteSet.ofList (descendantsOf site)).insert site)
    | .site, some site => sites (SiteSet.empty.insert site)
    | _, _ => none

/-- The two ways to tell visible sites in a document. -/
inductive Kind where
  | all
  | sites
deriving DecidableEq, Repr

/-- The kinds by name. -/
def Kind.named : List (String × Kind) := [("all", .all), ("sites", .sites)]

/-- The kind and the list of sites in a document. Under its key the kind is written like any other
name, in an array only as a text. -/
def decodeKind : Decoder (Kind × Option Json)
  | .object fields =>
    match Json.valuesOf "kind" fields, Json.valuesOf "site_ids" fields with
    | [kind], [] => do pure (← Decoder.oneOf Kind.named kind, Option.none)
    | [kind], [content] => do pure (← Decoder.oneOf Kind.named kind, some content)
    | _, _ => failure
  | .array [.string kind, content] => do
    pure (← Decoder.ofOption (Kind.named.lookup kind), some content)
  | _ => failure

/-- Visible sites in a document: an object with the keys `kind` and `site_ids`, or an array of both
values. All sites are listed by no value but `null`. -/
def decode : Decoder VisibleSites := fun document => do
  match ← decodeKind document with
  | (.all, Option.none) => pure all
  | (.all, some .null) => pure all
  | (.sites, some content) => sites <$> SiteSet.decode content
  | _ => failure

/-- Visible sites as a document. -/
def toJson : VisibleSites → Json
  | all => .object [("kind", .string "all")]
  | sites ids => .object [("kind", .string "sites"), ("site_ids", ids.toJson)]

end VisibleSites
end TenantAccess
