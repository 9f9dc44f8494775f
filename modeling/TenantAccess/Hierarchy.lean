import Std.Data.TreeMap
import TenantAccess.Identifier

/-!
# The site hierarchy of a client

Sites of a client name other sites as their parents.  A hierarchy is built from such pairs when no
site is listed twice and no site comes back to itself along its parents; it then tells the sites
below a given one.  A parent that is not listed counts as none.
-/

namespace TenantAccess

/-- A site and the site it belongs to. -/
structure SiteNode where
  id : SiteId
  parentId : Option SiteId
deriving DecidableEq, Inhabited

namespace SiteNode

/-- A pair in a document. -/
def decode : Decoder SiteNode := fun document => do
  let record ← Record.ofJson ["id", "parent_id"] document
  let id ← record.required "id" Id.decode
  let parentId ← record.optional "parent_id" Id.decode
  pure ⟨id, parentId⟩

/-- The pair as a document. -/
def toJson (node : SiteNode) : Json := .object [
  ("id", node.id.toJson), ("parent_id", .ofOption Id.toJson node.parentId)]

end SiteNode

/-- Why pairs of sites and parents are no hierarchy. -/
inductive HierarchyError where
  /-- Following parents leads around a cycle through this site. -/
  | cycle (site : SiteId)
  /-- The site is listed more than once. -/
  | duplicateSite (site : SiteId)
deriving DecidableEq

namespace HierarchyError

/-- The error as a message. -/
def message : HierarchyError → String
  | cycle site => "site hierarchy contains a cycle through site " ++ site.text
  | duplicateSite site => "site " ++ site.text ++ " appears more than once"

/-- The site the error names. -/
def site : HierarchyError → SiteId
  | cycle site => site
  | duplicateSite site => site

/-- The kind of the error. -/
def kind : HierarchyError → String
  | cycle _ => "Cycle"
  | duplicateSite _ => "DuplicateSite"

end HierarchyError

namespace SiteHierarchy

/-! ### Links -/

/-- The first node whose site an earlier node has. -/
def firstDuplicate? (seen : List SiteId) : List SiteNode → Option SiteId
  | [] => none
  | node :: rest =>
    if seen.contains node.id then some node.id else firstDuplicate? (node.id :: seen) rest

/-- The given parent of every listed site. -/
def givenParents (nodes : List SiteNode) : Std.TreeMap SiteId (Option SiteId) :=
  nodes.foldl (fun given node => given.insert node.id node.parentId) ∅

/-- The listed parent of every listed site. -/
def parentLinks (nodes : List SiteNode) : Std.TreeMap SiteId (Option SiteId) :=
  let given := givenParents nodes
  given.map fun _ parent => parent.filter given.contains

/-- The parent of a site, if it is listed and has one that is. -/
def parentIn (links : Std.TreeMap SiteId (Option SiteId)) (site : SiteId) : Option SiteId :=
  (links.get? site).join

/-! ### Cycles -/

/-- How far the search for a cycle has come with a site. -/
inductive Mark where
  /-- It is on the path that is being followed. -/
  | onPath
  /-- The path up from it is known to end. -/
  | done
deriving DecidableEq

abbrev Marks := Std.TreeMap SiteId Mark

/-- Follow parents up from a site and mark the path, until there is no parent or one that is done; a
site that is on the path already lies on a cycle. Each turn but the last marks a site, so that one
turn more than there are sites is enough. -/
def follow (parent? : SiteId → Option SiteId) :
    Nat → Marks → List SiteId → Option SiteId → Except HierarchyError (Marks × List SiteId)
  | 0, marks, path, _ | _ + 1, marks, path, none => .ok (marks, path)
  | turns + 1, marks, path, some site =>
    match marks[site]? with
    | some .done => .ok (marks, path)
    | some .onPath => .error (.cycle site)
    | none => follow parent? turns (marks.insert site .onPath) (path ++ [site]) (parent? site)

/-- The sites of a path are done. -/
def finish (marks : Marks) (path : List SiteId) : Marks :=
  path.foldl (fun marks site => marks.insert site .done) marks

/-- Follow parents up from a site, and be done with the path. -/
def settle (parent? : SiteId → Option SiteId) (turns : Nat) (marks : Marks) (start : SiteId) :
    Except HierarchyError Marks := do
  let (marks, path) ← follow parent? turns marks [] (some start)
  pure (finish marks path)

/-- Follow parents up from one site after the other. -/
def detectCycle (sites : List SiteId) (parent? : SiteId → Option SiteId) :
    Except HierarchyError Unit := do
  let _ ← sites.foldlM (settle parent? (sites.length + 1)) ∅

/-! ### What lies below -/

/-- For each key the values it is paired with, in order. -/
def index (pairs : List (SiteId × SiteId)) : Std.TreeMap SiteId (List SiteId) :=
  pairs.foldr (fun pair found => found.insert pair.1 (pair.2 :: found.getD pair.1 [])) ∅

/-- The children of each site that has any, in the order of the sites. -/
def childLinks (sites : List SiteId) (parent? : SiteId → Option SiteId) :
    Std.TreeMap SiteId (List SiteId) :=
  index (sites.filterMap fun site => (parent? site).map (·, site))

/-- The sites that are waiting, then their children, and so on down. Each site has one turn. -/
def breadthFirst (children : SiteId → List SiteId) : Nat → List SiteId → List SiteId
  | 0, _ | _ + 1, [] => []
  | turns + 1, site :: queue =>
    site :: breadthFirst children turns (queue ++ children site)

/-- Sites in ascending order. -/
def sorted (sites : List SiteId) : List SiteId := sites.mergeSort fun a b => decide (a ≤ b)

/-- Going back through sites that come before their children: below each one are its children and
what has been found below these. -/
def gather (children : SiteId → List SiteId) : List SiteId → Std.TreeMap SiteId (List SiteId)
  | [] => ∅
  | site :: later =>
    let found := gather children later
    found.insert site <| sorted <|
      (children site).flatMap fun child => child :: found.getD child []

end SiteHierarchy

/-- The sites of a client with the sites below each of them. -/
structure SiteHierarchy where
  /-- For every site those below it, in ascending order. -/
  descendants : Std.TreeMap SiteId (List SiteId)

namespace SiteHierarchy

instance : Inhabited SiteHierarchy := ⟨⟨∅⟩⟩

/-- Build the hierarchy of sites with the given parents. -/
def ofParents (sites : List SiteId) (parent? : SiteId → Option SiteId) :
    Except HierarchyError SiteHierarchy := do
  detectCycle sites parent?
  let links := childLinks sites parent?
  let children := fun site => links.getD site []
  let roots := sites.filter fun site => (parent? site).isNone
  pure ⟨gather children (breadthFirst children sites.length roots)⟩

/-- Build the hierarchy of the listed sites. They are visited in ascending order, so that the site
of an error is always the same. -/
def build (nodes : List SiteNode) : Except HierarchyError SiteHierarchy :=
  match firstDuplicate? [] nodes with
  | some site => .error (.duplicateSite site)
  | none => ofParents (givenParents nodes).keys (parentIn (parentLinks nodes))

/-- The sites below a site, in ascending order; none for a site that is not listed. -/
def descendantsOf (hierarchy : SiteHierarchy) (site : SiteId) : List SiteId :=
  hierarchy.descendants.getD site []

/-- Every site, in ascending order. -/
def sites (hierarchy : SiteHierarchy) : List SiteId := hierarchy.descendants.keys

/-- The site is listed. -/
def contains (hierarchy : SiteHierarchy) (site : SiteId) : Bool :=
  hierarchy.descendants.contains site

/-- The number of sites. -/
def size (hierarchy : SiteHierarchy) : Nat := hierarchy.descendants.size

/-- There are no sites. -/
def isEmpty (hierarchy : SiteHierarchy) : Bool := hierarchy.descendants.isEmpty

end SiteHierarchy
end TenantAccess
