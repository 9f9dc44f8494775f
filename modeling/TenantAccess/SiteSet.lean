import TenantAccess.Identifier

/-!
# Sets of sites

A finite set of sites is the strictly ascending list of its members, so that equal sets are equal
values and a set is always shown in the same order.
-/

namespace TenantAccess

/-- A finite set of sites. -/
structure SiteSet where
  toList : List SiteId
  ascending : toList.Pairwise (· < ·)
deriving DecidableEq

namespace SiteSet

/-- A list with one more member in its place. -/
def place (a : SiteId) : List SiteId → List SiteId
  | [] => [a]
  | b :: rest =>
    if a < b then a :: b :: rest
    else if a = b then b :: rest
    else b :: place a rest

/-- Putting a site in its place adds that site and nothing else. -/
theorem mem_place {a c : SiteId} {ids : List SiteId} : c ∈ place a ids ↔ c = a ∨ c ∈ ids := by
  induction ids with
  | nil => simp [place]
  | cons b rest ih =>
    unfold place
    split
    · simp
    · split
      · rename_i h
        subst h
        simp
      · simp only [List.mem_cons, ih]
        exact ⟨fun h => by grind, fun h => by grind⟩

/-- An ascending list stays ascending, and so has no site twice. -/
theorem place_ascending {a : SiteId} {ids : List SiteId} (h : ids.Pairwise (· < ·)) :
    (place a ids).Pairwise (· < ·) := by
  induction ids with
  | nil => simp [place]
  | cons b rest ih =>
    obtain ⟨hb, hrest⟩ := List.pairwise_cons.mp h
    unfold place
    split
    · rename_i hab
      refine List.pairwise_cons.mpr ⟨fun c hc => ?_, h⟩
      rcases List.mem_cons.mp hc with rfl | hc
      · exact hab
      · exact Id.lt_trans hab (hb c hc)
    · split
      · exact h
      · rename_i hab hne
        refine List.pairwise_cons.mpr ⟨fun c hc => ?_, ih hrest⟩
        rcases mem_place.mp hc with rfl | hc
        · exact Id.lt_of_not_lt_of_ne hab hne
        · exact hb c hc

/-- The set without members. -/
def empty : SiteSet := ⟨[], List.Pairwise.nil⟩

/-- The set with one more member. -/
def insert (set : SiteSet) (site : SiteId) : SiteSet :=
  ⟨place site set.toList, place_ascending set.ascending⟩

/-- The set of the listed sites. -/
def ofList (sites : List SiteId) : SiteSet := sites.foldr (fun site set => set.insert site) empty

/-- The site is a member. -/
def contains (set : SiteSet) (site : SiteId) : Bool := set.toList.contains site

instance : Inhabited SiteSet := ⟨empty⟩

/-- A set with one more site has that site and those it had. -/
@[simp] theorem mem_toList_insert {set : SiteSet} {site other : SiteId} :
    other ∈ (set.insert site).toList ↔ other = site ∨ other ∈ set.toList := mem_place

/-- The members of the set of a list are those of the list. -/
theorem mem_toList_ofList {site : SiteId} {sites : List SiteId} :
    site ∈ (ofList sites).toList ↔ site ∈ sites := by
  induction sites with
  | nil => simp [ofList, empty]
  | cons first rest ih => simpa [ofList] using or_congr Iff.rfl ih

/-- A set in a document is an array of sites in any order, repeated or not. -/
def decode : Decoder SiteSet := fun document => ofList <$> Decoder.list Id.decode document

/-- The set as a document. -/
def toJson (set : SiteSet) : Json := .array (set.toList.map Id.toJson)

end SiteSet
end TenantAccess
