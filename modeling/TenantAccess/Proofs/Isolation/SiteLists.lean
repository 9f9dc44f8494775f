import TenantAccess.VisibleSites
import TenantAccess.Proofs.Identifiers

/-!
# Lists of sites in settings

The setting that tells a database the visible sites can be read back: a star is for all sites, no
text for none, and anything else lists the sites between commas.  So no two ways to see sites have
the same setting.

* `Text.split_intercalate`: what is joined by a separator is what splitting at it gives.
* `VisibleSites.mapM_parse_split`: a list of some sites reads back.
* `VisibleSites.setting_reads_back`: so does every setting.
-/

namespace TenantAccess

namespace Text

/-- Splitting is that of the library. -/
theorem splitChars_eq_splitOn (separator : Char) (cs : List Char) :
    splitChars separator cs = cs.splitOn separator := by
  induction cs with
  | nil => simp [splitChars]
  | cons c rest ih =>
    rw [splitChars, List.splitOn, List.splitOnP_cons_eq_if_modifyHead, ih]
    by_cases hc : c = separator
    · simp [hc, List.splitOn]
    · obtain ⟨piece, pieces, hpieces⟩ :=
        List.exists_cons_of_ne_nil (List.splitOnP_ne_nil (· == separator) rest)
      simp [hc, List.splitOn, hpieces]

/-- Joining texts without the separator, and splitting them again. -/
theorem split_intercalate {separator : Char} {texts : List String}
    (h : ∀ s ∈ texts, separator ∉ s.toList) (hne : texts ≠ []) :
    split separator ((String.singleton separator).intercalate texts) = texts := by
  have hpieces : ∀ piece ∈ texts.map String.toList, separator ∉ piece :=
    List.forall_mem_map.mpr h
  rw [split, splitChars_eq_splitOn, String.toList_intercalate, String.toList_singleton,
    List.splitOn_intercalate separator hpieces (by simpa using hne), List.map_map]
  simp

end Text

/-- Identifiers read back one by one. -/
theorem Id.mapM_parse_text {kind : IdKind} (ids : List (Id kind)) :
    (ids.map Id.text).mapM Id.parse = .ok ids := by
  induction ids with
  | nil => rfl
  | cons id rest ih =>
    rw [List.map_cons, List.mapM_cons, Id.parse_text, ih]
    rfl

namespace VisibleSites

/-- The pieces between the commas of a list of sites are the sites, one by one. -/
theorem mapM_parse_split {ids : SiteSet} (h : ids ≠ .empty) :
    (Text.split ',' (sites ids).setting).mapM Id.parse = .ok ids.toList := by
  have hne : ids.toList.map Id.text ≠ [] := by
    intro hnil
    obtain ⟨toList, hascending⟩ := ids
    obtain rfl : toList = [] := List.map_eq_nil_iff.mp hnil
    exact h rfl
  have hcomma : ∀ s ∈ ids.toList.map Id.text, ',' ∉ s.toList :=
    List.forall_mem_map.mpr fun id _ => id.comma_not_mem_text
  have hpieces : Text.split ',' (sites ids).setting = ids.toList.map Id.text :=
    Text.split_intercalate hcomma hne
  rw [hpieces, Id.mapM_parse_text]

/-- A list of some sites is neither a star nor empty, which are not read as sites. -/
theorem setting_ne {ids : SiteSet} (h : ids ≠ .empty) :
    (sites ids).setting ≠ "*" ∧ (sites ids).setting ≠ "" := by
  have hreads := mapM_parse_split h
  refine ⟨fun hstar => ?_, fun hempty => ?_⟩
  · rw [hstar] at hreads
    cases hreads
  · rw [hempty] at hreads
    cases hreads

/-- The setting is a star for all sites only. -/
theorem setting_eq_star_iff {visible : VisibleSites} : visible.setting = "*" ↔ visible = all := by
  refine ⟨fun hstar => ?_, fun hall => hall ▸ rfl⟩
  rcases visible with _ | ids
  · rfl
  · by_cases hids : ids = .empty
    · subst hids
      exact absurd hstar (by decide)
    · exact absurd hstar (setting_ne hids).1

/-- The setting is empty for no sites only. -/
theorem setting_eq_empty_iff {visible : VisibleSites} :
    visible.setting = "" ↔ visible = sites .empty := by
  refine ⟨fun hempty => ?_, fun hnone => hnone ▸ rfl⟩
  rcases visible with _ | ids
  · exact absurd hempty (by decide)
  · by_cases hids : ids = .empty
    · rw [hids]
    · exact absurd hempty (setting_ne hids).2

/-- Different ways to see sites have different settings. -/
theorem setting_injective : Function.Injective setting := by
  intro visible other hsame
  rcases visible with _ | ids
  · exact (setting_eq_star_iff.mp hsame.symm).symm
  by_cases hids : ids = .empty
  · subst hids
    exact (setting_eq_empty_iff.mp hsame.symm).symm
  rcases other with _ | others
  · exact setting_eq_star_iff.mp hsame
  by_cases hothers : others = .empty
  · subst hothers
    exact setting_eq_empty_iff.mp hsame
  have hreads := mapM_parse_split hids
  rw [hsame, mapM_parse_split hothers] at hreads
  obtain ⟨toList, hascending⟩ := ids
  obtain rfl : others.toList = toList := Except.ok.inj hreads
  rfl

/-- The setting of visible sites can be read back. It is a star exactly for all sites, and empty
exactly for none; otherwise the pieces between its commas are the identifiers of exactly the visible
sites, each once and in ascending order. So no set of sites is written as all of them, and visible
sites with the same setting are the same. -/
theorem setting_reads_back (visible : VisibleSites) :
    (visible.setting = "*" ↔ visible = all) ∧
    (visible.setting = "" ↔ visible = sites .empty) ∧
    (∀ ids, visible = sites ids → ids ≠ .empty →
      (Text.split ',' visible.setting).mapM Id.parse = .ok ids.toList ∧
      ids.toList.Pairwise (· < ·) ∧ ∀ site, visible.contains site = true ↔ site ∈ ids.toList) ∧
    ∀ other : VisibleSites, other.setting = visible.setting → other = visible := by
  refine ⟨setting_eq_star_iff, setting_eq_empty_iff, ?_, fun other hsame => setting_injective hsame⟩
  rintro ids rfl hids
  exact ⟨mapM_parse_split hids, ids.ascending, fun site => List.contains_iff_mem⟩

/-- Two sites, given out of order and one of them twice. -/
theorem setting_reads_back_two :
    let ids := SiteSet.ofList [.ofNat 0xd002, .ofNat 0xd001, .ofNat 0xd002]
    ids ≠ .empty ∧ (sites ids).setting =
      "00000000-0000-0000-0000-00000000d001,00000000-0000-0000-0000-00000000d002" ∧
    (Text.split ',' (sites ids).setting).mapM Id.parse =
      .ok [(.ofNat 0xd001 : SiteId), .ofNat 0xd002] := by
  intro ids
  have hids : ids ≠ .empty := by decide
  exact ⟨hids, by decide +kernel, ((setting_reads_back (sites ids)).2.2.1 ids rfl hids).1⟩

end VisibleSites

end TenantAccess
