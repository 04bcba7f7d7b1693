import Mathlib
import SiteRouting.Content

namespace SiteRouting

/-- There is a site with this content at a path. Its canonical content is its
content unless it is set. -/
inductive HasSite (sites : List SiteNode) (path : String) : SiteContent → Prop where
  | plain {site : SiteNode} (member : site ∈ sites) (here : site.path = path)
      (unset : site.canonicalContentPath = none) : HasSite sites path ⟨site.contentPath, site.contentPath⟩
  | canonical {site : SiteNode} {canonical : String} (member : site ∈ sites) (here : site.path = path)
      (set : site.canonicalContentPath = some canonical) : HasSite sites path ⟨site.contentPath, canonical⟩

/-- The mount point of a mount, and where preview content is looked for. -/
structure MountProperties.PointsTo (properties : MountProperties) (mountPoint preview : String) : Prop where
  set : properties.mountPoint = some mountPoint
  absolute : ∃ rest, mountPoint = "/" ++ rest
  ofPreviewMount : properties.mountType = previewType → preview = mountPoint
  ofOthers : properties.mountType ≠ previewType → preview = mountPoint ++ "-preview"

/-- What follows from the properties of a mount: its mount point for preview,
its content paths, and the warnings. There is one rule for each combination
of what a mount is set to and which sites there are. The mount type decides
the first, and all types together decide whether a preview site counts. -/
inductive MountProperties.Derives (properties : MountProperties) (sites : List SiteNode) :
    Option String → ContentPaths → List Fault → Prop where
  | pointless (unset : properties.mountPoint = none) : properties.Derives sites none {} []
  | unmapped {mountPoint preview : String} (points : properties.PointsTo mountPoint preview)
      (notMapped : properties.isMapped = false) (noSite : ∀ content, ¬ HasSite sites mountPoint content) :
      properties.Derives sites (some preview)
        (.ofContents ⟨mountPoint, mountPoint⟩ ⟨mountPoint, mountPoint⟩) []
  | unmappedSite {mountPoint preview : String} {content : SiteContent}
      (points : properties.PointsTo mountPoint preview) (notMapped : properties.isMapped = false)
      (site : HasSite sites mountPoint content) :
      properties.Derives sites (some preview) (.ofContents content content) []
  | previewMount {mountPoint preview : String} {content : SiteContent}
      (points : properties.PointsTo mountPoint preview) (mapped : properties.isMapped = true)
      (site : HasSite sites mountPoint content) (isPreview : previewType ∈ properties.types) :
      properties.Derives sites (some preview) (.ofContents content content) []
  | twoSites {mountPoint preview : String} {live shown : SiteContent}
      (points : properties.PointsTo mountPoint preview) (mapped : properties.isMapped = true)
      (site : HasSite sites mountPoint live) (notPreview : previewType ∉ properties.types)
      (previewSite : HasSite sites preview shown) :
      properties.Derives sites (some preview) (.ofContents live shown) []
  | missingPreview {mountPoint preview : String} {content : SiteContent}
      (points : properties.PointsTo mountPoint preview) (mapped : properties.isMapped = true)
      (site : HasSite sites mountPoint content) (notPreview : previewType ∉ properties.types)
      (noSite : ∀ content, ¬ HasSite sites preview content) :
      properties.Derives sites (some preview) (.ofContents content content) [.missingPreviewSite preview]

section Sites

variable {sites : List SiteNode} {path : String} {content : SiteContent}

theorem hasSite_iff :
    HasSite sites path content ↔ ∃ site ∈ sites, site.path = path ∧ site.content = content := by
  constructor
  · intro has
    cases has with
    | plain member here unset => exact ⟨_, member, here, by rw [SiteNode.content, unset]; rfl⟩
    | canonical member here set => exact ⟨_, member, here, by rw [SiteNode.content, set]; rfl⟩
  · rintro ⟨site, member, here, rfl⟩
    rw [SiteNode.content]
    cases canonical : site.canonicalContentPath with
    | none => exact .plain member here canonical
    | some shown => exact .canonical member here canonical

theorem siteAt?_eq_none_iff : siteAt? sites path = none ↔ ∀ content, ¬ HasSite sites path content := by
  simp only [siteAt?, Option.map_eq_none_iff, List.find?_eq_none, List.mem_reverse, beq_iff_eq, hasSite_iff]
  constructor
  · rintro absent content ⟨site, member, here, _⟩
    exact absent site member here
  · intro none site member here
    exact none site.content ⟨site, member, here, rfl⟩

/-- Where no two sites have one path, the last one at a path is the only one. -/
theorem siteAt?_eq_some_iff (distinct : (sites.map (·.path)).Nodup) :
    siteAt? sites path = some content ↔ HasSite sites path content := by
  rw [hasSite_iff, siteAt?, Option.map_eq_some_iff]
  constructor
  · rintro ⟨site, found, rfl⟩
    have here : site.path = path := by simpa using List.find?_some found
    exact ⟨site, List.mem_reverse.mp (List.mem_of_find?_eq_some found), here, rfl⟩
  · rintro ⟨site, member, here, rfl⟩
    cases found : sites.reverse.find? (·.path == path) with
    | none =>
      have absent := List.find?_eq_none.mp found site (List.mem_reverse.mpr member)
      exact absurd (beq_iff_eq.mpr here) absent
    | some other =>
      have same : other.path = path := by simpa using List.find?_some found
      have isSite := List.mem_reverse.mp (List.mem_of_find?_eq_some found)
      exact ⟨site, by rw [List.inj_on_of_nodup_map distinct isSite member (same.trans here.symm)], rfl⟩

end Sites

section Rules

variable {properties : MountProperties} {sites : List SiteNode} {content : ContentPaths}
  {warnings : List Fault}

/-- An absolute mount point has one place where preview content is looked for. -/
theorem MountProperties.pointsTo_iff {mountPoint preview : String} :
    properties.PointsTo mountPoint preview ↔
      properties.mountPoint = some mountPoint ∧ Text.startsWith mountPoint "/" = true ∧
        properties.previewMountPoint = some preview := by
  have named : s!"{mountPoint}-{previewType}" = mountPoint ++ "-preview" := by
    rw [← String.toList_inj]
    simp [toString, previewType]
  constructor
  · intro points
    refine ⟨points.set, Text.startsWith_iff.mpr points.absolute, ?_⟩
    rw [MountProperties.previewMountPoint, points.set, Option.map_some, named]
    split
    · rename_i isPreview
      rw [points.ofPreviewMount (beq_iff_eq.mp isPreview)]
    · rename_i other
      rw [points.ofOthers (mt beq_iff_eq.mpr other)]
  · rintro ⟨set, absolute, shown⟩
    rw [MountProperties.previewMountPoint, set, Option.map_some, named, Option.some.injEq] at shown
    refine ⟨set, Text.startsWith_iff.mp absolute, fun isPreview => ?_, fun other => ?_⟩
    · rw [← shown, if_pos (beq_iff_eq.mpr isPreview)]
    · rw [← shown, if_neg (mt beq_iff_eq.mp other)]

theorem MountProperties.PointsTo.contentPaths {mountPoint preview : String}
    (points : properties.PointsTo mountPoint preview) :
    properties.contentPaths sites =
      if properties.isMapped then mappedPaths sites mountPoint preview properties.isPreview
      else .ok (unmappedPaths sites mountPoint, []) := by
  obtain ⟨set, absolute, shown⟩ := MountProperties.pointsTo_iff.mp points
  rw [MountProperties.contentPaths, set]
  dsimp only
  rw [absolute, shown, Option.getD_some]
  cases properties.isMapped <;> rfl

theorem MountProperties.isPreview_iff : properties.isPreview = true ↔ previewType ∈ properties.types :=
  List.contains_iff_mem

/-- As long as no two sites have one path, what is derived is what a rule
says. Together with its converse this makes the rules exact. -/
theorem MountProperties.derives_of_contentPaths (distinct : (sites.map (·.path)).Nodup)
    (derived : properties.contentPaths sites = .ok (content, warnings)) :
    properties.Derives sites properties.previewMountPoint content warnings := by
  cases set : properties.mountPoint with
  | none =>
    rw [MountProperties.contentPaths, set] at derived
    cases derived
    rw [MountProperties.previewMountPoint, set]
    exact .pointless set
  | some mountPoint =>
    obtain ⟨preview, shown⟩ : ∃ preview, properties.previewMountPoint = some preview :=
      ⟨_, by rw [MountProperties.previewMountPoint, set, Option.map_some]⟩
    have absolute : Text.startsWith mountPoint "/" = true := by
      by_contra relative
      rw [MountProperties.contentPaths, set] at derived
      simp [relative] at derived
    have points := MountProperties.pointsTo_iff.mpr ⟨set, absolute, shown⟩
    rw [points.contentPaths] at derived
    rw [shown]
    split at derived
    · rename_i mapped
      unfold mappedPaths at derived
      split at derived
      · cases derived
      rename_i live site
      have site := (siteAt?_eq_some_iff distinct).mp site
      split at derived
      · rename_i isPreview
        cases derived
        exact .previewMount points mapped site (MountProperties.isPreview_iff.mp isPreview)
      rename_i notPreview
      have notPreview := MountProperties.isPreview_iff.not.mp notPreview
      split at derived
      · rename_i previewSite
        cases derived
        exact .twoSites points mapped site notPreview ((siteAt?_eq_some_iff distinct).mp previewSite)
      · rename_i noSite
        cases derived
        exact .missingPreview points mapped site notPreview (siteAt?_eq_none_iff.mp noSite)
    · rename_i notMapped
      have notMapped := Bool.eq_false_iff.mpr notMapped
      cases derived
      rw [unmappedPaths]
      cases site : siteAt? sites mountPoint with
      | none => exact .unmapped points notMapped (siteAt?_eq_none_iff.mp site)
      | some content => exact .unmappedSite points notMapped ((siteAt?_eq_some_iff distinct).mp site)

theorem MountProperties.Derives.contentPaths {preview : Option String} (distinct : (sites.map (·.path)).Nodup)
    (derives : properties.Derives sites preview content warnings) :
    properties.contentPaths sites = .ok (content, warnings) := by
  have found {path : String} {content : SiteContent} (site : HasSite sites path content) :
      siteAt? sites path = some content := (siteAt?_eq_some_iff distinct).mpr site
  cases derives with
  | pointless unset =>
    rw [MountProperties.contentPaths, unset]
  | unmapped points notMapped noSite =>
    rw [points.contentPaths, notMapped, unmappedPaths, siteAt?_eq_none_iff.mpr noSite]
    rfl
  | unmappedSite points notMapped site =>
    rw [points.contentPaths, notMapped, unmappedPaths, found site]
    rfl
  | previewMount points mapped site isPreview =>
    rw [points.contentPaths, mapped, mappedPaths, found site, MountProperties.isPreview_iff.mpr isPreview]
    rfl
  | twoSites points mapped site notPreview previewSite =>
    rw [points.contentPaths, mapped, mappedPaths, found site,
      Bool.eq_false_iff.mpr (MountProperties.isPreview_iff.not.mpr notPreview), found previewSite]
    rfl
  | missingPreview points mapped site notPreview noSite =>
    rw [points.contentPaths, mapped, mappedPaths, found site,
      Bool.eq_false_iff.mpr (MountProperties.isPreview_iff.not.mpr notPreview),
      siteAt?_eq_none_iff.mpr noSite]
    rfl

theorem MountProperties.contentPaths_eq_ok_iff (distinct : (sites.map (·.path)).Nodup) :
    properties.contentPaths sites = .ok (content, warnings) ↔
      properties.Derives sites properties.previewMountPoint content warnings :=
  ⟨MountProperties.derives_of_contentPaths distinct, fun derives => derives.contentPaths distinct⟩

end Rules

end SiteRouting
