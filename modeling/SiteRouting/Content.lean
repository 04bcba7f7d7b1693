import SiteRouting.Properties

namespace SiteRouting

/-- The content of a site, and the canonical content that it shows, which is
the same unless it is set. -/
structure SiteContent where
  contentPath : String
  canonicalContentPath : String
  deriving DecidableEq, Repr

def SiteNode.content (site : SiteNode) : SiteContent :=
  ⟨site.contentPath, site.canonicalContentPath.getD site.contentPath⟩

/-- The site at a path; of several nodes with one path the last one counts. -/
def siteAt? (sites : List SiteNode) (path : String) : Option SiteContent :=
  (sites.reverse.find? (·.path == path)).map SiteNode.content

/-- The content paths of a mount. Its mount point names a site; live requests
see the content of that site, and preview requests the content of the site
beside it that is named for preview. -/
structure ContentPaths where
  contentPath : Option String := none
  canonicalContentPath : Option String := none
  previewContentPath : Option String := none
  previewCanonicalContentPath : Option String := none
  deriving DecidableEq, Repr

/-- The paths of a mount that shows live and preview content from two places,
which may be one and the same. -/
def ContentPaths.ofContents (live preview : SiteContent) : ContentPaths where
  contentPath := some live.contentPath
  canonicalContentPath := some live.canonicalContentPath
  previewContentPath := some preview.contentPath
  previewCanonicalContentPath := some preview.canonicalContentPath

/-- The mount point for preview: a preview mount's own, else the one
named after it. -/
def MountProperties.previewMountPoint (properties : MountProperties) : Option String :=
  properties.mountPoint.map fun mountPoint =>
    if properties.mountType == previewType then mountPoint
    else s!"{mountPoint}-{previewType}"

def MountProperties.isPreview (properties : MountProperties) : Bool :=
  properties.types.contains previewType

/-- The paths of a mapped mount: its mount point has to be a site; a missing
preview site is reported and replaced by the live one. -/
def mappedPaths (sites : List SiteNode) (mountPoint previewMountPoint : String) (isPreview : Bool) :
    Except Fault (ContentPaths × List Fault) :=
  match siteAt? sites mountPoint with
  | none => .error (.unknownSiteRoot mountPoint)
  | some live =>
    if isPreview then .ok (.ofContents live live, [])
    else match siteAt? sites previewMountPoint with
      | some preview => .ok (.ofContents live preview, [])
      | none => .ok (.ofContents live live, [.missingPreviewSite previewMountPoint])

/-- The paths of an unmapped mount, which may point anywhere. If it points to
a site, it shows the content of that site. -/
def unmappedPaths (sites : List SiteNode) (mountPoint : String) : ContentPaths :=
  let content := (siteAt? sites mountPoint).getD ⟨mountPoint, mountPoint⟩
  .ofContents content content

/-- The content paths that follow from a mount's properties, with the
warnings on the way. -/
def MountProperties.contentPaths (properties : MountProperties) (sites : List SiteNode) :
    Except Fault (ContentPaths × List Fault) :=
  match properties.mountPoint with
  | none => .ok ({}, [])
  | some mountPoint =>
    if !Text.startsWith mountPoint "/" then .error (.relativeMountPoint mountPoint)
    else if !properties.isMapped then .ok (unmappedPaths sites mountPoint, [])
    else mappedPaths sites mountPoint (properties.previewMountPoint.getD "") properties.isPreview

end SiteRouting
