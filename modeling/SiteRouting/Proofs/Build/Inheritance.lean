import Mathlib
import SiteRouting.Proofs.Build.Correspondence

namespace SiteRouting

/-- The value that the nearest node of a chain sets, its first node included;
where none of them sets one, the last, which is that of the defaults or, for
what hosts do not have, a fixed one. -/
def nearest {σ α : Type} (set : σ → Option α) (last : α) (chain : List σ) : α :=
  (chain.findSome? set).getD last

/-- A node that passes on the properties that hosts and mounts have in common. -/
inductive ChainNode where
  | mount (own : MountSettings)
  | host (own : HostSettings)

def ChainNode.settings : ChainNode → NodeSettings
  | .mount own => own.toNodeSettings
  | .host own => own.toNodeSettings

/-- The scheme that a node sets: on a host a blank one is the default
scheme, on a mount it is none. -/
def ChainNode.scheme? : ChainNode → Option String
  | .mount own => (own.scheme.map Text.trim).filter (!·.isEmpty)
  | .host own => own.scheme.map (schemeOr defaultScheme)

/-- The restriction that a node sets. What is no context path, the empty
one first of all, sets none. -/
def ChainNode.onlyForContextPath? (node : ChainNode) : Option (Option String) :=
  node.settings.onlyForContextPath.map fun path => if isContextPath path then some path else none

/-- The code that a node sets, if it is supported; any other one is
passed over. -/
def ChainNode.responseCode? (node : ChainNode) : Option Nat :=
  node.settings.schemeNotMatchingResponseCode.filter isSupportedResponseCode

def NodeProperties.nearest (last : NodeProperties) (chain : List ChainNode) : NodeProperties where
  scheme := SiteRouting.nearest (·.scheme?) last.scheme chain
  locale := SiteRouting.nearest (·.settings.locale.map some) last.locale chain
  homepage := SiteRouting.nearest (·.settings.homepage.map some) last.homepage chain
  pageNotFound := SiteRouting.nearest (·.settings.pageNotFound.map some) last.pageNotFound chain
  contextPathInUrl := SiteRouting.nearest (·.settings.showContextPath) last.contextPathInUrl chain
  portInUrl := SiteRouting.nearest (·.settings.showPort) last.portInUrl chain
  onlyForContextPath := SiteRouting.nearest (·.onlyForContextPath?) last.onlyForContextPath chain
  versionInPreviewHeader :=
    SiteRouting.nearest (·.settings.versionInPreviewHeader) last.versionInPreviewHeader chain
  cacheable := SiteRouting.nearest (·.settings.cacheable) last.cacheable chain
  defaultResourceBundleId :=
    SiteRouting.nearest (·.settings.defaultResourceBundleId.map some) last.defaultResourceBundleId chain
  schemeNotMatchingResponseCode :=
    SiteRouting.nearest (·.responseCode?) last.schemeNotMatchingResponseCode chain

/-- The mount point that a mount sets. An empty one sets that there is none,
and hides the one from above. -/
def MountSettings.mountPoint? (own : MountSettings) : Option (Option String) :=
  own.mountPoint.map fun path => if path.isEmpty then none else some path

/-- The properties of a mount: the common ones, and the others from the
mounts of the chain alone. -/
def MountProperties.nearest (common : NodeProperties) (mounts : List MountSettings) : MountProperties where
  toNodeProperties := common
  mountType := SiteRouting.nearest (·.mountType) liveType mounts
  extraTypes := SiteRouting.nearest (·.types) [] mounts
  isMapped := SiteRouting.nearest (·.isMapped) true mounts
  isSite := SiteRouting.nearest (·.isSite) true mounts
  namedPipeline := SiteRouting.nearest (·.namedPipeline.map some) none mounts
  embeddedMountPath := SiteRouting.nearest (·.embeddedMountPath.map some) none mounts
  mountPoint := SiteRouting.nearest (·.mountPoint?) none mounts
  authenticated := SiteRouting.nearest (·.authenticated) false mounts
  roles := SiteRouting.nearest (·.roles.map Text.orderedSet) [] mounts
  users := SiteRouting.nearest (·.users.map Text.orderedSet) [] mounts
  subjectBasedSession := SiteRouting.nearest (·.subjectBasedSession) false mounts
  sessionStateful := SiteRouting.nearest (·.sessionStateful) false mounts
  formLoginPage := SiteRouting.nearest (·.formLoginPage.map some) none mounts
  defaultSitemapItemHandlerIds := SiteRouting.nearest (·.defaultSitemapItemHandlerIds) [] mounts

section Nearest

variable {σ α : Type} {set : σ → Option α} {last : α} {chain : List σ}

theorem nearest_cons (own : σ) :
    nearest set last (own :: chain) = (set own).getD (nearest set last chain) := by
  rw [nearest, List.findSome?_cons]
  cases set own <;> rfl

end Nearest

section Overlay

variable {last : NodeProperties} {chain : List ChainNode}

def ChainNode.blankScheme (above : NodeProperties) : ChainNode → String
  | .mount _ => above.scheme
  | .host _ => defaultScheme

def ChainNode.overlay (node : ChainNode) (above : NodeProperties) : NodeProperties :=
  above.overlay node.settings (node.blankScheme above)

theorem orElse_eq_getD_map {α : Type} (own above : Option α) :
    (own <|> above) = (own.map some).getD above := by
  cases own <;> rfl

theorem responseCodeOr_eq (above : Nat) (own : Option Nat) :
    responseCodeOr above own = (own.filter isSupportedResponseCode).getD above := by
  cases own with
  | none => rfl
  | some code =>
    rw [responseCodeOr, Option.filter]
    split <;> rfl

theorem contextPath_apply_eq (above own : Option String) :
    (ContextPathSetting.read own).apply above =
      (own.map fun path => if isContextPath path then some path else none).getD above := by
  cases own with
  | none => rfl
  | some path =>
    rw [ContextPathSetting.read, Option.map_some, Option.getD_some]
    by_cases empty : path.isEmpty
    · have blank : path = "" := String.isEmpty_iff.mp empty
      subst blank
      rfl
    · rw [if_neg empty]
      split <;> rfl

theorem mountPointOr_eq (above own : Option String) :
    mountPointOr above own = (own.map fun path => if path.isEmpty then none else some path).getD above := by
  cases own <;> rfl

theorem scheme_overlay (node : ChainNode) (above : NodeProperties) :
    (node.settings.scheme.map (schemeOr (node.blankScheme above))).getD above.scheme =
      node.scheme?.getD above.scheme := by
  cases node with
  | host own => rfl
  | mount own =>
    rw [ChainNode.settings, ChainNode.scheme?, ChainNode.blankScheme]
    cases own.scheme with
    | none => rfl
    | some scheme =>
      rw [Option.map_some, Option.map_some, Option.getD_some, schemeOr, Option.filter]
      cases (Text.trim scheme).isEmpty <;> rfl

/-- A node in front of a chain overlays what the chain amounts to. -/
theorem NodeProperties.nearest_cons (node : ChainNode) :
    last.nearest (node :: chain) = node.overlay (last.nearest chain) := by
  have scheme := scheme_overlay node (last.nearest chain)
  simp only [NodeProperties.nearest, SiteRouting.nearest_cons, ChainNode.overlay, NodeProperties.overlay,
    NodeProperties.mk.injEq, orElse_eq_getD_map, responseCodeOr_eq, contextPath_apply_eq,
    ChainNode.onlyForContextPath?, ChainNode.responseCode?, and_self, and_true] at scheme ⊢
  exact scheme.symm

end Overlay

section Mounts

variable {common : NodeProperties} {mounts : List MountSettings}

theorem MountProperties.nearest_cons (own : MountSettings) :
    MountProperties.nearest (ChainNode.overlay (.mount own) common) (own :: mounts) =
      own.propertiesBelow (MountProperties.nearest common mounts) := by
  simp only [MountProperties.nearest, SiteRouting.nearest_cons, MountSettings.propertiesBelow,
    MountProperties.mk.injEq, orElse_eq_getD_map, mountPointOr_eq, MountSettings.mountPoint?, and_self,
    and_true]
  rfl

end Mounts

end SiteRouting
