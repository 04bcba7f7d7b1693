import SiteRouting.Config.Writing
import SiteRouting.Locks
import SiteRouting.Registry

namespace SiteRouting

open Data

/-- A resolved mount as it is shown by the admin service and by the
command line alike. -/
def ResolvedMount.summary (resolved : ResolvedMount) : Value :=
  let host := resolved.host
  let mount := resolved.mount
  .table [
    ("host_name", .text host.host.hostName),
    ("host_group", .text host.host.group),
    ("resolved_host_name", .text host.name),
    ("port", natValue host.port),
    ("port_mount", natValue host.portMount.port),
    ("identifier", .text mount.identifier),
    ("name", .text mount.name),
    ("alias", optionValue .text mount.aliasName),
    ("mount_path", .text mount.mountPath),
    ("mount_point", optionValue .text mount.properties.mountPoint),
    ("types", .texts mount.types),
    ("locale", optionValue .text mount.properties.locale),
    ("scheme", .text mount.properties.scheme),
    ("content_path", optionValue .text mount.content.contentPath),
    ("named_pipeline", optionValue .text mount.properties.namedPipeline)]

def ContentPaths.view (content : ContentPaths) : Value :=
  .table [
    ("content_path", optionValue .text content.contentPath),
    ("canonical_content_path", optionValue .text content.canonicalContentPath),
    ("preview_content_path", optionValue .text content.previewContentPath),
    ("preview_canonical_content_path", optionValue .text content.previewCanonicalContentPath)]

def MountLock.view (lock : MountLock) : Value :=
  .table [("locked_by", .text lock.lockedBy), ("locked_on", natValue lock.lockedOn)]

def customPropertiesView (properties : List (String × String)) : Value :=
  .table (properties.map fun (key, value) => (key, .text value))

def Mount.view (mount : Mount) (tree : HostingTree) (lock : Option MountLock) : Value :=
  .table [
    ("identifier", .text mount.identifier),
    ("name", .text mount.name),
    ("alias", optionValue .text mount.aliasName),
    ("host_name", optionValue (fun host => .text host.hostName) (tree.host? mount.host)),
    ("host_group", .text mount.group),
    ("port", natValue mount.port),
    ("mount_path", .text mount.mountPath),
    ("mount_point", optionValue .text mount.properties.mountPoint),
    ("preview_mount_point", optionValue .text mount.properties.previewMountPoint),
    ("types", .texts mount.types),
    ("locale", optionValue .text mount.properties.locale),
    ("scheme", .text mount.properties.scheme),
    ("is_mapped", .bool mount.properties.isMapped),
    ("is_site", .bool mount.properties.isSite),
    ("named_pipeline", optionValue .text mount.properties.namedPipeline),
    ("content", mount.content.view),
    ("properties", customPropertiesView mount.customProperties),
    ("lock", optionValue MountLock.view lock)]

def Issue.view (issue : Issue) : Value :=
  .table [
    ("severity", .text issue.severity.label),
    ("location", .text issue.location),
    ("error", .text issue.fault.message)]

def serviceVersion : String := "0.1.0"

/-- The state of a registry. Whether it was stale is known from before it was
read, since reading it may build a new one. -/
def Registry.statusView (registry : Registry) (wasStale : Bool) : Value :=
  .table [
    ("version", .text serviceVersion),
    ("generation", natValue registry.generation),
    ("stale", .bool wasStale),
    ("host_groups", .texts registry.groupNames),
    ("virtual_hosts", natValue registry.tree.hosts.size),
    ("mounts", natValue registry.tree.mounts.size),
    ("issues", natValue registry.issues.length),
    ("cached_hosts", natValue registry.cache.length)]

end SiteRouting
