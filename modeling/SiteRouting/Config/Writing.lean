import SiteRouting.Config
import SiteRouting.Data.Value

namespace SiteRouting

open Data

def optionValue {α : Type} (write : α → Value) : Option α → Value
  | none => .null
  | some value => write value

def natValue (value : Nat) : Value :=
  .int value

def Defaults.write (defaults : Defaults) : Value :=
  .table [
    ("default_host_name", optionValue .text defaults.defaultHostName),
    ("scheme", optionValue .text defaults.scheme),
    ("locale", optionValue .text defaults.locale),
    ("homepage", optionValue .text defaults.homepage),
    ("page_not_found", optionValue .text defaults.pageNotFound),
    ("show_context_path", .bool defaults.showContextPath),
    ("show_port", .bool defaults.showPort),
    ("default_context_path", optionValue .text defaults.defaultContextPath),
    ("version_in_preview_header", .bool defaults.versionInPreviewHeader),
    ("cacheable", .bool defaults.cacheable),
    ("default_resource_bundle_id", optionValue .text defaults.defaultResourceBundleId),
    ("scheme_not_matching_response_code", natValue defaults.schemeNotMatchingResponseCode),
    ("cms_preview_prefix", optionValue .text defaults.cmsPreviewPath),
    ("channel_manager_host_group", optionValue .text defaults.channelManagerHostGroup),
    ("channel_manager_sites", optionValue .text defaults.channelManagerSites),
    ("prefix_exclusions", .texts defaults.excludedBeginnings),
    ("suffix_exclusions", .texts defaults.excludedEndings),
    ("max_cached_hosts", natValue defaults.maxCachedHosts)]

def SiteNode.write (site : SiteNode) : Value :=
  .table [
    ("path", .text site.path),
    ("content_path", .text site.contentPath),
    ("canonical_content_path", optionValue .text site.canonicalContentPath)]

def NodeSettings.entries (own : NodeSettings) : List (String × Value) := [
  ("scheme", optionValue .text own.scheme),
  ("locale", optionValue .text own.locale),
  ("homepage", optionValue .text own.homepage),
  ("page_not_found", optionValue .text own.pageNotFound),
  ("show_context_path", optionValue .bool own.showContextPath),
  ("show_port", optionValue .bool own.showPort),
  ("only_for_context_path", optionValue .text own.onlyForContextPath),
  ("version_in_preview_header", optionValue .bool own.versionInPreviewHeader),
  ("cacheable", optionValue .bool own.cacheable),
  ("default_resource_bundle_id", optionValue .text own.defaultResourceBundleId),
  ("scheme_not_matching_response_code", optionValue natValue own.schemeNotMatchingResponseCode)]

def MountSettings.entries (own : MountSettings) : List (String × Value) :=
  [("name", .text own.name),
    ("identifier", optionValue .text own.identifier),
    ("alias", optionValue .text own.aliasName),
    ("mount_point", optionValue .text own.mountPoint)] ++
  own.toNodeSettings.entries ++
  [("type", optionValue .text own.mountType),
    ("types", optionValue .texts own.types),
    ("is_mapped", optionValue .bool own.isMapped),
    ("is_site", optionValue .bool own.isSite),
    ("named_pipeline", optionValue .text own.namedPipeline),
    ("embedded_mount_path", optionValue .text own.embeddedMountPath),
    ("authenticated", optionValue .bool own.authenticated),
    ("roles", optionValue .texts own.roles),
    ("users", optionValue .texts own.users),
    ("subject_based_session", optionValue .bool own.subjectBasedSession),
    ("session_stateful", optionValue .bool own.sessionStateful),
    ("form_login_page", optionValue .text own.formLoginPage),
    ("default_sitemap_item_handler_ids", optionValue .texts own.defaultSitemapItemHandlerIds),
    ("properties", .table (own.customProperties.map fun (key, value) => (key, .text value)))]

mutual

def MountNode.write : MountNode → Value
  | .node own mounts => .table (own.entries ++ [("mounts", .list (writeMounts mounts))])

def writeMounts : List MountNode → List Value
  | [] => []
  | mount :: rest => mount.write :: writeMounts rest

end

def PortNode.write (node : PortNode) : Value :=
  .table [("port", natValue node.port), ("root", optionValue MountNode.write node.root)]

mutual

def HostNode.write : HostNode → Value
  | .node own root ports hosts =>
    .table ([("name", .text own.name)] ++ own.toNodeSettings.entries ++
      [("root", optionValue MountNode.write root),
        ("port_mounts", .list (ports.map PortNode.write)),
        ("hosts", .list (writeHosts hosts))])

def writeHosts : List HostNode → List Value
  | [] => []
  | host :: rest => host.write :: writeHosts rest

end

def GroupNode.write (group : GroupNode) : Value :=
  .table [
    ("name", .text group.name),
    ("cms_location", optionValue .text group.cmsLocation),
    ("hosts", .list (writeHosts group.hosts))]

def AdminSettings.write (admin : AdminSettings) : Value :=
  .table [
    ("enabled", .bool admin.enabled),
    ("api_key", .text admin.apiKey),
    ("bind_address", .text admin.bindAddress),
    ("request_timeout_secs", natValue admin.requestTimeoutSeconds)]

def ObservabilitySettings.write (observability : ObservabilitySettings) : Value :=
  .table [
    ("log_level", .text observability.logLevel),
    ("log_format", .text observability.logFormat),
    ("metrics_enabled", .bool observability.metricsEnabled),
    ("metrics_address", .text observability.metricsAddress)]

/-- A configuration written out in full: every key, with null for what
is not set. -/
def Configuration.write (config : Configuration) : Value :=
  .table [
    ("hosts", config.hosts.write),
    ("sites", .list (config.sites.map SiteNode.write)),
    ("host_groups", .list (config.hostGroups.map GroupNode.write)),
    ("admin", config.admin.write),
    ("observability", config.observability.write)]

end SiteRouting
