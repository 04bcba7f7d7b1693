import SiteRouting.Config
import SiteRouting.Data.Reading

namespace SiteRouting

open Data

def maxCount : Nat := 0xFFFFFFFFFFFFFFFF

def Defaults.keys : List String :=
  ["default_host_name", "scheme", "locale", "homepage", "page_not_found", "show_context_path",
    "show_port", "default_context_path", "version_in_preview_header", "cacheable",
    "default_resource_bundle_id", "scheme_not_matching_response_code", "cms_preview_prefix",
    "channel_manager_host_group", "channel_manager_sites", "prefix_exclusions",
    "suffix_exclusions", "max_cached_hosts"]

def Defaults.read (value : Value) : Except ShapeError Defaults := do
  let record ← value.record keys
  let standard : Defaults := {}
  return {
    defaultHostName := ← optional record "default_host_name" Value.asText
    scheme := ← optional record "scheme" Value.asText
    locale := ← optional record "locale" Value.asText
    homepage := ← optional record "homepage" Value.asText
    pageNotFound := ← optional record "page_not_found" Value.asText
    showContextPath := ← defaulted record "show_context_path" standard.showContextPath Value.asBool
    showPort := ← defaulted record "show_port" standard.showPort Value.asBool
    defaultContextPath := ← optional record "default_context_path" Value.asText
    versionInPreviewHeader :=
      ← defaulted record "version_in_preview_header" standard.versionInPreviewHeader Value.asBool
    cacheable := ← defaulted record "cacheable" standard.cacheable Value.asBool
    defaultResourceBundleId := ← optional record "default_resource_bundle_id" Value.asText
    schemeNotMatchingResponseCode :=
      ← defaulted record "scheme_not_matching_response_code" standard.schemeNotMatchingResponseCode
        (Value.asNat 65535)
    cmsPreviewPath := ← optional record "cms_preview_prefix" Value.asText
    channelManagerHostGroup := ← optional record "channel_manager_host_group" Value.asText
    channelManagerSites := ← optional record "channel_manager_sites" Value.asText
    excludedBeginnings :=
      ← defaulted record "prefix_exclusions" standard.excludedBeginnings (Value.asList Value.asText)
    excludedEndings :=
      ← defaulted record "suffix_exclusions" standard.excludedEndings (Value.asList Value.asText)
    maxCachedHosts := ← defaulted record "max_cached_hosts" standard.maxCachedHosts (Value.asNat maxCount) }

def SiteNode.keys : List String :=
  ["path", "content_path", "canonical_content_path"]

def SiteNode.read (value : Value) : Except ShapeError SiteNode := do
  let record ← value.record keys
  return {
    path := ← required record "path" Value.asText
    contentPath := ← required record "content_path" Value.asText
    canonicalContentPath := ← optional record "canonical_content_path" Value.asText }

def NodeSettings.read (record : List (String × Value)) : Except ShapeError NodeSettings := do
  return {
    scheme := ← optional record "scheme" Value.asText
    locale := ← optional record "locale" Value.asText
    homepage := ← optional record "homepage" Value.asText
    pageNotFound := ← optional record "page_not_found" Value.asText
    showContextPath := ← optional record "show_context_path" Value.asBool
    showPort := ← optional record "show_port" Value.asBool
    onlyForContextPath := ← optional record "only_for_context_path" Value.asText
    versionInPreviewHeader := ← optional record "version_in_preview_header" Value.asBool
    cacheable := ← optional record "cacheable" Value.asBool
    defaultResourceBundleId := ← optional record "default_resource_bundle_id" Value.asText
    schemeNotMatchingResponseCode :=
      ← optional record "scheme_not_matching_response_code" (Value.asNat 65535) }

def MountNode.keys : List String :=
  ["name", "identifier", "alias", "mount_point", "show_context_path", "show_port",
    "only_for_context_path", "scheme", "scheme_not_matching_response_code", "homepage", "locale",
    "page_not_found", "version_in_preview_header", "type", "types", "is_mapped", "is_site",
    "named_pipeline", "embedded_mount_path", "authenticated", "roles", "users",
    "subject_based_session", "session_stateful", "form_login_page", "cacheable",
    "default_resource_bundle_id", "default_sitemap_item_handler_ids", "properties", "mounts"]

def MountSettings.read (record : List (String × Value)) : Except ShapeError MountSettings := do
  let standard : MountSettings := {}
  return {
    toNodeSettings := ← NodeSettings.read record
    name := ← defaulted record "name" standard.name Value.asText
    identifier := ← optional record "identifier" Value.asText
    aliasName := ← optional record "alias" Value.asText
    mountPoint := ← optional record "mount_point" Value.asText
    mountType := ← optional record "type" Value.asText
    types := ← optional record "types" (Value.asList Value.asText)
    isMapped := ← optional record "is_mapped" Value.asBool
    isSite := ← optional record "is_site" Value.asBool
    namedPipeline := ← optional record "named_pipeline" Value.asText
    embeddedMountPath := ← optional record "embedded_mount_path" Value.asText
    authenticated := ← optional record "authenticated" Value.asBool
    roles := ← optional record "roles" (Value.asList Value.asText)
    users := ← optional record "users" (Value.asList Value.asText)
    subjectBasedSession := ← optional record "subject_based_session" Value.asBool
    sessionStateful := ← optional record "session_stateful" Value.asBool
    formLoginPage := ← optional record "form_login_page" Value.asText
    defaultSitemapItemHandlerIds :=
      ← optional record "default_sitemap_item_handler_ids" (Value.asList Value.asText)
    customProperties := ← defaulted record "properties" standard.customProperties (Value.asTable Value.asText) }

/-- Reads a mount and the mounts below it, down to a depth. Keys that are not
known are passed over, here as everywhere in a document. -/
def MountNode.readWithin : Nat → Reader MountNode
  | 0, _ => .error .tooDeep
  | depth + 1, value => do
    let record ← value.record keys
    return .node (← MountSettings.read record)
      (← defaulted record "mounts" [] (Value.asList (readWithin depth)))

def MountNode.read (value : Value) : Except ShapeError MountNode :=
  readWithin (value.depth + 1) value

def PortNode.keys : List String :=
  ["port", "root"]

def PortNode.read (value : Value) : Except ShapeError PortNode := do
  let record ← value.record keys
  return {
    port := ← required record "port" (Value.asNat maxPort)
    root := ← optional record "root" MountNode.read }

def HostNode.keys : List String :=
  ["name", "scheme", "locale", "homepage", "page_not_found", "show_context_path", "show_port",
    "only_for_context_path", "version_in_preview_header", "cacheable",
    "default_resource_bundle_id", "scheme_not_matching_response_code", "root", "port_mounts",
    "hosts"]

def HostSettings.read (record : List (String × Value)) : Except ShapeError HostSettings := do
  let standard : HostSettings := {}
  return {
    toNodeSettings := ← NodeSettings.read record
    name := ← defaulted record "name" standard.name Value.asText }

def HostNode.readWithin : Nat → Reader HostNode
  | 0, _ => .error .tooDeep
  | depth + 1, value => do
    let record ← value.record keys
    return .node (← HostSettings.read record)
      (← optional record "root" MountNode.read)
      (← defaulted record "port_mounts" [] (Value.asList PortNode.read))
      (← defaulted record "hosts" [] (Value.asList (readWithin depth)))

def HostNode.read (value : Value) : Except ShapeError HostNode :=
  readWithin (value.depth + 1) value

def GroupNode.keys : List String :=
  ["name", "cms_location", "hosts"]

def GroupNode.read (value : Value) : Except ShapeError GroupNode := do
  let record ← value.record keys
  return {
    name := ← required record "name" Value.asText
    cmsLocation := ← optional record "cms_location" Value.asText
    hosts := ← defaulted record "hosts" [] (Value.asList HostNode.read) }

def AdminSettings.keys : List String :=
  ["enabled", "api_key", "bind_address", "request_timeout_secs"]

def AdminSettings.read (value : Value) : Except ShapeError AdminSettings := do
  let record ← value.record keys
  let standard : AdminSettings := {}
  return {
    enabled := ← defaulted record "enabled" standard.enabled Value.asBool
    apiKey := ← defaulted record "api_key" standard.apiKey Value.asText
    bindAddress := ← defaulted record "bind_address" standard.bindAddress Value.asText
    requestTimeoutSeconds :=
      ← defaulted record "request_timeout_secs" standard.requestTimeoutSeconds (Value.asNat maxCount) }

def ObservabilitySettings.keys : List String :=
  ["log_level", "log_format", "metrics_enabled", "metrics_address"]

def ObservabilitySettings.read (value : Value) : Except ShapeError ObservabilitySettings := do
  let record ← value.record keys
  let standard : ObservabilitySettings := {}
  return {
    logLevel := ← defaulted record "log_level" standard.logLevel Value.asText
    logFormat := ← defaulted record "log_format" standard.logFormat Value.asText
    metricsEnabled := ← defaulted record "metrics_enabled" standard.metricsEnabled Value.asBool
    metricsAddress := ← defaulted record "metrics_address" standard.metricsAddress Value.asText }

def Configuration.keys : List String :=
  ["hosts", "sites", "host_groups", "admin", "observability"]

def Configuration.read (value : Value) : Except ShapeError Configuration := do
  let record ← value.record keys
  return {
    hosts := ← defaulted record "hosts" {} Defaults.read
    sites := ← defaulted record "sites" [] (Value.asList SiteNode.read)
    hostGroups := ← defaulted record "host_groups" [] (Value.asList GroupNode.read)
    admin := ← defaulted record "admin" {} AdminSettings.read
    observability := ← defaulted record "observability" {} ObservabilitySettings.read }

end SiteRouting
