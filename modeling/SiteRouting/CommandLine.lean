import SiteRouting.Admin.View
import SiteRouting.Config.Loading
import SiteRouting.Data.Json.Writer

namespace SiteRouting

/-- How a command ends. Checking a configuration and resolving a request take
texts and answer texts, so their whole effect is an exit code and two outputs. -/
inductive Ending where
  /-- With an exit code and what it has written to its two outputs. -/
  | exited (code : Nat) (output errors : String)
  /-- With an error of its own, shown as this text. -/
  | failed (message : String)
  deriving DecidableEq, Repr

def successCode : Nat := 0

def failureCode : Nat := 1

def notFoundCode : Nat := 2

def textOfLines (lines : List String) : String :=
  String.join (lines.map (· ++ "\n"))

def Ending.exitCode : Ending → Nat
  | .exited code _ _ => code
  | .failed _ => failureCode

def Ending.output : Ending → String
  | .exited _ output _ => output
  | .failed _ => ""

def Ending.errors : Ending → String
  | .exited _ _ errors => errors
  | .failed message => textOfLines [s!"Error: {message}"]

def Registry.acceptance (registry : Registry) : String :=
  let groups := registry.tree.groups.size
  let hosts := registry.tree.hosts.size
  let mounts := registry.tree.mounts.size
  let issues := registry.issues.length
  s!"ok: {groups} host groups, {hosts} virtual hosts, {mounts} mounts, {issues} issues"

def Configuration.check (config : Configuration) (policy : BuildPolicy) : Ending :=
  match config.build policy 1 with
  | .ok registry =>
    .exited successCode (textOfLines (registry.issues.map Issue.text ++ [registry.acceptance])) ""
  | .error issues =>
    let blocking := (issuesAtLeast .error issues).length
    .exited failureCode (textOfLines (issues.map Issue.text))
      (textOfLines [s!"rejected: {blocking} blocking issues"])

def Configuration.resolve (config : Configuration) (policy : BuildPolicy) (rawHost : String)
    (contextPath : Option String) (path : String) : Ending :=
  match config.build policy 1 with
  | .error issues => .failed (refusalText issues)
  | .ok registry =>
    match (registry.matchMount rawHost contextPath path).answer with
    | .error cause => .failed cause.message
    | .ok none =>
      .exited notFoundCode "" (textOfLines [s!"no mount for host '{rawHost}' and path '{path}'"])
    | .ok (some mount) => .exited successCode (textOfLines [Data.Json.pretty mount.summary]) ""

def LoadError.message : LoadError → String
  | .unreadable => "the configuration cannot be read"
  | .malformed => "the configuration is malformed"
  | .invalid violations => violationsText violations
  | .rejected issues => refusalText issues

/-- What a command is asked to do with a configuration: to check it, or to
resolve a request with a registry of its own. -/
inductive Query where
  | check
  | resolve (rawHost : String) (contextPath : Option String) (path : String)
  deriving DecidableEq, Repr

/-- Carries out a command on a configuration that may not have loaded. Either
command fails with the reason why it has not. -/
def Query.run (query : Query) (policy : BuildPolicy) (source : Source) : Ending :=
  match source with
  | .error cause => .failed cause.message
  | .ok config =>
    match query with
    | .check => config.check policy
    | .resolve rawHost contextPath path => config.resolve policy rawHost contextPath path

end SiteRouting
