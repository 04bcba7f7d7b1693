import SiteRouting.CommandLine

namespace SiteRouting

inductive Task where
  | answer (query : Query)
  | serve
  deriving DecidableEq, Repr

/-- One run of the program: where the configuration is, how strictly it is
judged, and the command with arguments of its own. -/
structure Invocation where
  configPath : String := "hosts.toml"
  policy : BuildPolicy := .lenient
  task : Task
  deriving DecidableEq, Repr

def splitOptions (arguments : List String) : List String :=
  arguments.flatMap fun argument =>
    match Text.splitFirst? '=' argument with
    | some (name, value) => if Text.startsWith name "--" then [name, value] else [argument]
    | none => [argument]

/-- Reads the arguments of a lookup: one host, and options around it. A
second host, or an option that is not known, makes no lookup. -/
def resolveQuery? (host? contextPath path? : Option String) : List String → Option Query
  | [] => host?.map fun host => .resolve host contextPath (path?.getD "/")
  | "--context-path" :: value :: rest => resolveQuery? host? (some value) path? rest
  | "--path" :: value :: rest => resolveQuery? host? contextPath (some value) rest
  | host :: rest =>
    if host?.isSome || Text.startsWith host "-" then none
    else resolveQuery? (some host) contextPath path? rest

def Task.ofArguments? : List String → Option Task
  | ["check"] => some (.answer .check)
  | ["serve"] => some .serve
  | "resolve" :: rest => (resolveQuery? none none none rest).map .answer
  | _ => none

def Invocation.ofOptions? (configPath : String) (policy : BuildPolicy) :
    List String → Option Invocation
  | "--config" :: value :: rest | "-c" :: value :: rest => ofOptions? value policy rest
  | "--strict" :: rest => ofOptions? configPath .strict rest
  | arguments => (Task.ofArguments? arguments).map (⟨configPath, policy, ·⟩)

def Invocation.ofArguments? (arguments : List String) : Option Invocation :=
  ofOptions? "hosts.toml" .lenient (splitOptions arguments)

def usage : String :=
  textOfLines [
    "usage: [--config FILE] [--strict] COMMAND",
    "",
    "commands:",
    "  check       list the issues of the configuration",
    "  resolve HOST [--context-path PATH] [--path PATH]",
    "              show the mount of a request",
    "  serve       answer requests to the admin service"]

def usageCode : Nat := 2

end SiteRouting
