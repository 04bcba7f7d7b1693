import SiteRouting.CommandLine.Arguments
import SiteRouting.Http.Message
import SiteRouting.Service
import SiteRouting.Text.Utf8

namespace SiteRouting

/-- The text of a file, none if it cannot be read. Reading arguments and
files is all that the program itself does; everything else is left to the
commands and the service. -/
def readText? (path : String) : IO (Option String) := do
  try return some (← IO.FS.readFile path)
  catch _ => return none

def finish (ending : Ending) : IO UInt32 := do
  (← IO.getStdout).putStr ending.output
  (← IO.getStderr).putStr ending.errors
  return ending.exitCode.toUInt32

/-- Reads the lines of a head up to the empty one that ends it,
without the ends of the lines. -/
partial def readHead (input : IO.FS.Stream) : IO (List String) := do
  let line ← input.getLine
  let text := String.ofList (Text.stripChars (fun c => c == '\r' || c == '\n') line.toList)
  if text.isEmpty then return []
  return text :: (← readHead input)

def readBody (input : IO.FS.Stream) (size : Nat) : IO String := do
  if size = 0 then return ""
  return Text.ofUtf8 (← input.read size.toUSize).toList

partial def answerRequests (path : String) (input output : IO.FS.Stream) (service : Service) :
    IO Unit := do
  match Http.Request.ofHead? (← readHead input) with
  | none => return
  | some request =>
    let body ← readBody input request.bodySize
    let (service, response) :=
      (service.follow (← readText? path)).request (← IO.monoMsNow) { request with body }
    output.putStr response.render
    output.flush
    answerRequests path input output service

/-- Runs a command to its end, or answers the requests that the service reads
from its input, one after another, until the input ends. -/
def Invocation.run (invocation : Invocation) : IO UInt32 := do
  let file ← readText? invocation.configPath
  match invocation.task with
  | .answer query => finish (query.run invocation.policy (Configuration.load file))
  | .serve =>
    match Service.start invocation.policy file with
    | none => finish (.failed "the service cannot start")
    | some service =>
      answerRequests invocation.configPath (← IO.getStdin) (← IO.getStdout) service
      finish (.exited successCode "" "")

end SiteRouting

def main (arguments : List String) : IO UInt32 :=
  match SiteRouting.Invocation.ofArguments? arguments with
  | some invocation => invocation.run
  | none => SiteRouting.finish (.exited SiteRouting.usageCode "" SiteRouting.usage)
