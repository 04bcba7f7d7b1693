import SiteRouting.Admin.Service
import SiteRouting.Watch

namespace SiteRouting

/-- The running service: a manager on a file, a watcher that hands changed
configurations to it, and the admin service. Changes of the file are
delivered to the watcher later than they happen, and what the watcher hands
on is received later still. -/
structure Service where
  manager : Manager
  settings : AdminSettings
  /-- The text of the configuration's file. -/
  file : Option String
  /-- How many changes of the file the watcher has not been told of yet. -/
  undelivered : Nat := 0
  /-- Configurations handed on by the watcher and not received yet,
  the oldest one first. -/
  channel : List Configuration := []

def Service.source (service : Service) : Source :=
  Configuration.load service.file

/-- Whether a server can be bound to an address: a host, and behind
the last colon a port. -/
def hasPort (address : String) : Bool :=
  match (Text.splitAt ':' address).reverse with
  | port :: host => host.any (!·.isEmpty) && (Text.numeral? maxPort port).isSome
  | [] => false

/-- Starts a service on a file. It does not start if the document does
not load, if its build is refused, or if the admin service is enabled
and cannot be bound. -/
def Service.start (policy : BuildPolicy) (file : Option String) : Option Service :=
  match Configuration.load file with
  | .error _ => none
  | .ok config =>
    let step := (Manager.new policy).load (.ok config)
    match step.answer with
    | .error _ => none
    | .ok _ =>
      if config.admin.enabled && !hasPort config.admin.bindAddress then none
      else some { manager := step.manager, settings := config.admin, file }

def Service.write (service : Service) (document : String) : Service :=
  { service with file := some document, undelivered := service.undelivered + 1 }

/-- Tells the watcher of a change. It loads the file as it is now, which may
be newer than the change that it is told of. -/
def Service.deliver (service : Service) : Service :=
  if service.undelivered = 0 then service
  else { service with
    undelivered := service.undelivered - 1
    channel := service.channel ++ reload service.file }

def Service.receive (service : Service) : Service :=
  match service.channel with
  | [] => service
  | config :: rest =>
    { service with manager := (service.manager.replace config).manager, channel := rest }

/-- The hangup signal makes the next read build from the file, unless a
configuration is handed in before. -/
def Service.hangup (service : Service) : Service :=
  { service with manager := service.manager.invalidate }

def Service.read (service : Service) : Service × Except MatchError Registry :=
  let step := service.manager.registry service.source
  ({ service with manager := step.manager }, step.answer)

def Service.request (service : Service) (now : Nat) (request : Http.Request) :
    Service × Http.Response :=
  let step := Admin.serve service.settings service.manager service.source now request
  ({ service with manager := step.manager }, step.answer)

def Service.deliverAll (service : Service) : Nat → Service
  | 0 => service
  | count + 1 => service.deliver.deliverAll count

def Service.receiveAll (service : Service) : Nat → Service
  | 0 => service
  | count + 1 => service.receive.receiveAll count

/-- Delivers all changes and receives all configurations that are on their way. -/
def Service.settle (service : Service) : Service :=
  let delivered := service.deliverAll service.undelivered
  delivered.receiveAll delivered.channel.length

/-- Takes note of the file as it is found. If its text is a new one, the
change is delivered and what follows from it is received at once. -/
def Service.follow (service : Service) (file : Option String) : Service :=
  if file == service.file then service
  else match file with
    | some document => (service.write document).settle
    | none => { service with file := none }

end SiteRouting
