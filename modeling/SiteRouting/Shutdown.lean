namespace SiteRouting

/-- The shutdown signal, kept as everyone who listens, each by the number of
messages that had been sent when it began. It is broadcast over a channel
that keeps only its newest message. -/
structure Shutdown where
  sent : Nat := 0
  /-- Receivers that are kept and never read, the newest one first. -/
  receivers : List Nat := []
  /-- Tasks that wait for the signal, the oldest one first. -/
  waiting : List Nat := []
  deriving DecidableEq, Repr

/-- What a listener is told: of the messages that come after the
moment at which it began to listen, or that it has missed some of
them, and never of earlier ones. -/
inductive Receipt where
  | message
  /-- The channel does not keep the listener's next message any more. -/
  | missed
  deriving DecidableEq, Repr

def channelCapacity : Nat := 1

/-- What a listener is told that began after a number of messages, none
as long as it has to wait. -/
def Shutdown.receipt? (shutdown : Shutdown) (since : Nat) : Option Receipt :=
  if shutdown.sent ≤ since then none
  else if shutdown.sent ≤ since + channelCapacity then some .message
  else some .missed

/-- Whether a task can go on. It does so whatever it is told, a message
or that it has missed some. -/
def Shutdown.isReady (shutdown : Shutdown) (since : Nat) : Bool :=
  (shutdown.receipt? since).isSome

def Shutdown.subscribe (shutdown : Shutdown) : Shutdown :=
  { shutdown with receivers := shutdown.sent :: shutdown.receivers }

def Shutdown.unsubscribe (shutdown : Shutdown) : Shutdown :=
  { shutdown with receivers := shutdown.receivers.drop 1 }

def Shutdown.wait (shutdown : Shutdown) : Shutdown :=
  { shutdown with waiting := shutdown.waiting ++ [shutdown.sent] }

/-- How many listen to the signal: the receivers that are kept, and
the tasks that wait. -/
def Shutdown.listeners (shutdown : Shutdown) : Nat :=
  shutdown.receivers.length + shutdown.waiting.length

/-- Sends a message to those who listen. Nothing is sent if nobody does, so a
trigger of that kind leaves no trace. -/
def Shutdown.trigger (shutdown : Shutdown) : Shutdown :=
  if shutdown.listeners = 0 then shutdown else { shutdown with sent := shutdown.sent + 1 }

/-- Lets every task that has been told go on, and answers how many these are. -/
def Shutdown.poll (shutdown : Shutdown) : Shutdown × Nat :=
  let (ready, waiting) := shutdown.waiting.partition shutdown.isReady
  ({ shutdown with waiting }, ready.length)

inductive ShutdownStep where
  | subscribe
  | unsubscribe
  | wait
  | trigger
  | poll
  deriving DecidableEq, Repr

/-- Carries out a step, and answers how many tasks went on by it. -/
def Shutdown.step (shutdown : Shutdown) : ShutdownStep → Shutdown × Nat
  | .subscribe => (shutdown.subscribe, 0)
  | .unsubscribe => (shutdown.unsubscribe, 0)
  | .wait => (shutdown.wait, 0)
  | .trigger => (shutdown.trigger, 0)
  | .poll => shutdown.poll

end SiteRouting
