import FileDepot.HandoffQueue
import FileDepot.Serving

/-!
# The reception

The reception watches the connections that are idle, queues those with input
for the workers, and takes them back.  It counts the connections that are
alive anywhere.  A graceful stop ends the accepting of connections and waits
until none is alive; an immediate stop ends everything.
-/

namespace FileDepot

inductive ShutdownMode
  | graceful
  | immediate
  deriving DecidableEq, Repr

namespace ShutdownMode

/-- The name under which a mode is reported. -/
def name : ShutdownMode → String
  | graceful => "Graceful"
  | immediate => "Immediate"

/-- What two requests to stop come to: an immediate one overrides a graceful
one, and never the reverse. -/
def combine : Option ShutdownMode → ShutdownMode → ShutdownMode
  | some immediate, _ => immediate
  | _, mode => mode

end ShutdownMode

/-- Everything that the reception keeps track of. -/
structure Reception where
  /-- The connections that wait for input. -/
  idle : Index ClientId Connection := .empty
  /-- The connections on their way to the workers. -/
  queue : HandoffQueue Connection := {}
  /-- The connections that workers gave back. -/
  returns : List Returned := []
  /-- The number of connections alive anywhere. -/
  live : Nat := 0
  nextClient : ClientId := 1
  accepting : Bool := true
  /-- The stop that was asked for. -/
  shutdown : Option ShutdownMode := none
  deriving DecidableEq

namespace Reception

/-- Takes in a new connection, unless no more are accepted. -/
def accept (reception : Reception) : Option ClientId × Reception :=
  if reception.accepting then
    let client := reception.nextClient
    (some client,
      { reception with
        idle := reception.idle.insert client { client }
        live := reception.live + 1
        nextClient := client + 1 })
  else
    (none, reception)

/-- Notes that bytes have arrived on an idle connection. -/
def arrive (reception : Reception) (client : ClientId) (source : Source) :
    Reception :=
  { reception with
    idle := reception.idle.modify client fun connection =>
      { connection with incoming := connection.incoming ++ source } }

/-- Queues an idle connection for the workers.  A closed queue drops it. -/
def handOff (reception : Reception) (client : ClientId) : Reception :=
  match reception.idle.find? client with
  | none => reception
  | some connection =>
      let idle := reception.idle.erase client
      match reception.queue.push connection with
      | (.ok _, queue) => { reception with idle, queue }
      | (.error _, queue) =>
          { reception with idle, queue, live := reception.live - 1 }

/-- Takes back what a worker returned. -/
def takeBack (reception : Reception) (returned : Returned) : Reception :=
  match returned with
  | .rearm connection =>
      { reception with
        idle := reception.idle.insert connection.client connection }
  | .closed _ => { reception with live := reception.live - 1 }

def drainReturns (reception : Reception) : Reception :=
  reception.returns.foldl takeBack { reception with returns := [] }

def requestShutdown (reception : Reception) (mode : ShutdownMode) : Reception :=
  { reception with shutdown := some (.combine reception.shutdown mode) }

/-- Acts on a request to stop, and says whether the reception closes now. -/
def react (reception : Reception) : Bool × Reception :=
  match reception.shutdown with
  | none => (false, reception)
  | some .immediate => (true, reception)
  | some .graceful =>
      (reception.live = 0, { reception with accepting := false })

/-- Closes the queue, which releases the workers. -/
def close (reception : Reception) : Reception :=
  { reception with queue := reception.queue.close }

end Reception

end FileDepot
