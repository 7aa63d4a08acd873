import FileDepot.HandoffQueue
import FileDepot.Wire.Frame

/-!
# Outboxes

Every connection has an outbox, which its writer empties onto the socket.
Everything meant for the client is queued here first, so nobody waits for a
client that does not read.
-/

namespace FileDepot

/-- The responses queued for one client. -/
structure Outbox where
  queue : HandoffQueue Response := {}
  deriving DecidableEq, Repr

namespace Outbox

def isClosed (outbox : Outbox) : Bool :=
  outbox.queue.closed

def push (outbox : Outbox) (response : Response) : Except Error Unit × Outbox :=
  match outbox.queue.push response with
  | (.ok _, queue) => (.ok (), { queue })
  | (.error _, queue) => (.error .peerClosed, { queue })

/-- Queues responses one after the other, up to the first refusal. -/
def pushAll : List Response → Outbox → Except Error Unit × Outbox
  | [], outbox => (.ok (), outbox)
  | response :: rest, outbox =>
      match outbox.push response with
      | (.ok _, after) => pushAll rest after
      | (.error error, after) => (.error error, after)

/-- Refuses further responses.  Those already queued are still written. -/
def close (outbox : Outbox) : Outbox where
  queue := outbox.queue.close

/-- Takes everything that is queued, as the writer of a healthy socket does. -/
def takeAll (outbox : Outbox) : List Response × Outbox :=
  (outbox.queue.items, { queue := { outbox.queue with items := [] } })

/-- What the writer of an outbox leaves when it stops. -/
structure Drained where
  result : Except Error Unit
  /-- The responses that were not taken from the queue. -/
  unwritten : List Response
  sink : Sink

/-- Writes responses one after the other, each with its flush.  The writer
stops at the first failure, and the response that failed is lost. -/
def writeOut : List Response → Sink → Drained
  | [], sink => ⟨.ok (), [], sink⟩
  | response :: rest, sink =>
      match response.encode sink with
      | .ok _ after => writeOut rest after
      | .error error after => ⟨.error error, rest, after⟩

/-- Writes out a closed outbox.  The writer of an open outbox never finishes,
because more may come. -/
def drain (outbox : Outbox) (sink : Sink) : Option (Drained × Outbox) :=
  if outbox.isClosed then
    let drained := writeOut outbox.queue.items sink
    some (drained,
      { queue := { outbox.queue with items := drained.unwritten } })
  else
    none

end Outbox

end FileDepot
