import FileDepot.Outbox
import FileDepot.Registry
import FileDepot.Store.Locks

/-!
# The hub

The hub is what all workers and the lock manager share: the store, the
registry of clients in session, the outbox of every connection, and the
trigger that wakes the lock manager.
-/

namespace FileDepot

/-- The state shared by everything that serves clients. -/
structure Hub where
  store : Store
  registry : Registry := {}
  outboxes : Index ClientId Outbox := .empty
  /-- The lock manager has been asked to run. -/
  lockTrigger : Bool := false
  deriving DecidableEq

namespace Hub

def new (limits : Limits) : Hub where
  store := .new limits

def outbox? (hub : Hub) (client : ClientId) : Option Outbox :=
  hub.outboxes.find? client

def openOutbox (hub : Hub) (client : ClientId) : Hub :=
  { hub with outboxes := hub.outboxes.insert client {} }

/-- Refuses further responses to a client. -/
def closeOutbox (hub : Hub) (client : ClientId) : Hub :=
  { hub with outboxes := hub.outboxes.modify client Outbox.close }

/-- Queues responses to a client in its outbox, up to the first refusal. -/
def push (hub : Hub) (client : ClientId) (responses : List Response) :
    Except Error Unit × Hub :=
  match hub.outbox? client with
  | none => (.error .peerClosed, hub)
  | some outbox =>
      let (outcome, filled) := outbox.pushAll responses
      (outcome, { hub with outboxes := hub.outboxes.insert client filled })

/-- Sends a response that answers no request.  Only a registered client can be
sent one, and only if it can be reached. -/
def send (hub : Hub) (client : ClientId) (response : Response) :
    Except Error Unit × Hub :=
  if !hub.registry.contains client then
    (.error .notConnected, hub)
  else if !hub.registry.reaches client then
    (.error .peerClosed, hub)
  else
    hub.push client [response]

/-- Tells clients, as far as they can be told, that a file is gone. -/
def notifyOrphans : List Orphan → Hub → Hub
  | [], hub => hub
  | orphan :: others, hub =>
      let notice : Response := { status := .notFound, path := orphan.path }
      notifyOrphans others (hub.send orphan.client notice).2

def fireLockTrigger (hub : Hub) : Hub :=
  { hub with lockTrigger := true }

/-- Takes what is queued for a client, as the writer of its socket does. -/
def collect (hub : Hub) (client : ClientId) : List Response × Hub :=
  match hub.outbox? client with
  | none => ([], hub)
  | some outbox =>
      let (responses, emptied) := outbox.takeAll
      (responses, { hub with outboxes := hub.outboxes.insert client emptied })

end Hub

end FileDepot
