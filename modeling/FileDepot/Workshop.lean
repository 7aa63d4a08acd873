import FileDepot.LockManager
import FileDepot.Serving

/-!
# The workshop

The workshop holds open connections and lets a worker serve one of them when
something has arrived on it.  What is queued for a client reaches it after
each step; the end of its connection is the last thing that it sees.
-/

namespace FileDepot

/-- Connections that are served on demand. -/
structure Workshop where
  hub : Hub
  connections : Index ClientId Connection := .empty
  /-- The clients that have not yet seen the end of their connection. -/
  unaware : List ClientId := []
  deriving DecidableEq

inductive Receipt
  | response (response : Response)
  /-- The connection has ended. -/
  | ended
  deriving DecidableEq, Repr

namespace Workshop

def new (limits : Limits) : Workshop where
  hub := .new limits

/-- Takes in a connection, in place of an earlier one of its client. -/
def connect (workshop : Workshop) (client : ClientId) : Workshop where
  hub :=
    { workshop.hub with
      registry := workshop.hub.registry.supersede client }.openOutbox client
  connections := workshop.connections.insert client { client }
  unaware := client :: workshop.unaware

/-- Takes back what workers returned. -/
def takeBack (workshop : Workshop) (returned : List Returned) : Workshop :=
  returned.foldl
    (fun workshop one =>
      match one with
      | .rearm connection =>
          { workshop with
            connections :=
              workshop.connections.insert connection.client connection }
      | .closed client =>
          { workshop with connections := workshop.connections.erase client })
    workshop

/-- A worker serves one request of a client. -/
def serveOne (workshop : Workshop) (client : ClientId) (incoming : Source) :
    Option (List Returned) × Workshop :=
  match workshop.connections.find? client with
  | none => (none, workshop)
  | some connection =>
      let (returned, hub) := workshop.hub.work { connection with incoming }
      (some [returned], { workshop with hub }.takeBack [returned])

/-- Workers serve a client that has sent everything, until its connection
closes. -/
def serveAll (workshop : Workshop) (client : ClientId) (incoming : Source) :
    Option (List Returned) × Workshop :=
  match workshop.connections.find? client with
  | none => (none, workshop)
  | some connection =>
      let (returned, hub) :=
        workshop.hub.workThrough { connection with incoming }
      (some returned, { workshop with hub }.takeBack returned)

/-- What newly reaches one client.  A connection that is open while its outbox
is closed has lost its writer, so its client sees nothing. -/
def receiveOne (workshop : Workshop) (client : ClientId) :
    List Receipt × Workshop :=
  let alive := workshop.connections.contains client
  let closed := ((workshop.hub.outbox? client).map Outbox.isClosed).getD true
  let (responses, hub) := workshop.hub.collect client
  let received := responses.map Receipt.response
  if alive then
    if closed then ([], workshop) else (received, { workshop with hub })
  else if client ∈ workshop.unaware then
    (received ++ [.ended],
      { workshop with
        hub, unaware := workshop.unaware.filter (· ≠ client) })
  else
    (received, { workshop with hub })

def receive (workshop : Workshop) :
    List (ClientId × List Receipt) × Workshop :=
  workshop.hub.outboxes.keys.foldl
    (fun (received, workshop) client =>
      let (news, after) := workshop.receiveOne client
      (if news.isEmpty then received else received ++ [(client, news)], after))
    ([], workshop)

end Workshop

end FileDepot
