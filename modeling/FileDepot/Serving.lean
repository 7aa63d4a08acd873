import FileDepot.Dispatch
import FileDepot.Hub

/-!
# Serving connections

A worker takes a connection that has input, reads one request, queues the
reply, tells the clients whose awaited files are gone, and gives the
connection back, or closes it and cleans up after its client.
-/

namespace FileDepot

/-- A client connection: exactly one party holds it at a time. -/
structure Connection where
  client : ClientId
  session : Session := .unopened
  /-- The bytes that the client sends. -/
  incoming : Source := []
  deriving DecidableEq

/-- A connection given back after one request. -/
inductive Returned
  /-- Still open, to be watched again. -/
  | rearm (connection : Connection)
  /-- Gone, and cleaned up after. -/
  | closed (client : ClientId)
  deriving DecidableEq

/-- The largest body that a request may have.  A count always fits, however
small the store is. -/
def bodyLimit (maxBytes : Nat) : Nat :=
  max maxBytes countWidth

namespace Hub

/-- Queues a reply and does what else comes of it.  Says whether the
connection stays open. -/
def deliverReply (hub : Hub) (client : ClientId) (reply : Reply) : Bool × Hub :=
  let (queued, pushed) := hub.push client reply.responses
  let notified := pushed.notifyOrphans reply.orphans
  let after := if reply.released then notified.fireLockTrigger else notified
  match queued with
  | .ok _ => (!reply.close, after)
  | .error _ => (false, after)

/-- Serves what was read from a connection: a request, or the error that
reading ended with.  An error that leaves the reader at the next frame is
answered and the connection kept; any other ends it. -/
def serveRead (hub : Hub) (connection : Connection)
    (read : Except Error Request) : Bool × Connection × Hub :=
  match read with
  | .ok request =>
      let (reply, after) := Scope.dispatch connection.client request
        { session := connection.session
          store := hub.store
          registry := hub.registry }
      let (stays, served) :=
        { hub with store := after.store, registry := after.registry }.deliverReply
          connection.client reply
      (stays, { connection with session := after.session }, served)
  | .error .peerClosed => (false, connection, hub)
  | .error error =>
      if Request.keepsStep error then
        let (stays, served) :=
          hub.deliverReply connection.client (.ofError error "")
        (stays, connection, served)
      else
        (false, connection,
          (hub.push connection.client [{ status := .badRequest }]).2)

/-- Reads and answers one request.  Says whether the connection stays open. -/
def serveOne (hub : Hub) (connection : Connection) : Bool × Connection × Hub :=
  let limit := bodyLimit hub.store.limits.maxBytes
  match Request.decode limit connection.incoming with
  | .ok request rest =>
      hub.serveRead { connection with incoming := rest } (.ok request)
  | .error error rest =>
      hub.serveRead { connection with incoming := rest } (.error error)

/-- Gives up everything that a client held and awaited, and forgets it. -/
def disconnect (hub : Hub) (client : ClientId) : Hub :=
  let (released, store) := hub.store.releaseClient client
  let forgotten :=
    { hub with store, registry := hub.registry.unregister client }.closeOutbox
      client
  if 0 < released then forgotten.fireLockTrigger else forgotten

/-- The work of a worker on one connection. -/
def work (hub : Hub) (connection : Connection) : Returned × Hub :=
  match hub.serveOne connection with
  | (true, kept, after) => (.rearm kept, after)
  | (false, _, after) =>
      (.closed connection.client, after.disconnect connection.client)

/-- Serves one request after the other for as long as the connection stays
open. -/
def workOn (hub : Hub) : (fuel : Nat) → Connection → List Returned × Hub
  | 0, _ => ([], hub)
  | fuel + 1, connection =>
      match hub.work connection with
      | (.rearm kept, after) =>
          let (later, finished) := workOn after fuel kept
          (.rearm kept :: later, finished)
      | (.closed client, after) => ([.closed client], after)

/-- Serves a connection whose client has sent all it will send, until it
closes.  Every request takes at least one byte, so there are no more rounds
than bytes, and one for the end. -/
def workThrough (hub : Hub) (connection : Connection) : List Returned × Hub :=
  hub.workOn (connection.incoming.bytes.length + 1) connection

end Hub

end FileDepot
