import FileDepot.Dispatch
import FileDepot.Hub

/-!
# The desk

A desk answers requests of any client as they come, without connections: it
keeps a session for every client that has shown up, and hands the replies back
in place of queueing them.
-/

namespace FileDepot

/-- A hub, and the sessions of the clients that have shown up. -/
structure Desk where
  hub : Hub
  sessions : Index ClientId Session := .empty
  deriving DecidableEq

namespace Desk

def new (limits : Limits) : Desk where
  hub := .new limits

/-- The session of a client, if it has shown up. -/
def session? (desk : Desk) (client : ClientId) : Option Session :=
  desk.sessions.find? client

/-- A client shows up, with a new session and an outbox the first time. -/
def welcome (desk : Desk) (client : ClientId) : Desk :=
  if desk.sessions.contains client then
    desk
  else
    { hub := desk.hub.openOutbox client
      sessions := desk.sessions.insert client .unopened }

def answer (desk : Desk) (client : ClientId) (request : Request) :
    Reply × Desk :=
  let session := (desk.session? client).getD .unopened
  let (reply, scope) := Scope.dispatch client request
    { session, store := desk.hub.store, registry := desk.hub.registry }
  (reply,
    { hub :=
        { desk.hub with store := scope.store, registry := scope.registry }
      sessions := desk.sessions.insert client scope.session })

end Desk

end FileDepot
