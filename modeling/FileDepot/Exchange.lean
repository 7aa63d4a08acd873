import FileDepot.Client
import FileDepot.Server
import FileDepot.Wire.SendBuffer

/-!
# Clients of a running server

A running server together with the clients that are connected to it.  A call
sends its request, the server serves it, and the call reads what the server
has queued for the client by then.
-/

namespace FileDepot

/-- The client side of a connection. -/
structure Peer where
  /-- The number of the connection, unless the server did not accept it. -/
  client : Option ClientId
  /-- What has arrived and was not read yet. -/
  inbox : Source := []
  /-- What could not be sent. -/
  outgoing : SendBuffer := {}
  deriving DecidableEq

/-- A running server and its clients, by name. -/
structure Exchange where
  server : RunningServer
  peers : Index String Peer := .empty
  deriving DecidableEq

namespace Exchange

/-- Ends the connection of a client from its side. -/
def hangUp (exchange : Exchange) (peer : Peer) : Exchange :=
  match peer.client with
  | none => exchange
  | some client =>
      if exchange.server.isConnected client then
        { exchange with server := exchange.server.serve client [] }
      else
        exchange

/-- Connects a client, in place of an earlier one of its name. -/
def connect (exchange : Exchange) (name : String) : Exchange :=
  let (client, server) := exchange.server.connect
  let connected := { server, peers := exchange.peers.insert name { client } }
  match exchange.peers.find? name with
  | none => connected
  | some earlier => connected.hangUp earlier

def disconnect (exchange : Exchange) (name : String) : Exchange :=
  match exchange.peers.find? name with
  | none => exchange
  | some peer =>
      { exchange.hangUp peer with peers := exchange.peers.erase name }

def disconnectAll (exchange : Exchange) : Exchange :=
  exchange.peers.keys.foldl disconnect exchange

/-- Stops the server.  A graceful stop lets all clients leave first, while an
immediate one leaves everything as it is.  Says how the server stopped. -/
def stop (exchange : Exchange) (mode : ShutdownMode) :
    ShutdownMode × Exchange :=
  let server := exchange.server.requestShutdown mode
  let asked := { exchange with server }
  ((server.reception.shutdown).getD mode,
    match mode with
    | .immediate => asked
    | .graceful => asked.disconnectAll)

/-- A call reads what the server has queued for its client. -/
def finishCall (exchange : Exchange) (name : String) (peer : Peer)
    (call : Call) : Except Error CallAnswer × Exchange :=
  let (responses, hub) :=
    exchange.server.hub.collect (peer.client.getD 0)
  let arrived := Source.ofBytes (responses.flatMap Response.frame)
  let (outcome, inbox) := call.start.read (peer.inbox ++ arrived)
  (outcome,
    { server := { exchange.server with hub }
      peers := exchange.peers.insert name { peer with inbox } })

/-- A client makes a call.  A request to a connection that the server has
closed cannot be sent. -/
def call (exchange : Exchange) (name : String) (call : Call) :
    Except Error CallAnswer × Exchange :=
  match exchange.peers.find? name with
  | none => (.error .notConnected, exchange)
  | some peer =>
      match call.request?, peer.client with
      | none, _ => exchange.finishCall name peer call
      | some _, none => (.error .peerClosed, exchange)
      | some request, some client =>
          if exchange.server.isConnected client then
            { exchange with
              server := exchange.server.serve client request.frame }.finishCall
                name peer call
          else
            let (error, outgoing) := peer.outgoing.refuse request.fields
            (.error error,
              { exchange with
                peers := exchange.peers.insert name { peer with outgoing } })

end Exchange

end FileDepot
