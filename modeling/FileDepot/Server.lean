import FileDepot.Files.LockFile
import FileDepot.LockManager
import FileDepot.Reception
import FileDepot.Settings

/-!
# The server

Binding takes the lock file of the socket path, clears away what an earlier
server may have left there, and binds the socket.  A server that is bound can
run: every connection goes from the reception to a worker and back, and the
lock manager runs whenever a lock was released.
-/

namespace FileDepot

/-- A server that holds a socket path. -/
structure BoundServer where
  settings : Settings
  lock : LockFile
  deriving DecidableEq

namespace BoundServer

/-- Removes what is left at a socket path, if anything is. -/
def clearStale (path : String) (system : FileSystem) :
    Except IoFault FileSystem :=
  match system.removeFile path with
  | .ok cleared => .ok cleared
  | .error fault => if fault.kind = .notFound then .ok system else .error fault

/-- Takes a socket path.  A server that fails to bind gives its lock up. -/
def bind (settings : Settings) (process : Nat) (system : FileSystem) :
    Except Error BoundServer × FileSystem :=
  match settings.validate with
  | .error error => (.error error, system)
  | .ok _ =>
      match LockFile.acquire (LockFile.pathFor settings.socketPath) process
          system with
      | (.error fault, after) => (.error (.lockFailed fault), after)
      | (.ok lock, locked) =>
          match clearStale settings.socketPath locked with
          | .error fault => (.error (.io fault), lock.release locked)
          | .ok cleared =>
              match cleared.bindSocket settings.socketPath with
              | .error fault => (.error (.io fault), lock.release cleared)
              | .ok bound => (.ok { settings, lock }, bound)

/-- Lets a socket path go: first the socket, then the lock. -/
def drop (server : BoundServer) (system : FileSystem) : FileSystem :=
  match system.removeFile server.settings.socketPath with
  | .ok removed => server.lock.release removed
  | .error _ => server.lock.release system

end BoundServer

structure RunningServer where
  hub : Hub
  reception : Reception := {}
  /-- The reception has closed. -/
  finished : Bool := false
  deriving DecidableEq

namespace RunningServer

def start (limits : Limits) : RunningServer where
  hub := .new limits

def connect (server : RunningServer) : Option ClientId × RunningServer :=
  match server.reception.accept with
  | (none, same) => (none, { server with reception := same })
  | (some client, reception) =>
      (some client,
        { server with reception, hub := server.hub.openOutbox client })

/-- One worker takes a connection from the queue, serves it and gives it
back. -/
def workOnce (server : RunningServer) : RunningServer :=
  match server.reception.queue.pop with
  | (.item connection, queue) =>
      let (returned, hub) := server.hub.work connection
      { server with
        hub
        reception := { server.reception with
          queue
          returns := server.reception.returns ++ [returned] } }
  | _ => server

/-- The reception takes connections back and acts on requests to stop. -/
def attend (server : RunningServer) : RunningServer :=
  let (finished, reception) := server.reception.drainReturns.react
  { server with
    reception := if finished then reception.close else reception
    finished := server.finished || finished }

/-- The lock manager runs if it was asked to. -/
def settleLocks (server : RunningServer) : RunningServer :=
  if server.hub.lockTrigger then
    { server with hub := { server.hub with lockTrigger := false }.grantAll.2 }
  else
    server

/-- Serves a connection on which bytes have arrived, or whose client is gone
if there are none. -/
def serve (server : RunningServer) (client : ClientId) (bytes : Bytes) :
    RunningServer :=
  let arrived := server.reception.arrive client (.ofBytes bytes)
  { server with reception := arrived.handOff client }.workOnce.attend.settleLocks

/-- Whether a connection is watched for input. -/
def isConnected (server : RunningServer) (client : ClientId) : Bool :=
  server.reception.idle.contains client

def requestShutdown (server : RunningServer) (mode : ShutdownMode) :
    RunningServer :=
  { server with reception := server.reception.requestShutdown mode }.attend

end RunningServer

end FileDepot
