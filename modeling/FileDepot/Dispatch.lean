import FileDepot.Protocol.Request
import FileDepot.Protocol.Response
import FileDepot.Registry
import FileDepot.Session
import FileDepot.Store.Files
import FileDepot.Store.Locks

/-!
# Dispatching requests

A request is first checked against the session of its client and then handed
to the handler of its operation.  The reply holds the responses for the
client, the final status last, and what the server has to do besides.
-/

namespace FileDepot

/-- Everything that comes of one request. -/
structure Reply where
  /-- The responses for the client, the final status last. -/
  responses : List Response
  /-- Other clients whose awaited file is gone. -/
  orphans : List Orphan := []
  /-- A lock was given up, so that waiting clients may get it. -/
  released : Bool := false
  /-- The connection ends once the responses are written. -/
  close : Bool := false
  deriving DecidableEq, Repr

namespace Reply

def ofStatus (status : Status) (path : String) : Reply where
  responses := [{ status, path }]

def ofError (error : Error) (path : String) : Reply where
  responses := [.ofError error path]

/-- The response that hands an expelled file to the client. -/
def expelled (file : EvictedFile) : Response where
  status := .filesExpelled
  path := file.path
  body := file.content

/-- The reply to a request that expelled files: they come before its status. -/
def withEvicted (reply : Reply) (evicted : Evicted) : Reply :=
  { reply with
    responses := evicted.files.map expelled ++ reply.responses
    orphans := reply.orphans ++ evicted.orphans }

end Reply

/-- What a request may change. -/
structure Scope where
  session : Session
  store : Store
  registry : Registry
  deriving DecidableEq

/-- The status that reports what became of asking for a lock. -/
def LockOutcome.status : LockOutcome → Status
  | acquired => .success
  | queued => .lockPending

/-- Checks a request against the session: a session must be open, a file must
have a path that fits a frame, and any operation on a file but opening it
needs the file to be open. -/
def Request.check (request : Request) (session : Session) : Except Error Unit :=
  if request.operation = .openConnection then
    .ok ()
  else if !session.isActive then
    .error .notConnected
  else if !request.operation.targetsFile then
    .ok ()
  else if request.path.isEmpty then
    .error (.invalidPath "empty path")
  else if maxPathLength < request.path.utf8ByteSize then
    .error (.invalidPath
      s!"{request.path.utf8ByteSize} bytes exceeds {maxPathLength}")
  else if request.operation ≠ .openFile ∧ !session.isOpen request.path then
    .error (.notOpened request.path)
  else
    .ok ()

namespace Scope

/-- Opens the session and registers the client. -/
def openConnection (client : ClientId) (scope : Scope) :
    Except Error Reply × Scope :=
  match scope.session.activate with
  | .error error => (.error error, scope)
  | .ok session =>
      (.ok (.ofStatus .success ""),
        { scope with session, registry := scope.registry.register client })

/-- Ends the connection after a last response. -/
def closeConnection (scope : Scope) : Except Error Reply × Scope :=
  (.ok { Reply.ofStatus .success "" with close := true }, scope)

def createFile (client : ClientId) (path : String) (lock : Bool)
    (scope : Scope) : Except Error Reply × Scope :=
  match scope.store.create path client lock with
  | (.error error, store) => (.error error, { scope with store })
  | (.ok evicted, store) =>
      (.ok ((Reply.ofStatus .success path).withEvicted evicted),
        { scope with store, session := scope.session.markOpen path })

def openExisting (client : ClientId) (path : String) (lock : Bool)
    (scope : Scope) : Except Error Reply × Scope :=
  match scope.store.open path client lock with
  | (.error error, store) => (.error error, { scope with store })
  | (.ok outcome, store) =>
      let status := (outcome.map LockOutcome.status).getD .success
      (.ok (.ofStatus status path),
        { scope with store, session := scope.session.markOpen path })

def openFile (client : ClientId) (request : Request) (scope : Scope) :
    Except Error Reply × Scope :=
  match request.flags with
  | .error error => (.error error, scope)
  | .ok flags =>
      if flags.create then
        scope.createFile client request.path flags.lock
      else
        scope.openExisting client request.path flags.lock

/-- Closes a file, which gives up its lock. -/
def closeFile (client : ClientId) (path : String) (scope : Scope) :
    Except Error Reply × Scope :=
  let (released, store) := scope.store.close path client
  (.ok { Reply.ofStatus .success path with released },
    { scope with store, session := scope.session.markClosed path })

def writeFile (client : ClientId) (path : String) (content : Bytes)
    (scope : Scope) : Except Error Reply × Scope :=
  match scope.store.write path client content with
  | (.error error, store) => (.error error, { scope with store })
  | (.ok evicted, store) =>
      (.ok ((Reply.ofStatus .success path).withEvicted evicted),
        { scope with store })

def readFile (client : ClientId) (path : String) (scope : Scope) :
    Except Error Reply × Scope :=
  match scope.store.read path client with
  | .error error => (.error error, scope)
  | .ok body => (.ok { responses := [{ status := .success, path, body }] }, scope)

/-- The response that hands a stored file to a client. -/
def found (file : String × Bytes) : Response where
  status := .success
  path := file.1
  body := file.2

/-- Reads many files.  An empty path ends their list. -/
def readNFiles (client : ClientId) (request : Request) (scope : Scope) :
    Except Error Reply × Scope :=
  match request.count with
  | .error error => (.error error, scope)
  | .ok count =>
      (.ok
        { responses :=
            (scope.store.readMany count client).map found
              ++ [{ status := .success }] },
        scope)

def removeFile (client : ClientId) (path : String) (scope : Scope) :
    Except Error Reply × Scope :=
  match scope.store.remove path client with
  | (.error error, store) => (.error error, { scope with store })
  | (.ok orphans, store) =>
      (.ok { Reply.ofStatus .success path with orphans },
        { scope with store, session := scope.session.markClosed path })

def lockFile (client : ClientId) (path : String) (scope : Scope) :
    Except Error Reply × Scope :=
  match scope.store.lock path client with
  | (.error error, store) => (.error error, { scope with store })
  | (.ok outcome, store) =>
      (.ok (.ofStatus outcome.status path), { scope with store })

def unlockFile (client : ClientId) (path : String) (scope : Scope) :
    Except Error Reply × Scope :=
  match scope.store.unlock path client with
  | (.error error, store) => (.error error, { scope with store })
  | (.ok _, store) =>
      (.ok { Reply.ofStatus .success path with released := true },
        { scope with store })

def handle (client : ClientId) (request : Request) (scope : Scope) :
    Except Error Reply × Scope :=
  match request.operation with
  | .openConnection => scope.openConnection client
  | .closeConnection => scope.closeConnection
  | .openFile => scope.openFile client request
  | .closeFile => scope.closeFile client request.path
  | .writeFile => scope.writeFile client request.path request.body
  | .readFile => scope.readFile client request.path
  | .readNFiles => scope.readNFiles client request
  | .removeFile => scope.removeFile client request.path
  | .lockFile => scope.lockFile client request.path
  | .unlockFile => scope.unlockFile client request.path

/-- Serves a request.  A failure becomes the only status of the reply. -/
def dispatch (client : ClientId) (request : Request) (scope : Scope) :
    Reply × Scope :=
  match request.check scope.session with
  | .error error => (.ofError error request.path, scope)
  | .ok _ =>
      match scope.handle client request with
      | (.ok reply, after) => (reply, after)
      | (.error error, after) => (.ofError error request.path, after)

end Scope

end FileDepot
