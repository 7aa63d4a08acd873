import FileDepot.Dispatch
import FileDepot.Wire.Frame

/-!
# The client

A client makes one call after another.  A call sends at most one request and
then receives responses until it is finished: expelled files are gathered on
the way to the final status, a list of files ends with an empty path, and a
pending lock is waited for.
-/

namespace FileDepot

/-- What a client can ask of a server. -/
inductive Call
  | openConnection
  | closeConnection
  /-- Opens a file; with a wish for the lock, waits until it is held. -/
  | openFile (path : String) (flags : OpenFlags)
  | closeFile (path : String)
  | writeFile (path : String) (content : Bytes)
  | readOne (path : String)
  | readMany (count : Int)
  | removeFile (path : String)
  /-- Waits until the lock is held. -/
  | lockFile (path : String)
  /-- Asks for the lock without waiting. -/
  | tryLockFile (path : String)
  /-- Waits for the lock that an earlier call queued for. -/
  | waitForLock (path : String)
  | unlockFile (path : String)
  deriving DecidableEq, Repr

inductive CallAnswer
  | done
  | evicted (files : List EvictedFile)
  | content (bytes : Bytes)
  | files (files : List (String × Bytes))
  | lock (outcome : LockOutcome)
  deriving DecidableEq, Repr

namespace Call

def request? : Call → Option Request
  | openConnection => some { operation := .openConnection }
  | closeConnection => some { operation := .closeConnection }
  | openFile path flags => some (.openFile path flags)
  | closeFile path => some { operation := .closeFile, path }
  | writeFile path content =>
      some { operation := .writeFile, path, body := content }
  | readOne path => some { operation := .readFile, path }
  | readMany count => some (.readNFiles count)
  | removeFile path => some { operation := .removeFile, path }
  | lockFile path => some { operation := .lockFile, path }
  | tryLockFile path => some { operation := .lockFile, path }
  | waitForLock _ => none
  | unlockFile path => some { operation := .unlockFile, path }

end Call

/-- What a call that is under way waits for. -/
inductive Awaiting
  /-- The final status of a request, after these expelled files. -/
  | reply (call : Call) (evicted : List EvictedFile)
  /-- The rest of a list of files. -/
  | moreFiles (gathered : List (String × Bytes))
  /-- The lock of a file, and then the given answer. -/
  | grant (path : String) (answer : CallAnswer)
  deriving DecidableEq, Repr

/-- Where a call stands after a response. -/
inductive Progress
  | waiting (awaiting : Awaiting)
  | finished (outcome : Except Error CallAnswer)

namespace Call

/-- What a call waits for once its request is sent. -/
def start : Call → Awaiting
  | readMany _ => .moreFiles []
  | waitForLock path => .grant path .done
  | call => .reply call []

/-- What a call makes of the final status of its request. -/
def conclude (call : Call) (evicted : List EvictedFile) (response : Response) :
    Progress :=
  let refusal : Progress :=
    .finished (.error (.refused response.status response.path))
  match call, response.status with
  | openFile _ _, .success => .finished (.ok (.evicted evicted))
  | openFile path _, .lockPending => .waiting (.grant path (.evicted evicted))
  | lockFile _, .success => .finished (.ok .done)
  | lockFile path, .lockPending => .waiting (.grant path .done)
  | tryLockFile _, .success => .finished (.ok (.lock .acquired))
  | tryLockFile _, .lockPending => .finished (.ok (.lock .queued))
  | writeFile _ _, .success => .finished (.ok (.evicted evicted))
  | readOne _, .success => .finished (.ok (.content response.body))
  | _, .success => .finished (.ok .done)
  | _, _ => refusal

end Call

namespace Awaiting

def receive (awaiting : Awaiting) (response : Response) : Progress :=
  match awaiting with
  | reply call evicted =>
      if response.status = .filesExpelled then
        .waiting (.reply call (evicted ++ [⟨response.path, response.body⟩]))
      else
        call.conclude evicted response
  | moreFiles gathered =>
      if !response.status.isSuccess then
        .finished (.error (.refused response.status response.path))
      else if response.path.isEmpty then
        .finished (.ok (.files gathered))
      else
        .waiting (.moreFiles (gathered ++ [(response.path, response.body)]))
  | grant path answer =>
      if !response.status.isSuccess then
        .finished (.error (.refused response.status response.path))
      else if response.path = path then
        .finished (.ok answer)
      else
        .finished (.error (.invalidState
          s!"expected grant for {path}, got {response.path}"))

/-- Reads responses until the call is finished. -/
def readUntil (awaiting : Awaiting) :
    (fuel : Nat) → Source → Except Error CallAnswer × Source
  | 0, source => (.error .peerClosed, source)
  | fuel + 1, source =>
      match Response.decode source with
      | .error error rest => (.error error, rest)
      | .ok response rest =>
          match awaiting.receive response with
          | .finished outcome => (outcome, rest)
          | .waiting next => next.readUntil fuel rest

/-- Reads responses until the call is finished.  Each takes at least one byte,
so there are no more of them than bytes. -/
def read (awaiting : Awaiting) (source : Source) :
    Except Error CallAnswer × Source :=
  awaiting.readUntil (source.bytes.length + 1) source

end Awaiting

end FileDepot
