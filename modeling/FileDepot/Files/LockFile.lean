import FileDepot.Error
import FileDepot.Files.FileSystem

/-!
# Lock files

A server holds the advisory lock of a file beside its socket, so that no two
servers serve one socket path.  The file names the process that holds the
lock, and it stays when the lock is given up: another process may have opened
it already.
-/

namespace FileDepot

/-- A lock file whose lock is held. -/
structure LockFile where
  node : NodeId
  deriving DecidableEq, Repr

namespace LockFile

/-- The lock file that belongs to a socket path. -/
def pathFor (socketPath : String) : String :=
  socketPath ++ ".lock"

def contentOf (process : Nat) : Bytes :=
  Bytes.ofText s!"{process}\n"

/-- Opens a lock file, which creates it if it is missing, and takes its lock
without waiting.  Only the holder of the lock writes to the file. -/
def acquire (path : String) (process : Nat) (system : FileSystem) :
    Except IoFault LockFile × FileSystem :=
  match system.openForWriting path with
  | .error fault => (.error fault, system)
  | .ok (node, opened) =>
      match opened.lockNode node with
      | .error fault => (.error fault, opened)
      | .ok locked => (.ok { node }, locked.setContent node (contentOf process))

def release (lock : LockFile) (system : FileSystem) : FileSystem :=
  system.unlockNode lock.node

end LockFile

end FileDepot
