import FileDepot.Bytes

/-!
# Stored files

A stored file has content, which is written once, and a lock: an owner, or
none, and a queue of clients that wait for it.  A client that asks for the
lock gets it at once only if it is free and nobody waits.
-/

namespace FileDepot

abbrev ClientId := Nat

/-- What became of asking for a lock. -/
inductive LockOutcome
  /-- The client owns the lock. -/
  | acquired
  /-- The client waits for the lock. -/
  | queued
  deriving DecidableEq, Repr

/-- A file in memory. -/
structure StoredFile where
  content : Bytes := []
  /-- The file was created and not written since. -/
  unwritten : Bool := true
  owner : Option ClientId := none
  /-- The clients that wait for the lock, first come first. -/
  waiters : List ClientId := []
  deriving DecidableEq, Repr

namespace StoredFile

def size (file : StoredFile) : Nat :=
  file.content.length

def created (owner : Option ClientId) : StoredFile where
  owner := owner

/-- Whether somebody else holds the lock. -/
def lockedByOther (file : StoredFile) (client : ClientId) : Bool :=
  match file.owner with
  | some owner => owner ≠ client
  | none => false

def fill (file : StoredFile) (content : Bytes) : StoredFile :=
  { file with content, unwritten := false }

/-- Asks for the lock on behalf of a client, which queues at most once. -/
def lock (file : StoredFile) (client : ClientId) : LockOutcome × StoredFile :=
  if file.owner = some client then
    (.acquired, file)
  else if file.owner = none ∧ file.waiters = [] then
    (.acquired, { file with owner := some client })
  else if client ∈ file.waiters then
    (.queued, file)
  else
    (.queued, { file with waiters := file.waiters ++ [client] })

/-- Gives up the lock if the client holds it. -/
def release (file : StoredFile) (client : ClientId) : StoredFile :=
  if file.owner = some client then { file with owner := none } else file

/-- Withdraws the client from the queue. -/
def withdraw (file : StoredFile) (client : ClientId) : StoredFile :=
  { file with waiters := file.waiters.filter (· ≠ client) }

/-- Hands a free lock to the first client in the queue. -/
def grantNext (file : StoredFile) : Option (ClientId × StoredFile) :=
  match file.owner, file.waiters with
  | none, next :: rest =>
      some (next, { file with owner := some next, waiters := rest })
  | _, _ => none

end StoredFile

end FileDepot
