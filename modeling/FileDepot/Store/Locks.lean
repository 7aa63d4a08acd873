import FileDepot.Error
import FileDepot.Store.Basic

/-!
# Locking files

Locks that are free are taken at once, others are queued for.  Whoever waits
is served later, by `Store.grantWaiting`, in the order of the queue.
-/

namespace FileDepot

namespace Store

def lock (store : Store) (path : String) (client : ClientId) :
    Except Error LockOutcome × Store :=
  match store.file? path with
  | none => (.error (.notFound path), store)
  | some file =>
      let (outcome, locked) := file.lock client
      (.ok outcome, store.update path locked)

def unlock (store : Store) (path : String) (client : ClientId) :
    Except Error Unit × Store :=
  match store.file? path with
  | none => (.error (.notFound path), store)
  | some file =>
      if file.owner = some client then
        (.ok (), store.update path (file.release client))
      else
        (.error (.notLockOwner path), store)

/-- Drops whatever the client holds or awaits on a file, and says whether it
held the lock. -/
def close (store : Store) (path : String) (client : ClientId) : Bool × Store :=
  match store.file? path with
  | none => (false, store)
  | some file =>
      (file.owner = some client,
        store.update path ((file.withdraw client).release client))

/-- Drops whatever the client holds or awaits on any file, and counts the
locks that it held. -/
def releaseClient (store : Store) (client : ClientId) : Nat × Store :=
  (store.table.values.countP fun file => file.owner = some client,
    { store with
      table := store.table.mapValues fun file =>
        (file.withdraw client).release client })

/-- Hands the free locks along the given paths to the heads of their queues. -/
def grantAlong : List String → Store → List LockGrant × Store
  | [], store => ([], store)
  | path :: younger, store =>
      match (store.file? path).bind StoredFile.grantNext with
      | none => grantAlong younger store
      | some (client, granted) =>
          let (grants, after) := grantAlong younger (store.update path granted)
          ({ client, path } :: grants, after)

/-- Hands every free lock with a queue to the head of the queue, oldest file
first. -/
def grantWaiting (store : Store) : List LockGrant × Store :=
  grantAlong store.order store

end Store

end FileDepot
