import FileDepot.Store.Files
import FileDepot.Store.Locks

/-!
# Runs of a store

Everything that can be asked of a store, as one type, so that a run is a list
of operations.  An operation that fails is part of a run like any other.
-/

namespace FileDepot

inductive StoreOperation
  | create (path : String) (client : ClientId) (lock : Bool)
  | «open» (path : String) (client : ClientId) (lock : Bool)
  | write (path : String) (client : ClientId) (content : Bytes)
  | read (path : String) (client : ClientId)
  | readMany (count : Int) (client : ClientId)
  | remove (path : String) (client : ClientId)
  | lock (path : String) (client : ClientId)
  | unlock (path : String) (client : ClientId)
  | close (path : String) (client : ClientId)
  | releaseClient (client : ClientId)
  | grantWaiting
  deriving DecidableEq, Repr

inductive StoreAnswer
  /-- A file was created or written, at the expense of others. -/
  | stored (outcome : Except Error Evicted)
  | opened (outcome : Except Error (Option LockOutcome))
  | content (outcome : Except Error Bytes)
  | contents (files : List (String × Bytes))
  | removed (outcome : Except Error (List Orphan))
  | locked (outcome : Except Error LockOutcome)
  | unlocked (outcome : Except Error Unit)
  | closed (held : Bool)
  | released (locks : Nat)
  | granted (grants : List LockGrant)

namespace StoreAnswer

/-- The clients whose awaited file is gone. -/
def orphans : StoreAnswer → List Orphan
  | stored (.ok evicted) => evicted.orphans
  | removed (.ok orphans) => orphans
  | _ => []

/-- The files that were expelled to make room. -/
def evictedFiles : StoreAnswer → List EvictedFile
  | stored (.ok evicted) => evicted.files
  | _ => []

/-- Whether a lock was given up, so that somebody else may get it. -/
def freesLock : StoreAnswer → Bool
  | unlocked (.ok _) => true
  | closed held => held
  | released locks => 0 < locks
  | _ => false

end StoreAnswer

/-- The client that asks for an operation; nobody asks for the scan that
hands locks on. -/
def StoreOperation.client? : StoreOperation → Option ClientId
  | create _ client _ | «open» _ client _ | write _ client _ | read _ client
  | readMany _ client | remove _ client | lock _ client | unlock _ client
  | close _ client | releaseClient client => some client
  | grantWaiting => none

/-- The client for whom an operation may take a lock or queue for it. -/
def StoreOperation.seeker? : StoreOperation → Option ClientId
  | create _ client _ | «open» _ client _ | lock _ client => some client
  | _ => none

theorem StoreOperation.client?_of_seeker {operation : StoreOperation}
    {client : ClientId} (seeks : operation.seeker? = some client) :
    operation.client? = some client := by
  cases operation with
  | create | «open» | lock => exact seeks
  | _ => cases seeks

/-- Whether an operation leaves the files themselves alone. -/
def StoreOperation.onlyLocks : StoreOperation → Bool
  | create _ _ _ | write _ _ _ | remove _ _ => false
  | _ => true

namespace Store

def perform (store : Store) : StoreOperation → StoreAnswer × Store
  | .create path client lock =>
      let (outcome, after) := store.create path client lock
      (.stored outcome, after)
  | .open path client lock =>
      let (outcome, after) := store.open path client lock
      (.opened outcome, after)
  | .write path client content =>
      let (outcome, after) := store.write path client content
      (.stored outcome, after)
  | .read path client => (.content (store.read path client), store)
  | .readMany count client => (.contents (store.readMany count client), store)
  | .remove path client =>
      let (outcome, after) := store.remove path client
      (.removed outcome, after)
  | .lock path client =>
      let (outcome, after) := store.lock path client
      (.locked outcome, after)
  | .unlock path client =>
      let (outcome, after) := store.unlock path client
      (.unlocked outcome, after)
  | .close path client =>
      let (held, after) := store.close path client
      (.closed held, after)
  | .releaseClient client =>
      let (locks, after) := store.releaseClient client
      (.released locks, after)
  | .grantWaiting =>
      let (grants, after) := store.grantWaiting
      (.granted grants, after)

def run : List StoreOperation → Store → Store
  | [], store => store
  | operation :: later, store => run later (store.perform operation).2

/-- The answers to the operations of a run. -/
def answers : List StoreOperation → Store → List StoreAnswer
  | [], _ => []
  | operation :: later, store =>
      (store.perform operation).1 :: answers later (store.perform operation).2

/-- What every operation preserves is preserved by a run. -/
theorem run_preserves {invariant : Store → Prop}
    (step : ∀ store operation, invariant store →
      invariant (store.perform operation).2)
    (operations : List StoreOperation) {store : Store}
    (start : invariant store) : invariant (store.run operations) := by
  induction operations generalizing store with
  | nil => exact start
  | cons operation later ih => exact ih (step store operation start)

end Store

end FileDepot
