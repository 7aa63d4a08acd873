import FileDepot.Dispatch
import FileDepot.Proofs.Store.Accounting

/-!
# What a request comes to

A request opens the session, or carries out one operation on the store on
behalf of its client, or changes nothing.  Its reply names the orphans of the
operation and says whether a lock was given up.
-/

namespace FileDepot

/-- The operation on the store that a request asks for. -/
def Request.asks? (request : Request) (client : ClientId) :
    Option StoreOperation :=
  match request.operation with
  | .openConnection | .closeConnection => none
  | .openFile =>
      match request.flags with
      | .error _ => none
      | .ok flags =>
          if flags.create then
            some (.create request.path client flags.lock)
          else
            some (.open request.path client flags.lock)
  | .closeFile => some (.close request.path client)
  | .writeFile => some (.write request.path client request.body)
  | .readFile => some (.read request.path client)
  | .readNFiles =>
      match request.count with
      | .error _ => none
      | .ok count => some (.readMany count client)
  | .removeFile => some (.remove request.path client)
  | .lockFile => some (.lock request.path client)
  | .unlockFile => some (.unlock request.path client)

theorem Request.client?_of_asks {request : Request} {client : ClientId}
    {operation : StoreOperation}
    (asked : request.asks? client = some operation) :
    operation.client? = some client := by
  unfold asks? at asked
  split at asked
  case h_3 =>
    split at asked
    · cases asked
    · split at asked <;> cases asked <;> rfl
  case h_7 =>
    split at asked
    · cases asked
    · cases asked
      rfl
  all_goals cases asked <;> rfl

/-- Only the request to close a file takes a client out of a queue. -/
theorem Request.closes_of_asks {request : Request} {client other : ClientId}
    {path : String} {operation : StoreOperation}
    (asked : request.asks? client = some operation)
    (leaving : operation = .close path other ∨
      operation = .releaseClient other ∨ operation = .grantWaiting) :
    operation = .close path client ∧ other = client ∧
      request.operation = .closeFile ∧ request.path = path := by
  unfold asks? at asked
  split at asked
  case h_4 code =>
    cases asked
    rcases leaving with same | same | same
    · cases same
      exact ⟨rfl, rfl, code, rfl⟩
    · cases same
    · cases same
  case h_3 =>
    split at asked
    · cases asked
    · split at asked <;> cases asked <;> simp at leaving
  case h_7 =>
    split at asked <;> cases asked
    simp at leaving
  all_goals cases asked <;> simp at leaving

/-- The reply that a handler's result becomes. -/
def Reply.ofResult (path : String) : Except Error Reply → Reply
  | .ok reply => reply
  | .error error => .ofError error path

@[simp] theorem Session.isActive_markOpen (session : Session)
    (path : String) : (session.markOpen path).isActive = session.isActive := by
  unfold markOpen
  split
  · rfl
  · split <;> rfl

@[simp] theorem Session.isActive_markClosed (session : Session)
    (path : String) :
    (session.markClosed path).isActive = session.isActive := by
  unfold markClosed
  split <;> rfl

namespace Scope

/-- A request carried out an operation on the store, and its reply reports
what others have to know of it. -/
structure Carried (operation : StoreOperation) (scope : Scope) (reply : Reply)
    (after : Scope) : Prop where
  store : after.store = (scope.store.perform operation).2
  orphans : reply.orphans = (scope.store.perform operation).1.orphans
  released : reply.released = (scope.store.perform operation).1.freesLock
  registry : after.registry = scope.registry
  active : after.session.isActive = scope.session.isActive

section Handlers

variable (client : ClientId) (path named : String) (scope : Scope)

attribute [local simp] Store.perform StoreAnswer.orphans
  StoreAnswer.freesLock Reply.ofResult Reply.withEvicted Reply.ofStatus
  Reply.ofError

theorem carried_createFile (lock : Bool) :
    Carried (.create path client lock) scope
      (.ofResult named (scope.createFile client path lock).1)
      (scope.createFile client path lock).2 := by
  unfold createFile
  split <;> rename_i goes <;> constructor <;>
    simp [goes]

theorem carried_openExisting (lock : Bool) :
    Carried (.open path client lock) scope
      (.ofResult named (scope.openExisting client path lock).1)
      (scope.openExisting client path lock).2 := by
  unfold openExisting
  split <;> rename_i goes <;> constructor <;>
    simp [goes]

theorem carried_closeFile :
    Carried (.close path client) scope
      (.ofResult named (scope.closeFile client path).1)
      (scope.closeFile client path).2 := by
  constructor <;>
    simp [closeFile]

theorem carried_writeFile (content : Bytes) :
    Carried (.write path client content) scope
      (.ofResult named (scope.writeFile client path content).1)
      (scope.writeFile client path content).2 := by
  unfold writeFile
  split <;> rename_i goes <;> constructor <;>
    simp [goes]

theorem carried_readFile :
    Carried (.read path client) scope
      (.ofResult named (scope.readFile client path).1)
      (scope.readFile client path).2 := by
  unfold readFile
  split <;> constructor <;>
    simp

theorem carried_removeFile :
    Carried (.remove path client) scope
      (.ofResult named (scope.removeFile client path).1)
      (scope.removeFile client path).2 := by
  unfold removeFile
  split <;> rename_i goes <;> constructor <;>
    simp [goes]

theorem carried_lockFile :
    Carried (.lock path client) scope
      (.ofResult named (scope.lockFile client path).1)
      (scope.lockFile client path).2 := by
  unfold lockFile
  split <;> rename_i goes <;> constructor <;>
    simp [goes]

theorem carried_unlockFile :
    Carried (.unlock path client) scope
      (.ofResult named (scope.unlockFile client path).1)
      (scope.unlockFile client path).2 := by
  unfold unlockFile
  split <;> rename_i goes <;> constructor <;>
    simp [goes]

end Handlers

theorem carried_handle {client : ClientId} {request : Request}
    {operation : StoreOperation} (scope : Scope)
    (asked : request.asks? client = some operation) :
    Carried operation scope
      (.ofResult request.path (scope.handle client request).1)
      (scope.handle client request).2 := by
  unfold handle
  unfold Request.asks? at asked
  cases code : request.operation with
  | openConnection | closeConnection => simp [code] at asked
  | openFile =>
      simp only [code] at asked ⊢
      unfold openFile
      cases read : request.flags with
      | error error => simp [read] at asked
      | ok flags =>
          simp only [read] at asked ⊢
          by_cases creates : flags.create = true
          · rw [if_pos creates] at asked ⊢
            cases asked
            exact carried_createFile client request.path _ scope flags.lock
          · rw [if_neg creates] at asked ⊢
            cases asked
            exact carried_openExisting client request.path _ scope flags.lock
  | closeFile =>
      simp only [code] at asked ⊢
      cases asked
      exact carried_closeFile client request.path _ scope
  | writeFile =>
      simp only [code] at asked ⊢
      cases asked
      exact carried_writeFile client request.path _ scope request.body
  | readFile =>
      simp only [code] at asked ⊢
      cases asked
      exact carried_readFile client request.path _ scope
  | readNFiles =>
      simp only [code] at asked ⊢
      unfold readNFiles
      cases read : request.count with
      | error error => simp [read] at asked
      | ok count =>
          simp only [read] at asked ⊢
          cases asked
          exact ⟨rfl, rfl, rfl, rfl, rfl⟩
  | removeFile =>
      simp only [code] at asked ⊢
      cases asked
      exact carried_removeFile client request.path _ scope
  | lockFile =>
      simp only [code] at asked ⊢
      cases asked
      exact carried_lockFile client request.path _ scope
  | unlockFile =>
      simp only [code] at asked ⊢
      cases asked
      exact carried_unlockFile client request.path _ scope

/-- A request that asks the store for nothing changes nothing, unless it opens
the session. -/
theorem handle_quiet {client : ClientId} {request : Request} (scope : Scope)
    (silent : request.asks? client = none)
    (notOpening : request.operation ≠ .openConnection) :
    (scope.handle client request).2 = scope ∧
      (Reply.ofResult request.path (scope.handle client request).1).orphans =
        [] ∧
      (Reply.ofResult request.path
        (scope.handle client request).1).released = false := by
  unfold Request.asks? at silent
  cases code : request.operation with
  | openConnection => exact absurd code notOpening
  | closeConnection =>
      simp [handle, code, closeConnection, Reply.ofResult, Reply.ofStatus]
  | openFile =>
      cases read : request.flags with
      | error error =>
          simp [handle, code, openFile, read, Reply.ofResult, Reply.ofError]
      | ok flags =>
          simp only [code, read] at silent
          split at silent <;> cases silent
  | readNFiles =>
      cases read : request.count with
      | error error =>
          simp [handle, code, readNFiles, read, Reply.ofResult, Reply.ofError]
      | ok count => simp [code, read] at silent
  | _ => simp [code] at silent

theorem store_openConnection (client : ClientId) (scope : Scope) :
    (scope.openConnection client).2.store = scope.store := by
  unfold openConnection
  split <;> rfl

theorem isActive_of_checked {request : Request} {session : Session}
    (checked : request.check session = .ok ())
    (notOpening : request.operation ≠ .openConnection) :
    session.isActive = true := by
  unfold Request.check at checked
  rw [if_neg notOpening] at checked
  cases active : session.isActive with
  | true => rfl
  | false => simp [active] at checked

/-- A request that passes its check is handed to its handler. -/
theorem dispatch_of_checked {request : Request} {scope : Scope}
    (checked : request.check scope.session = .ok ()) (client : ClientId) :
    scope.dispatch client request =
      (.ofResult request.path (scope.handle client request).1,
        (scope.handle client request).2) := by
  simp only [dispatch, checked]
  rcases scope.handle client request with ⟨error | reply, after⟩ <;> rfl

/-- Everything that a request can come to. -/
theorem dispatch_cases (client : ClientId) (request : Request)
    (scope : Scope) :
    (scope.session = .unopened ∧
      scope.dispatch client request =
        (.ofStatus .success "",
          { scope with
            session := .active []
            registry := scope.registry.register client })) ∨
    ((scope.dispatch client request).2 = scope ∧
      (scope.dispatch client request).1.orphans = [] ∧
      (scope.dispatch client request).1.released = false) ∨
    ∃ operation, request.asks? client = some operation ∧
      scope.session.isActive = true ∧
      Carried operation scope (scope.dispatch client request).1
        (scope.dispatch client request).2 := by
  cases checked : request.check scope.session with
  | error error =>
      refine Or.inr (Or.inl ?_)
      simp [dispatch, checked, Reply.ofError]
  | ok _ =>
      rw [dispatch_of_checked checked]
      by_cases opening : request.operation = .openConnection
      · cases session : scope.session with
        | unopened =>
            refine Or.inl ⟨rfl, ?_⟩
            simp [handle, opening, openConnection, session, Session.activate,
              Reply.ofResult]
        | active opened =>
            refine Or.inr (Or.inl ?_)
            simp [handle, opening, openConnection, session, Session.activate,
              Reply.ofResult, Reply.ofError]
      · cases asked : request.asks? client with
        | none => exact Or.inr (Or.inl (handle_quiet scope asked opening))
        | some operation =>
            exact Or.inr (Or.inr ⟨operation, rfl,
              isActive_of_checked checked opening,
              carried_handle scope asked⟩)

theorem limits_dispatch (client : ClientId) (request : Request)
    (scope : Scope) :
    (scope.dispatch client request).2.store.limits = scope.store.limits := by
  rcases dispatch_cases client request scope with
    ⟨-, goes⟩ | ⟨same, -, -⟩ | ⟨operation, -, -, carried⟩
  · rw [goes]
  · rw [same]
  · rw [carried.store, Store.limits_perform]

end Scope

end FileDepot
