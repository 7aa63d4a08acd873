import FileDepot.Proofs.Server.Dispatching
import FileDepot.Proofs.Store.LockQueues
import FileDepot.Proofs.Store.Refusals

/-!
# What a client is answered

A request is refused in one response, and then nothing has changed, or its
reply ends in the status that it was met or that its client has to wait.
-/

namespace FileDepot

namespace StoredFile

theorem owner_of_acquired {file : StoredFile} {client : ClientId}
    (acquired : (file.lock client).1 = .acquired) :
    (file.lock client).2.owner = some client := by
  unfold lock at acquired ⊢
  split at acquired
  · rename_i held
    rw [if_pos held]
    exact held
  · rename_i unheld
    rw [if_neg unheld]
    split at acquired
    · rename_i idle
      rw [if_pos idle]
    · split at acquired <;> cases acquired

theorem waits_of_queued {file : StoredFile} {client : ClientId}
    (queued : (file.lock client).1 = .queued) :
    client ∈ (file.lock client).2.waiters := by
  unfold lock at queued ⊢
  split at queued
  · cases queued
  · rename_i unheld
    rw [if_neg unheld]
    split at queued
    · cases queued
    · rename_i busy
      rw [if_neg busy]
      split
      · assumption
      · simp

end StoredFile

namespace Store

/-- A client that asked for a lock holds it or waits for it, as it is told. -/
def Locked (store : Store) (client : ClientId) (path : String) :
    LockOutcome → Prop
  | .acquired => store.Holds client path
  | .queued => store.Awaits client path

theorem locked_update {store : Store} {path : String} {file : StoredFile}
    (found : store.file? path = some file) (client : ClientId) :
    (store.update path (file.lock client).2).Locked client path
      (file.lock client).1 := by
  have present : (store.update path (file.lock client).2).file? path =
      some (file.lock client).2 := by
    rw [file?_update_of_found found, if_pos rfl]
  cases outcome : (file.lock client).1 with
  | acquired => exact ⟨_, present, StoredFile.owner_of_acquired outcome⟩
  | queued => exact ⟨_, present, StoredFile.waits_of_queued outcome⟩

theorem locked_of_lock {store after : Store} {path : String}
    {client : ClientId} {outcome : LockOutcome}
    (goes : store.lock path client = (.ok outcome, after)) :
    after.Locked client path outcome := by
  rcases lock_cases store path client with
    ⟨error, fails⟩ | ⟨file, found, locks⟩
  · rw [fails] at goes
    cases goes
  · rw [locks] at goes
    cases goes
    exact locked_update found client

theorem locked_of_open {store after : Store} {path : String}
    {client : ClientId} {lock : Bool} {outcome? : Option LockOutcome}
    (goes : store.open path client lock = (.ok outcome?, after)) :
    (lock = false ∧ outcome? = none) ∨
      ∃ outcome, lock = true ∧ outcome? = some outcome ∧
        after.Locked client path outcome := by
  cases found : store.file? path with
  | none => simp [Store.open, found] at goes
  | some file =>
      cases lock with
      | false =>
          left
          simp [Store.open, found] at goes
          exact ⟨rfl, goes.1.symm⟩
      | true =>
          right
          simp [Store.open, found] at goes
          obtain ⟨rfl, rfl⟩ := goes
          exact ⟨_, rfl, rfl, locked_update found client⟩

theorem holds_of_create {store after : Store} {path : String}
    {client : ClientId} {evicted : Evicted}
    (goes : store.create path client true = (.ok evicted, after)) :
    after.Holds client path := by
  have inserted (earlier : Store) : (earlier.insert path
      (.created (if true then some client else none))).Holds client path :=
    ⟨.created (some client), by simp, rfl⟩
  rcases create_cases store path client true with
    ⟨error, fails⟩ | ⟨-, -, created⟩ | ⟨victims, -, -, -, -, created⟩
  · rw [fails] at goes
    cases goes
  · rw [created] at goes
    cases goes
    exact inserted store
  · rw [created] at goes
    cases goes
    exact inserted _

end Store

/-- Whether a request asks for a lock. -/
def Request.wantsLock (request : Request) : Bool :=
  match request.operation with
  | .openFile =>
      match request.flags with
      | .ok flags => flags.lock
      | .error _ => false
  | .lockFile => true
  | _ => false

/-- An operation that may queue for a lock is asked for as such. -/
theorem Request.wantsLock_of_asks {request : Request}
    {client seeker : ClientId} {path : String} {operation : StoreOperation}
    (asked : request.asks? client = some operation)
    (seeks : operation = .lock path seeker ∨
      operation = .open path seeker true) :
    request.wantsLock = true ∧ request.path = path ∧ seeker = client := by
  unfold asks? at asked
  unfold wantsLock
  split at asked
  case h_3 code =>
    split at asked
    · cases asked
    · rename_i flags read
      split at asked
      · cases asked
        rcases seeks with same | same <;> cases same
      · cases asked
        rcases seeks with same | same
        · cases same
        · simp only [StoreOperation.open.injEq] at same
          obtain ⟨rfl, rfl, locks⟩ := same
          simp [code, read, locks]
  case h_7 =>
    split at asked <;> cases asked
    rcases seeks with same | same <;> cases same
  case h_9 code =>
    cases asked
    rcases seeks with same | same
    · cases same
      simp [code]
    · cases same
  all_goals
    cases asked <;> rcases seeks with same | same <;> cases same

namespace Scope

/-- Everything that a client can be answered. -/
inductive Settles (client : ClientId) (request : Request) (scope : Scope)
    (reply : Reply) (after : Scope) : Prop
  | refused (error : Error) (refusal : error.status.isRefusal = true)
      (answer : reply = .ofError error request.path) (same : after = scope)
  | met (expelled : List EvictedFile) (final : Response)
      (single : request.operation ≠ .readNFiles)
      (success : final.status = .success)
      (answer : reply.responses = expelled.map Reply.expelled ++ [final])
      (locked : request.wantsLock = true →
        after.store.Holds client request.path ∧ reply.close = false)
  | listed (files : List (String × Bytes))
      (many : request.operation = .readNFiles)
      (stored : ∀ file ∈ files, scope.store.file? file.1 ≠ none)
      (answer : reply.responses = files.map found ++ [{ status := .success }])
  | queued (wants : request.wantsLock = true)
      (answer : reply.responses =
        [{ status := .lockPending, path := request.path }])
      (awaits : after.store.Awaits client request.path)
      (stays : reply.close = false)

section Handlers

variable (client : ClientId) (request : Request) (scope : Scope)

theorem settles_openConnection
    (code : request.operation = .openConnection) :
    Settles client request scope
      (.ofResult request.path (scope.openConnection client).1)
      (scope.openConnection client).2 := by
  unfold openConnection
  cases session : scope.session with
  | unopened =>
      exact .met [] _ (by simp [code]) rfl rfl
        (by simp [Request.wantsLock, code])
  | active opened => exact .refused .alreadyConnected rfl rfl rfl

theorem settles_createFile {flags : OpenFlags}
    (code : request.operation = .openFile)
    (read : request.flags = .ok flags) :
    Settles client request scope
      (.ofResult request.path
        (scope.createFile client request.path flags.lock).1)
      (scope.createFile client request.path flags.lock).2 := by
  unfold createFile
  rcases goes : scope.store.create request.path client flags.lock with
    ⟨error | evicted, after⟩
  · obtain ⟨rfl, refusal⟩ := Store.refuses_create goes
    exact .refused error refusal rfl rfl
  · refine .met evicted.files _ (by simp [code]) rfl rfl ?_
    intro wants
    have locks : flags.lock = true := by
      simpa [Request.wantsLock, code, read] using wants
    rw [locks] at goes
    exact ⟨Store.holds_of_create goes, rfl⟩

theorem settles_openExisting {flags : OpenFlags}
    (code : request.operation = .openFile)
    (read : request.flags = .ok flags) :
    Settles client request scope
      (.ofResult request.path
        (scope.openExisting client request.path flags.lock).1)
      (scope.openExisting client request.path flags.lock).2 := by
  have wants : request.wantsLock = flags.lock := by
    simp [Request.wantsLock, code, read]
  unfold openExisting
  rcases goes : scope.store.open request.path client flags.lock with
    ⟨error | outcome?, after⟩
  · obtain ⟨rfl, refusal⟩ := Store.refuses_open goes
    exact .refused error refusal rfl rfl
  · rcases Store.locked_of_open goes with
      ⟨unlocked, rfl⟩ | ⟨outcome, locks, rfl, locked⟩
    · exact .met [] _ (by simp [code]) rfl rfl (by simp [wants, unlocked])
    · cases outcome with
      | acquired =>
          exact .met [] _ (by simp [code]) rfl rfl fun _ => ⟨locked, rfl⟩
      | queued => exact .queued (wants.trans locks) rfl locked rfl

theorem refusal_of_flags {request : Request} {error : Error}
    (fails : request.flags = .error error) :
    error.status.isRefusal = true := by
  unfold Request.flags at fails
  split at fails
  · cases fails
  · split at fails
    · dsimp only at fails
      split at fails <;> cases fails
      rfl
    · cases fails
      rfl

theorem settles_openFile (code : request.operation = .openFile) :
    Settles client request scope
      (.ofResult request.path (scope.openFile client request).1)
      (scope.openFile client request).2 := by
  unfold openFile
  cases read : request.flags with
  | error error => exact .refused error (refusal_of_flags read) rfl rfl
  | ok flags =>
      dsimp only
      split
      · exact settles_createFile client request scope code read
      · exact settles_openExisting client request scope code read

theorem settles_writeFile (code : request.operation = .writeFile) :
    Settles client request scope
      (.ofResult request.path
        (scope.writeFile client request.path request.body).1)
      (scope.writeFile client request.path request.body).2 := by
  unfold writeFile
  rcases goes : scope.store.write request.path client request.body with
    ⟨error | evicted, after⟩
  · obtain ⟨rfl, refusal⟩ := Store.refuses_write goes
    exact .refused error refusal rfl rfl
  · exact .met evicted.files _ (by simp [code]) rfl rfl
      (by simp [Request.wantsLock, code])

theorem settles_readFile (code : request.operation = .readFile) :
    Settles client request scope
      (.ofResult request.path (scope.readFile client request.path).1)
      (scope.readFile client request.path).2 := by
  unfold readFile
  cases goes : scope.store.read request.path client with
  | error error =>
      exact .refused error (Store.refuses_read goes).2 rfl rfl
  | ok body =>
      exact .met [] _ (by simp [code]) rfl rfl
        (by simp [Request.wantsLock, code])

theorem refusal_of_count {request : Request} {error : Error}
    (fails : request.count = .error error) :
    error.status.isRefusal = true := by
  unfold Request.count at fails
  split at fails
  · cases fails
  · split at fails <;> cases fails
    rfl

theorem settles_readNFiles (code : request.operation = .readNFiles) :
    Settles client request scope
      (.ofResult request.path (scope.readNFiles client request).1)
      (scope.readNFiles client request).2 := by
  unfold readNFiles
  cases read : request.count with
  | error error => exact .refused error (refusal_of_count read) rfl rfl
  | ok count =>
      exact .listed (scope.store.readMany count client) code
        (fun file listed => Store.file?_of_readMany listed) rfl

theorem settles_removeFile (code : request.operation = .removeFile) :
    Settles client request scope
      (.ofResult request.path (scope.removeFile client request.path).1)
      (scope.removeFile client request.path).2 := by
  unfold removeFile
  rcases goes : scope.store.remove request.path client with
    ⟨error | orphans, after⟩
  · obtain ⟨rfl, refusal⟩ := Store.refuses_remove goes
    exact .refused error refusal rfl rfl
  · exact .met [] _ (by simp [code]) rfl rfl
      (by simp [Request.wantsLock, code])

theorem settles_lockFile (code : request.operation = .lockFile) :
    Settles client request scope
      (.ofResult request.path (scope.lockFile client request.path).1)
      (scope.lockFile client request.path).2 := by
  unfold lockFile
  rcases goes : scope.store.lock request.path client with
    ⟨error | outcome, after⟩
  · obtain ⟨rfl, refusal⟩ := Store.refuses_lock goes
    exact .refused error refusal rfl rfl
  · have locked := Store.locked_of_lock goes
    cases outcome with
    | acquired => exact .met [] _ (by simp [code]) rfl rfl fun _ => ⟨locked, rfl⟩
    | queued =>
        exact .queued (by simp [Request.wantsLock, code]) rfl locked rfl

theorem settles_unlockFile (code : request.operation = .unlockFile) :
    Settles client request scope
      (.ofResult request.path (scope.unlockFile client request.path).1)
      (scope.unlockFile client request.path).2 := by
  unfold unlockFile
  rcases goes : scope.store.unlock request.path client with
    ⟨error | done, after⟩
  · obtain ⟨rfl, refusal⟩ := Store.refuses_unlock goes
    exact .refused error refusal rfl rfl
  · exact .met [] _ (by simp [code]) rfl rfl
      (by simp [Request.wantsLock, code])

theorem settles_handle :
    Settles client request scope
      (.ofResult request.path (scope.handle client request).1)
      (scope.handle client request).2 := by
  unfold handle
  split
  · exact settles_openConnection client request scope ‹_›
  · exact .met [] _ (by simp [*]) rfl rfl (by simp [Request.wantsLock, *])
  · exact settles_openFile client request scope ‹_›
  · exact .met [] _ (by simp [*]) rfl rfl (by simp [Request.wantsLock, *])
  · exact settles_writeFile client request scope ‹_›
  · exact settles_readFile client request scope ‹_›
  · exact settles_readNFiles client request scope ‹_›
  · exact settles_removeFile client request scope ‹_›
  · exact settles_lockFile client request scope ‹_›
  · exact settles_unlockFile client request scope ‹_›

end Handlers

theorem refusal_of_check {request : Request} {session : Session}
    {error : Error} (fails : request.check session = .error error) :
    error.status.isRefusal = true := by
  unfold Request.check at fails
  repeat' split at fails
  all_goals cases fails
  all_goals rfl

/-- Whatever is asked, in whatever state, is answered in one of these ways. -/
theorem settles_dispatch (client : ClientId) (request : Request)
    (scope : Scope) :
    Settles client request scope (scope.dispatch client request).1
      (scope.dispatch client request).2 := by
  cases checked : request.check scope.session with
  | error error =>
      simp only [dispatch, checked]
      exact .refused error (refusal_of_check checked) rfl rfl
  | ok _ =>
      rw [dispatch_of_checked checked]
      exact settles_handle client request scope

/-- A request whose last response says neither that it was met nor that its
client has to wait has no other response and changes nothing, and there is
nothing else to do for it.  No request ends in an internal error, because
neither writing nor removing finds the store in an impossible state. -/
theorem failed_requests_change_nothing (client : ClientId) (request : Request)
    (scope : Scope) :
    let reply := (scope.dispatch client request).1
    (∃ final, reply.responses.getLast? = some final ∧
      final.status ≠ .internalError ∧
      (final.status ≠ .success → final.status ≠ .lockPending →
        reply.responses = [final] ∧
        (scope.dispatch client request).2 = scope ∧
        reply.orphans = [] ∧ reply.released = false ∧
        reply.close = false)) ∧
    ∀ path content reason,
      (scope.store.write path client content).1 ≠
        .error (.invalidState reason) ∧
      (scope.store.remove path client).1 ≠ .error (.invalidState reason) := by
  intro reply
  constructor
  · cases settles_dispatch client request scope with
    | refused error refusal answer same =>
        obtain ⟨-, notInternal, -, -⟩ := Status.isRefusal_spec refusal
        refine ⟨.ofError error request.path, ?_, notInternal, ?_⟩
        · simp [reply, answer, Reply.ofError]
        · intro _ _
          refine ⟨?_, same, ?_⟩ <;> simp [reply, answer, Reply.ofError]
    | met expelled final single success answer locked =>
        refine ⟨final, by simp [reply, answer], by simp [success], ?_⟩
        intro failed
        exact absurd success failed
    | listed files many stored answer =>
        refine ⟨{ status := .success }, by simp [reply, answer], by simp, ?_⟩
        intro failed
        exact absurd rfl failed
    | queued wants answer awaits stays =>
        refine ⟨_, by rw [show reply.responses = _ from answer]; rfl,
          by simp, ?_⟩
        intro _ failed
        exact absurd rfl failed
  · intro path content reason
    constructor
    · intro fails
      have refused := Store.refuses_write (Prod.ext fails rfl)
      cases refused.2
    · intro fails
      have refused := Store.refuses_remove (Prod.ext fails rfl)
      cases refused.2

/-- A store is full of a file that somebody else has locked.  Writing another
file is refused, and the locked file is still there. -/
theorem write_refused_by_full_store :
    let store := (Store.new { maxFiles := 2, maxBytes := 4 }).run
      [.create "f" 1 true, .write "f" 1 [1, 2, 3], .create "g" 2 true]
    let scope : Scope :=
      { session := .active ["g"], store, registry := {} }
    let request : Request :=
      { operation := .writeFile, path := "g", body := [4, 5] }
    (scope.dispatch 2 request).1.responses =
        [{ status := .fileTooBig, path := "g" }] ∧
      (scope.dispatch 2 request).2 = scope := by
  intro store scope request
  have responses : (scope.dispatch 2 request).1.responses =
      [{ status := .fileTooBig, path := "g" }] := by
    decide
  obtain ⟨⟨final, last, -, unchanged⟩, -⟩ :=
    failed_requests_change_nothing 2 request scope
  rw [responses, List.getLast?_singleton, Option.some.injEq] at last
  subst last
  exact ⟨responses, (unchanged (by simp) (by simp)).2.1⟩

end Scope

end FileDepot
