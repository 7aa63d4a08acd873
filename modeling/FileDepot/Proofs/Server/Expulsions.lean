import FileDepot.Proofs.Server.Replies
import FileDepot.Proofs.Store.HeldLocks

/-!
# What a reply reports

A reply that is no list of files consists of the files that its request
expelled, oldest first, and of one final response.
-/

namespace FileDepot

namespace Scope

/-- The files that are expelled to make room for what a request stores. -/
def expelledBy (scope : Scope) (client : ClientId) (request : Request) :
    List EvictedFile :=
  match request.check scope.session, request.asks? client with
  | .ok _, some operation => (scope.store.perform operation).1.evictedFiles
  | _, _ => []

/-- Expelled files come in the order of the store, with their content. -/
theorem expelledBy_in_order {scope : Scope}
    (consistent : scope.store.Consistent) (client : ClientId)
    (request : Request) :
    ((scope.expelledBy client request).map EvictedFile.path).Sublist
        scope.store.order ∧
      ∀ evicted ∈ scope.expelledBy client request, ∃ file,
        scope.store.file? evicted.path = some file ∧
          file.content = evicted.content := by
  unfold expelledBy
  split
  · rename_i operation checked asked
    obtain ⟨victims, inOrder, files⟩ :=
      Store.evictedFiles_cases consistent operation
    rw [files]
    refine ⟨(scope.store.paths_of_filterMap_evictedAt? victims).trans inOrder,
      ?_⟩
    intro evicted member
    obtain ⟨victim, -, handed⟩ := List.mem_filterMap.mp member
    obtain ⟨rfl, stored⟩ := Store.path_of_evictedAt? handed
    exact stored
  · exact ⟨List.nil_sublist _, by simp⟩

/-- A reply consists of these expelled files and a final response. -/
structure Reported (scope : Scope) (request : Request) (reply : Reply)
    (expelled : List EvictedFile) (final : Response) : Prop where
  responses : reply.responses = expelled.map Reply.expelled ++ [final]
  path : final.path = request.path ∨
    request.operation.targetsFile = false ∧ final.path = ""
  body : final.body = [] ∨ ∃ file,
    scope.store.file? request.path = some file ∧ final.body = file.content
  closes : reply.close = true → request.operation = .closeConnection

/-- A reply reports these expelled files, and then how its request ended. -/
def Reports (scope : Scope) (request : Request) (reply : Reply)
    (expelled : List EvictedFile) : Prop :=
  ∃ final, Reported scope request reply expelled final

section Handlers

variable {scope : Scope} {request : Request} {reply : Reply}

theorem Reports.of_success {evicted : List EvictedFile} {status : Status}
    (responses : reply.responses = evicted.map Reply.expelled ++
      [{ status, path := request.path }])
    (stays : reply.close = false) : Reports scope request reply evicted := by
  refine ⟨_, responses, Or.inl rfl, Or.inl rfl, ?_⟩
  rw [stays]
  exact fun closes => absurd closes Bool.false_ne_true

theorem Reports.of_status {status : Status}
    (responses : reply.responses = [{ status, path := request.path }])
    (stays : reply.close = false) : Reports scope request reply [] :=
  .of_success responses stays

theorem Reports.of_session {status : Status}
    (untargeted : request.operation.targetsFile = false)
    (responses : reply.responses = [{ status }])
    (closes : reply.close = true → request.operation = .closeConnection) :
    Reports scope request reply [] :=
  ⟨_, responses, Or.inr ⟨untargeted, rfl⟩, Or.inl rfl, closes⟩

variable (client : ClientId) (scope request)

theorem reports_createFile (lock : Bool) :
    Reports scope request
      (.ofResult request.path
        (scope.createFile client request.path lock).1)
      (scope.store.perform
        (.create request.path client lock)).1.evictedFiles := by
  rw [createFile, Store.perform]
  rcases scope.store.create request.path client lock with
    ⟨error | evicted, after⟩
  · exact .of_status rfl rfl
  · exact .of_success rfl rfl

theorem reports_openExisting (lock : Bool) :
    Reports scope request
      (.ofResult request.path
        (scope.openExisting client request.path lock).1) [] := by
  rw [openExisting]
  rcases scope.store.open request.path client lock with
    ⟨error | outcome, after⟩
  · exact .of_status rfl rfl
  · exact .of_status rfl rfl

theorem reports_writeFile :
    Reports scope request
      (.ofResult request.path
        (scope.writeFile client request.path request.body).1)
      (scope.store.perform
        (.write request.path client request.body)).1.evictedFiles := by
  rw [writeFile, Store.perform]
  rcases scope.store.write request.path client request.body with
    ⟨error | evicted, after⟩
  · exact .of_status rfl rfl
  · exact .of_success rfl rfl

theorem reports_readFile :
    Reports scope request
      (.ofResult request.path
        (scope.readFile client request.path).1) [] := by
  rw [readFile, Store.read]
  cases found : scope.store.file? request.path with
  | none => exact .of_status rfl rfl
  | some file =>
      dsimp only
      split
      · rename_i refused
        split at refused <;> cases refused
        exact .of_status rfl rfl
      · rename_i body goes
        split at goes <;> cases goes
        exact ⟨_, rfl, Or.inl rfl, Or.inr ⟨file, found, rfl⟩,
          fun closes => absurd closes Bool.false_ne_true⟩

theorem reports_removeFile :
    Reports scope request
      (.ofResult request.path
        (scope.removeFile client request.path).1) [] := by
  rw [removeFile]
  rcases scope.store.remove request.path client with
    ⟨error | orphans, after⟩
  · exact .of_status rfl rfl
  · exact .of_status rfl rfl

theorem reports_lockFile :
    Reports scope request
      (.ofResult request.path
        (scope.lockFile client request.path).1) [] := by
  rw [lockFile]
  rcases scope.store.lock request.path client with
    ⟨error | outcome, after⟩
  · exact .of_status rfl rfl
  · exact .of_status rfl rfl

theorem reports_unlockFile :
    Reports scope request
      (.ofResult request.path
        (scope.unlockFile client request.path).1) [] := by
  rw [unlockFile]
  rcases scope.store.unlock request.path client with
    ⟨error | done, after⟩
  · exact .of_status rfl rfl
  · exact .of_status rfl rfl

end Handlers

theorem reports_handle (client : ClientId) {request : Request} (scope : Scope)
    (checked : request.check scope.session = .ok ())
    (single : request.operation ≠ .readNFiles) :
    Reports scope request
      (.ofResult request.path (scope.handle client request).1)
      (scope.expelledBy client request) := by
  unfold expelledBy handle
  rw [checked]
  unfold Request.asks?
  cases code : request.operation with
  | openConnection =>
      dsimp only [openConnection]
      cases scope.session with
      | unopened => exact .of_session (by rw [code]; rfl) rfl nofun
      | active opened => exact .of_status rfl rfl
  | closeConnection =>
      exact .of_session (by rw [code]; rfl) rfl fun _ => code
  | openFile =>
      dsimp only [openFile]
      cases request.flags with
      | error error => exact .of_status rfl rfl
      | ok flags =>
          dsimp only
          by_cases creates : flags.create = true
          · rw [if_pos creates, if_pos creates]
            exact reports_createFile scope request client flags.lock
          · rw [if_neg creates, if_neg creates]
            exact reports_openExisting scope request client flags.lock
  | closeFile => exact .of_status rfl rfl
  | writeFile => exact reports_writeFile scope request client
  | readFile => exact reports_readFile scope request client
  | readNFiles => exact absurd code single
  | removeFile => exact reports_removeFile scope request client
  | lockFile => exact reports_lockFile scope request client
  | unlockFile => exact reports_unlockFile scope request client

/-- Every request but the one for many files is answered by the files that it
expelled and one final response. -/
theorem reports_dispatch (client : ClientId) {request : Request}
    (scope : Scope) (single : request.operation ≠ .readNFiles) :
    ∃ final, Reported scope request (scope.dispatch client request).1
        (scope.expelledBy client request) final ∧
      final.status ≠ .filesExpelled := by
  have reports : Reports scope request (scope.dispatch client request).1
      (scope.expelledBy client request) := by
    cases checked : request.check scope.session with
    | error error =>
        simp only [dispatch, expelledBy, checked]
        exact .of_status rfl rfl
    | ok _ =>
        rw [dispatch_of_checked checked]
        exact reports_handle client scope checked single
  obtain ⟨final, reported⟩ := reports
  have last : (scope.dispatch client request).1.responses.getLast? =
      some final := by
    rw [reported.responses, List.getLast?_concat]
  refine ⟨final, reported, ?_⟩
  cases settles_dispatch client request scope with
  | refused error refusal answer same =>
      rw [answer] at last
      obtain rfl := Option.some.inj last
      exact (Status.isRefusal_spec refusal).2.2.1
  | met expelled met single success answer locked =>
      rw [answer, List.getLast?_concat] at last
      obtain rfl := Option.some.inj last
      simp [success]
  | listed files many => exact absurd many single
  | queued wants answer =>
      rw [answer, List.getLast?_singleton] at last
      obtain rfl := Option.some.inj last
      simp

/-- Only a request to close in an open session ends the connection. -/
theorem close_dispatch (client : ClientId) (request : Request)
    (scope : Scope) :
    (scope.dispatch client request).1.close = true ↔
      request.operation = .closeConnection ∧
        scope.session.isActive = true := by
  cases checked : request.check scope.session with
  | error error =>
      simp only [dispatch, checked, Reply.ofError, Bool.false_eq_true,
        false_iff]
      rintro ⟨closing, active⟩
      simp [Request.check, closing, active, OpCode.targetsFile] at checked
  | ok _ =>
      rw [dispatch_of_checked checked]
      constructor
      · intro closes
        have closing : request.operation = .closeConnection := by
          by_cases many : request.operation = .readNFiles
          · simp only [handle, many, readNFiles] at closes
            cases read : request.count <;> rw [read] at closes <;> cases closes
          · obtain ⟨final, reported⟩ :=
              reports_handle client scope checked many
            exact reported.closes closes
        exact ⟨closing, isActive_of_checked checked (by simp [closing])⟩
      · rintro ⟨closing, -⟩
        simp [handle, closing, closeConnection, Reply.ofResult]

end Scope

end FileDepot
