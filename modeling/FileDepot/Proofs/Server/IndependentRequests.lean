import FileDepot.Desk
import FileDepot.Proofs.Clients.Calls
import FileDepot.Proofs.Server.SessionGate
import FileDepot.Proofs.Store.SingleFiles

/-!
# Requests that do not get in each other's way

A request that closes, reads, locks, unlocks, removes or merely opens a file
depends on nothing but the session of its client and the file at its path, and
changes nothing else.  So workers may serve such requests of different clients
for different files in either order: the replies are the same, and so is
everything that they leave.
-/

namespace FileDepot

/-- What comes of a request for one file: a result, the session of its client
and what becomes of the file. -/
structure FileOutcome where
  result : Except Error Reply
  session : Session
  edit : FileEdit := .keep

/-- What a request for one file comes to, given the session of its client and
the file, if there is one. -/
abbrev FileEffect := Session → Option StoredFile → FileOutcome

namespace FileEffect

variable (client : ClientId) (path : String)

def «open» (lock : Bool) : FileEffect
  | session, none => { result := .error (.notFound path), session }
  | session, some file =>
      if lock then
        { result := .ok (.ofStatus (file.lock client).1.status path)
          session := session.markOpen path
          edit := .replace (file.lock client).2 }
      else
        { result := .ok (.ofStatus .success path)
          session := session.markOpen path }

def close : FileEffect
  | session, none =>
      { result := .ok (.ofStatus .success path)
        session := session.markClosed path }
  | session, some file =>
      { result := .ok { Reply.ofStatus .success path with
          released := file.owner = some client }
        session := session.markClosed path
        edit := .replace ((file.withdraw client).release client) }

def read : FileEffect
  | session, none => { result := .error (.notFound path), session }
  | session, some file =>
      if file.lockedByOther client then
        { result := .error (.lockedByOther path), session }
      else
        { result := .ok
            { responses := [{ status := .success, path, body := file.content }] }
          session }

def remove : FileEffect
  | session, none => { result := .error (.notFound path), session }
  | session, some file =>
      if file.owner = some client then
        { result := .ok { Reply.ofStatus .success path with
            orphans := Store.orphansOf path file }
          session := session.markClosed path
          edit := .drop }
      else
        { result := .error (.notLockOwner path), session }

def lock : FileEffect
  | session, none => { result := .error (.notFound path), session }
  | session, some file =>
      { result := .ok (.ofStatus (file.lock client).1.status path)
        session
        edit := .replace (file.lock client).2 }

def unlock : FileEffect
  | session, none => { result := .error (.notFound path), session }
  | session, some file =>
      if file.owner = some client then
        { result := .ok { Reply.ofStatus .success path with released := true }
          session
          edit := .replace (file.release client) }
      else
        { result := .error (.notLockOwner path), session }

/-- A request that is turned down does nothing. -/
def checked (request : Request) (effect : FileEffect) : FileEffect :=
  fun session file? =>
    match request.check session with
    | .error error => { result := .error error, session }
    | .ok _ => effect session file?

end FileEffect

namespace Scope

/-- What becomes of everything, if the outcome for the file at a path is
this. -/
def settle (scope : Scope) (path : String) (outcome : FileOutcome) : Scope :=
  { scope with
    session := outcome.session
    store := scope.store.edit path outcome.edit }

/-- Serving depends on the session and on the file at a path alone, and
changes no more than these. -/
def OnlyAt (path : String) (serve : Scope → Except Error Reply × Scope) :
    Prop :=
  ∃ effect : FileEffect, ∀ scope,
    let outcome := effect scope.session (scope.store.file? path)
    serve scope = (outcome.result, scope.settle path outcome)

section Handlers

variable (client : ClientId) (path : String)

theorem onlyAt_openExisting (lock : Bool) :
    OnlyAt path (openExisting client path lock) := by
  refine ⟨.open client path lock, fun scope => ?_⟩
  unfold openExisting Store.open
  cases scope.store.file? path with
  | none => rfl
  | some file => cases lock <;> rfl

theorem onlyAt_closeFile : OnlyAt path (closeFile client path) := by
  refine ⟨.close client path, fun scope => ?_⟩
  unfold closeFile Store.close
  cases scope.store.file? path <;> rfl

theorem onlyAt_readFile : OnlyAt path (readFile client path) := by
  refine ⟨.read client path, fun scope => ?_⟩
  unfold readFile Store.read
  cases scope.store.file? path with
  | none => rfl
  | some file =>
      cases locked : file.lockedByOther client <;>
        simp [FileEffect.read, settle, Store.edit, locked]

theorem onlyAt_removeFile : OnlyAt path (removeFile client path) := by
  refine ⟨.remove client path, fun scope => ?_⟩
  unfold removeFile Store.remove
  cases found : scope.store.file? path with
  | none => rfl
  | some file =>
      by_cases held : file.owner = some client <;>
        simp [FileEffect.remove, settle, Store.edit, Store.take, found, held]

theorem onlyAt_lockFile : OnlyAt path (lockFile client path) := by
  refine ⟨.lock client path, fun scope => ?_⟩
  unfold lockFile Store.lock
  cases scope.store.file? path <;> rfl

theorem onlyAt_unlockFile : OnlyAt path (unlockFile client path) := by
  refine ⟨.unlock client path, fun scope => ?_⟩
  unfold unlockFile Store.unlock
  cases scope.store.file? path with
  | none => rfl
  | some file =>
      by_cases held : file.owner = some client <;>
        simp [FileEffect.unlock, settle, Store.edit, held]

/-- Failing is no exception: the error depends on nothing but the request. -/
theorem onlyAt_error (error : Error) :
    OnlyAt path fun scope => (.error error, scope) :=
  ⟨fun session _ => { result := .error error, session }, fun _ => rfl⟩

end Handlers

end Scope

/-- A request for one file that neither creates nor writes it. -/
def Request.staysWithFile (request : Request) : Prop :=
  request.operation ∈ [OpCode.closeFile, .readFile, .lockFile, .unlockFile,
      .removeFile] ∨
    request.operation = .openFile ∧
      ∀ flags, request.flags = .ok flags → flags.create = false

theorem Request.staysWithFile_openFile (path : String) {flags : OpenFlags}
    (uncreated : flags.create = false) :
    (Request.openFile path flags).staysWithFile := by
  refine Or.inr ⟨rfl, fun others read => ?_⟩
  rw [flags_openFile, Except.ok.injEq] at read
  rw [← read, uncreated]

namespace Scope

section Dispatching

variable {request : Request} (stays : request.staysWithFile)
  (client : ClientId)

include stays

theorem onlyAt_handle : OnlyAt request.path (handle client request) := by
  unfold handle
  rcases stays with among | ⟨opens, uncreated⟩
  · cases code : request.operation with
    | closeFile => exact onlyAt_closeFile client request.path
    | readFile => exact onlyAt_readFile client request.path
    | lockFile => exact onlyAt_lockFile client request.path
    | unlockFile => exact onlyAt_unlockFile client request.path
    | removeFile => exact onlyAt_removeFile client request.path
    | _ => simp [code] at among
  · rw [opens]
    unfold openFile
    dsimp only
    cases read : request.flags with
    | error error => exact onlyAt_error request.path error
    | ok flags =>
        simp only [uncreated flags read, Bool.false_eq_true, if_false]
        exact onlyAt_openExisting client request.path flags.lock

/-- The check of a request looks at nothing but the session. -/
theorem dispatch_eq_settle :
    ∃ effect : FileEffect, ∀ scope : Scope,
      let outcome := effect scope.session (scope.store.file? request.path)
      scope.dispatch client request =
        (.ofResult request.path outcome.result,
          scope.settle request.path outcome) := by
  obtain ⟨effect, handles⟩ := onlyAt_handle stays client
  refine ⟨effect.checked request, fun scope => ?_⟩
  cases checked : request.check scope.session with
  | error error =>
      simp only [dispatch, FileEffect.checked, checked]
      rfl
  | ok _ =>
      rw [dispatch_of_checked checked, handles]
      simp only [FileEffect.checked, checked]

end Dispatching

end Scope

namespace Desk

/-- What comes of a request for the file at a path. -/
def outcome (desk : Desk) (client : ClientId) (path : String)
    (effect : FileEffect) : FileOutcome :=
  effect (desk.sessionOf client) (desk.hub.store.file? path)

def settle (desk : Desk) (client : ClientId) (path : String)
    (outcome : FileOutcome) : Desk where
  hub := { desk.hub with store := desk.hub.store.edit path outcome.edit }
  sessions := desk.sessions.insert client outcome.session

theorem answer_eq_settle {request : Request} (stays : request.staysWithFile)
    (client : ClientId) :
    ∃ effect : FileEffect, ∀ desk : Desk,
      let outcome := desk.outcome client request.path effect
      desk.answer client request =
        (.ofResult request.path outcome.result,
          desk.settle client request.path outcome) := by
  obtain ⟨effect, dispatches⟩ := Scope.dispatch_eq_settle stays client
  refine ⟨effect, fun desk => ?_⟩
  rw [answer_eq, dispatches]
  rfl

section Apart

variable (desk : Desk) {first second : ClientId} (distinct : first ≠ second)
  {path other : String} (apart : path ≠ other)

include distinct apart

/-- Another client with another file meets with what it would have met with
before. -/
theorem outcome_settle (settled : FileOutcome) (effect : FileEffect) :
    (desk.settle first path settled).outcome second other effect =
      desk.outcome second other effect := by
  have session : (desk.settle first path settled).sessionOf second =
      desk.sessionOf second := by
    simp only [sessionOf, session?, settle, Index.find?_insert,
      if_neg distinct.symm]
  have file : (desk.settle first path settled).hub.store.file? other =
      desk.hub.store.file? other :=
    Store.file?_edit_of_ne apart.symm settled.edit
  rw [outcome, outcome, session, file]

omit distinct in
theorem hub_settle_settle (settled further : FileOutcome) :
    ((desk.settle first path settled).settle second other further).hub =
      ((desk.settle second other further).settle first path settled).hub := by
  simp only [settle,
    Store.edit_edit_comm apart.symm settled.edit further.edit]

omit apart in
theorem session?_settle_settle (settled further : FileOutcome)
    (client : ClientId) :
    ((desk.settle first path settled).settle second other
        further).session? client =
      ((desk.settle second other further).settle first path
        settled).session? client := by
  simp only [session?, settle, Index.find?_insert]
  by_cases own : client = first
  · simp [own, distinct]
  · simp [own]

end Apart

/-- Two clients ask, each for a file of its own and neither to create or to
write it.  Whoever is served first, each gets the same reply, and afterwards
everything is the same: the store with its order, counters and statistics, the
registry, the outboxes, the trigger, and the session of every client. -/
theorem requests_for_different_files_commute (desk : Desk)
    {first second : ClientId} (distinct : first ≠ second)
    {one other : Request} (apart : one.path ≠ other.path)
    (oneStays : one.staysWithFile) (otherStays : other.staysWithFile) :
    let ahead := desk.answer first one
    let thenOther := ahead.2.answer second other
    let instead := desk.answer second other
    let thenOne := instead.2.answer first one
    ahead.1 = thenOne.1 ∧ instead.1 = thenOther.1 ∧
      thenOther.2.hub = thenOne.2.hub ∧
      ∀ client, thenOther.2.session? client = thenOne.2.session? client := by
  intro ahead thenOther instead thenOne
  obtain ⟨effect, answersOne⟩ := answer_eq_settle oneStays first
  obtain ⟨otherEffect, answersOther⟩ := answer_eq_settle otherStays second
  have oneStill :=
    desk.outcome_settle distinct.symm apart.symm
      (desk.outcome second other.path otherEffect) effect
  have otherStill :=
    desk.outcome_settle distinct apart (desk.outcome first one.path effect)
      otherEffect
  simp only [ahead, thenOther, instead, thenOne, answersOne, answersOther,
    oneStill, otherStill, true_and]
  exact ⟨desk.hub_settle_settle apart _ _,
    desk.session?_settle_settle distinct _ _⟩

/-- The first client owns a file that the second one waits for, and another
file is free. -/
def twoFiles : List (ClientId × Request) :=
  [(1, { operation := .openConnection }),
    (1, .openFile "a" { create := true, lock := true }),
    (1, .openFile "b" { create := true }),
    (2, { operation := .openConnection }),
    (2, .openFile "a" { lock := true })]

/-- The first client removes its file, of which the second one has to be told,
and the second one opens and locks the other file. -/
theorem removal_and_opening_commute :
    let desk := ({ hub := .new {} } : Desk).run twoFiles
    let removal : Request := { operation := .removeFile, path := "a" }
    let opening := Request.openFile "b" { lock := true }
    let thenOpening := (desk.answer 1 removal).2.answer 2 opening
    let thenRemoval := (desk.answer 2 opening).2.answer 1 removal
    (1 : ClientId) ≠ 2 ∧ removal.path ≠ opening.path ∧
      removal.staysWithFile ∧ opening.staysWithFile ∧
      thenRemoval.1 =
        { Reply.ofStatus .success "a" with orphans := [⟨2, "a"⟩] } ∧
      thenOpening.1 = .ofStatus .success "b" ∧
      (desk.answer 1 removal).1 = thenRemoval.1 ∧
      (desk.answer 2 opening).1 = thenOpening.1 ∧
      thenOpening.2.hub = thenRemoval.2.hub ∧
      thenRemoval.2.hub.store.paths = ["b"] := by
  intro desk removal opening thenOpening thenRemoval
  have distinct : (1 : ClientId) ≠ 2 := by decide
  have apart : removal.path ≠ opening.path := by decide
  have removalStays : removal.staysWithFile := Or.inl (by decide)
  have openingStays : opening.staysWithFile :=
    Request.staysWithFile_openFile "b" rfl
  obtain ⟨removed, opened, hubs, -⟩ := requests_for_different_files_commute
    desk distinct apart removalStays openingStays
  exact ⟨distinct, apart, removalStays, openingStays, by decide +kernel,
    by decide +kernel, removed, opened, hubs, by decide +kernel⟩

end Desk

end FileDepot
