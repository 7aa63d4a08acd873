import FileDepot.Dispatch
import FileDepot.Proofs.Store.HiddenContent
import FileDepot.Proofs.Store.Operations

/-!
# Replies that tell nothing of locked content

A client gets the same replies in two states of the server that differ in
nothing but the bytes of files that somebody else has locked, however many
requests it makes and whatever it asks for.
-/

namespace FileDepot

namespace Scope

/-- Two states of the server that differ, for a client, in nothing but the
bytes of files that somebody else has locked. -/
structure SameFor (client : ClientId) (first second : Scope) : Prop where
  session : first.session = second.session
  registry : first.registry = second.registry
  store : first.store.SameFor client second.store

/-- Serving gave the same answer in two states, and left nothing that the
client may see different. -/
structure SameOutcome {Answer : Type} (client : ClientId)
    (first second : Answer × Scope) : Prop where
  answer : first.1 = second.1
  scope : SameFor client first.2 second.2

theorem SameOutcome.split {Answer : Type} {client : ClientId}
    {first second : Answer × Scope} (same : SameOutcome client first second) :
    ∃ answer one other, first = (answer, one) ∧ second = (answer, other) ∧
      SameFor client one other :=
  ⟨first.1, first.2, second.2, rfl, by rw [same.answer], same.scope⟩

/-- Serves requests of one client, one after the other. -/
def dispatchAll (client : ClientId) :
    List Request → Scope → List Reply × Scope
  | [], scope => ([], scope)
  | request :: later, scope =>
      let (reply, next) := scope.dispatch client request
      let (replies, after) := dispatchAll client later next
      (reply :: replies, after)

namespace SameFor

variable {client : ClientId} {first second : Scope}
  (same : SameFor client first second)

include same

theorem answer {Answer : Type} (answer : Answer) :
    SameOutcome client (answer, first) (answer, second) :=
  ⟨rfl, same⟩

section Handlers

theorem openConnection :
    SameOutcome client (first.openConnection client)
      (second.openConnection client) := by
  unfold Scope.openConnection
  rw [← same.session, ← same.registry]
  split
  · exact same.answer _
  · exact ⟨rfl, rfl, rfl, same.store⟩

variable (path : String)

theorem createFile (lock : Bool) :
    SameOutcome client (first.createFile client path lock)
      (second.createFile client path lock) := by
  obtain ⟨outcome, after, alsoAfter, here, there, stores⟩ :=
    (same.store.create path lock).split
  unfold Scope.createFile
  rw [here, there]
  cases outcome with
  | error error => exact ⟨rfl, same.session, same.registry, stores⟩
  | ok evicted =>
      exact ⟨rfl, congrArg (Session.markOpen · path) same.session,
        same.registry, stores⟩

theorem openExisting (lock : Bool) :
    SameOutcome client (first.openExisting client path lock)
      (second.openExisting client path lock) := by
  obtain ⟨outcome, after, alsoAfter, here, there, stores⟩ :=
    (same.store.open path lock).split
  unfold Scope.openExisting
  rw [here, there]
  cases outcome with
  | error error => exact ⟨rfl, same.session, same.registry, stores⟩
  | ok outcome =>
      exact ⟨rfl, congrArg (Session.markOpen · path) same.session,
        same.registry, stores⟩

theorem openFile (request : Request) :
    SameOutcome client (first.openFile client request)
      (second.openFile client request) := by
  unfold Scope.openFile
  split
  · exact same.answer _
  · split
    · exact same.createFile request.path _
    · exact same.openExisting request.path _

theorem closeFile :
    SameOutcome client (first.closeFile client path)
      (second.closeFile client path) := by
  obtain ⟨held, after, alsoAfter, here, there, stores⟩ :=
    (same.store.close path).split
  unfold Scope.closeFile
  rw [here, there]
  exact ⟨rfl, congrArg (Session.markClosed · path) same.session,
    same.registry, stores⟩

theorem writeFile (content : Bytes) :
    SameOutcome client (first.writeFile client path content)
      (second.writeFile client path content) := by
  obtain ⟨outcome, after, alsoAfter, here, there, stores⟩ :=
    (same.store.write path content).split
  unfold Scope.writeFile
  rw [here, there]
  cases outcome <;> exact ⟨rfl, same.session, same.registry, stores⟩

theorem readFile :
    SameOutcome client (first.readFile client path)
      (second.readFile client path) := by
  unfold Scope.readFile
  rw [same.store.read_eq]
  cases first.store.read path client <;> exact same.answer _

theorem readNFiles (request : Request) :
    SameOutcome client (first.readNFiles client request)
      (second.readNFiles client request) := by
  unfold Scope.readNFiles
  simp only [same.store.readMany_eq]
  cases request.count <;> exact same.answer _

theorem removeFile :
    SameOutcome client (first.removeFile client path)
      (second.removeFile client path) := by
  obtain ⟨outcome, after, alsoAfter, here, there, stores⟩ :=
    (same.store.remove path).split
  unfold Scope.removeFile
  rw [here, there]
  cases outcome with
  | error error => exact ⟨rfl, same.session, same.registry, stores⟩
  | ok orphans =>
      exact ⟨rfl, congrArg (Session.markClosed · path) same.session,
        same.registry, stores⟩

theorem lockFile :
    SameOutcome client (first.lockFile client path)
      (second.lockFile client path) := by
  obtain ⟨outcome, after, alsoAfter, here, there, stores⟩ :=
    (same.store.lock path).split
  unfold Scope.lockFile
  rw [here, there]
  cases outcome <;> exact ⟨rfl, same.session, same.registry, stores⟩

theorem unlockFile :
    SameOutcome client (first.unlockFile client path)
      (second.unlockFile client path) := by
  obtain ⟨outcome, after, alsoAfter, here, there, stores⟩ :=
    (same.store.unlock path).split
  unfold Scope.unlockFile
  rw [here, there]
  cases outcome <;> exact ⟨rfl, same.session, same.registry, stores⟩

end Handlers

theorem handle (request : Request) :
    SameOutcome client (first.handle client request)
      (second.handle client request) := by
  unfold Scope.handle
  cases request.operation with
  | openConnection => exact same.openConnection
  | closeConnection => exact same.answer _
  | openFile => exact same.openFile request
  | closeFile => exact same.closeFile request.path
  | writeFile => exact same.writeFile request.path request.body
  | readFile => exact same.readFile request.path
  | readNFiles => exact same.readNFiles request
  | removeFile => exact same.removeFile request.path
  | lockFile => exact same.lockFile request.path
  | unlockFile => exact same.unlockFile request.path

theorem dispatch (request : Request) :
    SameOutcome client (first.dispatch client request)
      (second.dispatch client request) := by
  have handled := same.handle request
  unfold Scope.dispatch
  rw [← same.session]
  split
  · exact same.answer _
  · obtain ⟨outcome, after, alsoAfter, here, there, scopes⟩ := handled.split
    rw [here, there]
    cases outcome <;> exact ⟨rfl, scopes⟩

end SameFor

/-- Content that somebody else has locked cannot be observed: a client that
makes any requests gets the same replies, and has the same session, whatever
the bytes of such content are; and afterwards the stores differ only in bytes
of files that somebody else has locked. -/
theorem locked_content_stays_hidden {client : ClientId}
    {first second : Scope} (same : SameFor client first second)
    (requests : List Request) :
    (first.dispatchAll client requests).1 =
        (second.dispatchAll client requests).1 ∧
      SameFor client (first.dispatchAll client requests).2
        (second.dispatchAll client requests).2 := by
  induction requests generalizing first second with
  | nil => exact ⟨rfl, same⟩
  | cons request later ih =>
      obtain ⟨reply, next, alsoNext, here, there, scopes⟩ :=
        (same.dispatch request).split
      obtain ⟨replies, after⟩ := ih scopes
      simp only [dispatchAll, here, there]
      exact ⟨congrArg (reply :: ·) replies, after⟩

/-- A store of two files that the first client has filled, one of them under
its lock. -/
def filed (secret : Bytes) : Store :=
  Store.run
    [.create "safe" 1 true, .write "safe" 1 secret, .create "note" 1 true,
      .write "note" 1 [110], .unlock "note" 1]
    (.new { maxFiles := 2, maxBytes := 4 })

/-- What the second client asks when it connects: it tries to read, to lock
and to expel what is there. -/
def curiosity : List Request :=
  [{ operation := .openConnection }, .openFile "safe" {},
    { operation := .readFile, path := "safe" },
    { operation := .lockFile, path := "safe" }, .readNFiles 0,
    .openFile "mine" { create := true, lock := true },
    { operation := .writeFile, path := "mine", body := [1, 2, 3] }]

/-- The second client gets at the unlocked file, and learns nothing of the
locked one. -/
theorem locked_safe_stays_hidden :
    SameFor 2 ⟨.unopened, filed [1, 2, 3], {}⟩
        ⟨.unopened, filed [7, 8, 9], {}⟩ ∧
      (dispatchAll 2 curiosity ⟨.unopened, filed [1, 2, 3], {}⟩).1 =
        (dispatchAll 2 curiosity ⟨.unopened, filed [7, 8, 9], {}⟩).1 ∧
      (dispatchAll 2 curiosity ⟨.unopened, filed [7, 8, 9], {}⟩).1.map
          Reply.responses =
        [[{ status := .success }], [{ status := .success, path := "safe" }],
          [{ status := .unauthorized, path := "safe" }],
          [{ status := .lockPending, path := "safe" }],
          [{ status := .success, path := "note", body := [110] },
            { status := .success }],
          [{ status := .filesExpelled, path := "note", body := [110] },
            { status := .success, path := "mine" }],
          [{ status := .fileTooBig, path := "mine" }]] := by
  have differs (secret : Bytes) (long : secret.length = 3) :
      StoredFile.SameFor 2
        { content := [1, 2, 3], unwritten := false, owner := some 1 }
        { content := secret, unwritten := false, owner := some 1 } :=
    ⟨rfl, rfl, rfl, long.symm, fun visible => by cases visible⟩
  have same : SameFor 2 ⟨.unopened, filed [1, 2, 3], {}⟩
      ⟨.unopened, filed [7, 8, 9], {}⟩ := by
    have hidden : ((filed [1, 2, 3]).update "safe" _).SameFor 2
        ((filed [1, 2, 3]).update "safe" _) :=
      (Store.SameFor.refl 2 (filed [1, 2, 3])).update (differs [7, 8, 9] rfl)
    exact ⟨rfl, rfl, hidden⟩
  exact ⟨same, (locked_content_stays_hidden same curiosity).1,
    by decide +kernel⟩

end Scope

end FileDepot
