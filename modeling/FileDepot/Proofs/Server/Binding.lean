import FileDepot.Proofs.Files.FileCalls
import FileDepot.Server

/-!
# What binding and dropping a server do to the files

Binding takes the lock file, then takes away whatever file is at the socket
path, then puts a socket there.  Nothing but the name at the socket path is
ever taken away, and a bind that fails gives its lock back.
-/

namespace FileDepot

open FileSystem (Keeps KeepsAll)

namespace FileSystem

variable {system : FileSystem} {path : String}

/-- What is left after an attempt to remove a file. -/
def without (system : FileSystem) (path : String) : FileSystem :=
  match system.removeFile path with
  | .ok removed => removed
  | .error _ => system

/-- A path stands for a name in a directory, whether there is a file or
not. -/
def At (system : FileSystem) (path : String) (directory : NodeId)
    (name : String) : Prop :=
  system.locate path = .ok (.entry directory name false)

theorem entry?_bindSocket_ne {after : FileSystem} {directory node : NodeId}
    {name : String} (numbered : system.Numbered)
    (here : system.At path directory name)
    (free : system.entry? directory name = .ok none)
    (file : (system.content? node).isSome = true)
    (success : system.bindSocket path = .ok after) :
    after.entry? directory name ≠ .ok (some node) := by
  obtain ⟨-, rfl⟩ | ⟨place, other, located, -, rfl⟩ := bindSocket_cases success
  · rw [free]
    exact nofun
  · rw [here] at located
    cases located
    obtain ⟨content, present⟩ := content?_isSome_iff.mp file
    have older := numbered.lt_next present
    rw [entry?_addNode numbered free]
    intro same
    cases same
    exact Nat.lt_irrefl _ older

theorem without_of_names {directory node : NodeId} {name : String}
    (names : system.Names path directory name node)
    (file : system.isDirectoryNode node = false) :
    system.without path =
      system.changeEntries directory fun entries => entries.erase name := by
  have removed := removeFile_eq_ok_iff.mpr
    ⟨directory, name, node, names, file, rfl⟩
  rw [without, removed]

theorem keeps_without (system : FileSystem) (path : String) :
    Keeps (system.At path) system (system.without path) := by
  rw [without]
  cases removed : system.removeFile path with
  | error fault => exact .refl _ system
  | ok after =>
      obtain ⟨directory, name, node, names, file, rfl⟩ :=
        removeFile_eq_ok_iff.mp removed
      refine (keeps_eraseName names.found file).mono ?_
      rintro _ _ ⟨rfl, rfl⟩
      exact names.located

@[simp] theorem locked_without (system : FileSystem) (path : String) :
    (system.without path).locked = system.locked := by
  rw [without]
  cases removed : system.removeFile path with
  | error fault => rfl
  | ok after =>
      obtain ⟨_, _, _, _, _, rfl⟩ := removeFile_eq_ok_iff.mp removed
      rfl

end FileSystem

namespace LockFile

variable {system after : FileSystem} {path : String} {process : Nat}

/-- A lock that is not taken leaves at most a new lock file behind. -/
theorem acquire_refused {fault : IoFault} (numbered : system.Numbered)
    (refused : acquire path process system = (.error fault, after)) :
    KeepsAll system after ∧ after.locked = system.locked := by
  rw [acquire] at refused
  cases success : system.openForWriting path with
  | error unopened =>
      rw [success] at refused
      cases refused
      exact ⟨.refl _ system, rfl⟩
  | ok answer =>
      obtain ⟨node, opened⟩ := answer
      obtain ⟨keeps, sameLocks, -, -⟩ :=
        FileSystem.openForWriting_opened numbered success
      simp only [success, FileSystem.lockNode] at refused
      by_cases held : node ∈ opened.locked
      · simp only [if_pos held, Prod.mk.injEq, Except.error.injEq] at refused
        exact refused.2 ▸ ⟨keeps, sameLocks⟩
      · simp [if_neg held] at refused

/-- A lock that is taken belongs to the file at the path, and nobody held it
before. -/
theorem acquire_taken {lock : LockFile} (numbered : system.Numbered)
    (taken : acquire path process system = (.ok lock, after)) :
    KeepsAll system after ∧ after.locked = lock.node :: system.locked ∧
      lock.node ∉ system.locked ∧
      (after.content? lock.node).isSome = true ∧
      ∃ directory name, after.Names path directory name lock.node := by
  rw [acquire] at taken
  cases success : system.openForWriting path with
  | error unopened => simp [success] at taken
  | ok answer =>
      obtain ⟨node, opened⟩ := answer
      obtain ⟨keeps, sameLocks, file, directory, name, names⟩ :=
        FileSystem.openForWriting_opened numbered success
      simp only [success, FileSystem.lockNode] at taken
      by_cases held : node ∈ opened.locked
      · simp [if_pos held] at taken
      · simp only [if_neg held, Prod.mk.injEq, Except.ok.injEq] at taken
        obtain ⟨rfl, rfl⟩ := taken
        have locking :=
          FileSystem.keepsAll_locked opened (node :: opened.locked)
        have writing := FileSystem.keepsAll_setContent (contentOf process)
          (locking.files node file)
        have both := locking.trans writing
        refine ⟨keeps.trans both, ?_, sameLocks ▸ held,
          both.files node file, directory, name, names.kept both id⟩
        rw [← sameLocks]
        rfl

/-- Giving up a socket path takes no name but the one at the path. -/
theorem keeps_vacate (lock : LockFile) (system : FileSystem) (path : String) :
    Keeps (system.At path) system (lock.release (system.without path)) :=
  (FileSystem.keeps_without system path).trans
    ((FileSystem.keepsAll_locked (system.without path)
      ((system.without path).locked.erase lock.node)).keeps _)

theorem locked_vacate (lock : LockFile) (system : FileSystem) (path : String) :
    (lock.release (system.without path)).locked =
      system.locked.erase lock.node := by
  simp [release, FileSystem.unlockNode]

end LockFile

namespace BoundServer

open LockFile (pathFor)

variable {settings : Settings} {process : Nat} {system : FileSystem}

/-- The settings can be served, and the lock of their socket path can be
taken. -/
def Admits (settings : Settings) (process : Nat) (system : FileSystem) : Prop :=
  settings.validate.isOk = true ∧
    (LockFile.acquire (pathFor settings.socketPath) process system).1.isOk =
      true

/-- Everything that a bind can come to. -/
inductive Binding (settings : Settings) (process : Nat)
    (system : FileSystem) : Except Error BoundServer → FileSystem → Prop
  | refused {error : Error} {after : FileSystem}
      (closed : ¬ Admits settings process system)
      (keeps : KeepsAll system after)
      (sameLocks : after.locked = system.locked) :
      Binding settings process system (.error error) after
  | failed {error : Error} {lock : LockFile} {locked : FileSystem}
      (admitted : Admits settings process system)
      (taken : LockFile.acquire (pathFor settings.socketPath) process system =
        (.ok lock, locked)) :
      Binding settings process system (.error error)
        (lock.release (locked.without settings.socketPath))
  | bound {lock : LockFile} {locked after : FileSystem}
      (admitted : Admits settings process system)
      (taken : LockFile.acquire (pathFor settings.socketPath) process system =
        (.ok lock, locked))
      (socket : (locked.without settings.socketPath).bindSocket
        settings.socketPath = .ok after) :
      Binding settings process system (.ok { settings, lock }) after

theorem clearStale_cases (path : String) (system : FileSystem) :
    clearStale path system = .ok (system.without path) ∨
      system.without path = system ∧
        ∃ fault, clearStale path system = .error fault := by
  rw [clearStale, FileSystem.without]
  cases system.removeFile path with
  | ok removed => exact .inl rfl
  | error fault =>
      by_cases absent : fault.kind = .notFound
      · exact .inl (if_pos absent)
      · exact .inr ⟨rfl, fault, if_neg absent⟩

theorem bind_cases (settings : Settings) (process : Nat)
    (numbered : system.Numbered) :
    Binding settings process system (bind settings process system).1
      (bind settings process system).2 := by
  rw [bind]
  cases valid : settings.validate with
  | error error =>
      refine .refused ?_ (.refl _ system) rfl
      rintro ⟨passed, -⟩
      rw [valid] at passed
      cases passed
  | ok _ =>
      cases answer : LockFile.acquire (pathFor settings.socketPath) process
          system with
      | mk result locked =>
          cases result with
          | error fault =>
              obtain ⟨keeps, sameLocks⟩ :=
                LockFile.acquire_refused numbered answer
              refine .refused ?_ keeps sameLocks
              rintro ⟨-, passed⟩
              rw [answer] at passed
              cases passed
          | ok lock =>
              have admitted : Admits settings process system := by
                rw [Admits, valid, answer]
                exact ⟨rfl, rfl⟩
              obtain cleared | ⟨same, fault, stuck⟩ :=
                clearStale_cases settings.socketPath locked
              · simp only [cleared]
                cases socket : (locked.without settings.socketPath).bindSocket
                    settings.socketPath with
                | error fault => exact .failed admitted answer
                | ok after => exact .bound admitted answer socket
              · simp only [stuck]
                rw [← same]
                exact .failed admitted answer

theorem drop_eq (server : BoundServer) (system : FileSystem) :
    server.drop system =
      server.lock.release (system.without server.settings.socketPath) := by
  rw [drop, FileSystem.without]
  cases system.removeFile server.settings.socketPath <;> rfl

end BoundServer

end FileDepot
