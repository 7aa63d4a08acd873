import FileDepot.Proofs.Server.Binding

/-!
# Servers that share a file system

Servers are bound to socket paths and dropped again, in any order.  A server
should keep its socket path to itself, and its socket file and its lock file
should stay what they are for as long as it lives.

The lock file of a socket path is an ordinary name beside it, so it can be the
socket path of a second server, which then takes it for a stale socket.  Every
other bind and every drop leaves the live servers alone.
-/

namespace FileDepot

open BoundServer (Admits)
open FileSystem (Keeps KeepsAll)
open LockFile (pathFor)

/-- A server that is bound, with the file that its socket path named when it
was bound. -/
structure Tenant where
  server : BoundServer
  socketFile : Option NodeId
  deriving DecidableEq

namespace Tenant

def socketPath (tenant : Tenant) : String :=
  tenant.server.settings.socketPath

def lockPath (tenant : Tenant) : String :=
  pathFor tenant.socketPath

def lockNode (tenant : Tenant) : NodeId :=
  tenant.server.lock.node

/-- The lock file and the socket file of a server are where they were put.  A
socket without a name has no file. -/
structure Intact (tenant : Tenant) (system : FileSystem) : Prop where
  lockFile : system.resolve tenant.lockPath = .ok tenant.lockNode
  socketFile : tenant.socketPath ≠ "" →
    ∃ node, tenant.socketFile = some node ∧
      system.resolve tenant.socketPath = .ok node

end Tenant

/-- A file system and the servers that are bound on it. -/
structure Premises where
  system : FileSystem
  live : List Tenant := []

namespace Premises

inductive Event
  | bind (settings : Settings) (process : Nat)
  | drop (position : Nat)

/-- A server that cannot be bound does not live. -/
def bind (premises : Premises) (settings : Settings) (process : Nat) :
    Premises :=
  match BoundServer.bind settings process premises.system with
  | (.error _, system) => { premises with system }
  | (.ok server, system) =>
      let socketFile := (system.resolve settings.socketPath).toOption
      { system, live := premises.live ++ [{ server, socketFile }] }

def drop (premises : Premises) (position : Nat) : Premises :=
  match premises.live[position]? with
  | none => premises
  | some tenant =>
      { system := tenant.server.drop premises.system
        live := premises.live.eraseIdx position }

def step (premises : Premises) : Event → Premises
  | .bind settings process => premises.bind settings process
  | .drop position => premises.drop position

def run (premises : Premises) (events : List Event) : Premises :=
  events.foldl step premises

/-- A file system on which no server is bound yet. -/
def vacant (system : FileSystem) : Premises where
  system := system

/-- No two servers share a socket path, and the files of each are its own. -/
structure Secure (premises : Premises) : Prop where
  apart : premises.live.Pairwise fun first second =>
    first.socketPath ≠ second.socketPath
  intact : ∀ tenant ∈ premises.live, tenant.Intact premises.system

/-- A bind that gets its own lock takes a socket path that stands for the lock
file of a live server. -/
def Trespasses (premises : Premises) (settings : Settings) (process : Nat) :
    Prop :=
  Admits settings process premises.system ∧
    ∃ tenant ∈ premises.live,
      premises.system.locate settings.socketPath =
        premises.system.locate tenant.lockPath

deriving instance DecidableEq for Except

instance (premises : Premises) (settings : Settings) (process : Nat) :
    Decidable (premises.Trespasses settings process) :=
  inferInstanceAs (Decidable ((_ ∧ _) ∧ ∃ tenant ∈ premises.live, _))

end Premises

/-! ### What holds of a live server -/

namespace Tenant

variable {tenant : Tenant} {before after system : FileSystem}

/-- The lock file of a server is a file whose lock is held, and its socket
file is a socket. -/
structure Settled (tenant : Tenant) (system : FileSystem) : Prop where
  lockPlace : ∃ directory name,
    system.Names tenant.lockPath directory name tenant.lockNode
  lockFile : (system.content? tenant.lockNode).isSome = true
  held : tenant.lockNode ∈ system.locked
  socketPlace : tenant.socketPath ≠ "" →
    ∃ directory name node, tenant.socketFile = some node ∧
      system.Names tenant.socketPath directory name node ∧
        system.node? node = some .socket

theorem Settled.intact (settled : tenant.Settled system) :
    tenant.Intact system where
  lockFile := by
    obtain ⟨directory, name, names⟩ := settled.lockPlace
    exact names.resolve
  socketFile named := by
    obtain ⟨directory, name, node, known, names, -⟩ := settled.socketPlace named
    exact ⟨node, known, names.resolve⟩

/-- A server stays settled while nobody takes the names of its files. -/
theorem Settled.kept {taken : NodeId → String → Prop}
    (settled : tenant.Settled before) (keeps : Keeps taken before after)
    (lockSpared : ∀ directory name,
      before.Names tenant.lockPath directory name tenant.lockNode →
        ¬ taken directory name)
    (socketSpared : ∀ directory name node,
      before.Names tenant.socketPath directory name node →
        ¬ taken directory name)
    (held : tenant.lockNode ∈ after.locked) : tenant.Settled after where
  lockPlace := by
    obtain ⟨directory, name, names⟩ := settled.lockPlace
    exact ⟨directory, name, names.kept keeps (lockSpared directory name names)⟩
  lockFile := keeps.files tenant.lockNode settled.lockFile
  held := held
  socketPlace named := by
    obtain ⟨directory, name, node, known, names, socket⟩ :=
      settled.socketPlace named
    exact ⟨directory, name, node, known,
      names.kept keeps (socketSpared directory name node names),
      keeps.sockets node socket⟩

theorem Settled.kept_all (settled : tenant.Settled before)
    (keeps : KeepsAll before after) (held : tenant.lockNode ∈ after.locked) :
    tenant.Settled after :=
  settled.kept keeps (fun _ _ _ => id) (fun _ _ _ _ => id) held

end Tenant

/-- What stands at the socket path of a server is its socket, not a file that
can be locked. -/
theorem Tenant.Settled.no_lockFile_at {tenant : Tenant} {system : FileSystem}
    {directory node : NodeId} {name : String}
    (settled : tenant.Settled system)
    (here : system.At tenant.socketPath directory name)
    (found : system.entry? directory name = .ok (some node))
    (file : (system.content? node).isSome = true) : False := by
  have named : tenant.socketPath ≠ "" := by
    intro unnamed
    have checked := (FileSystem.locate_eq_entry_iff.mp here).1
    rw [unnamed] at checked
    simp [PathName.check] at checked
  obtain ⟨_, _, socketNode, -, names, socket⟩ := settled.socketPlace named
  have same : node = socketNode := names.node_unique ⟨here, found⟩
  obtain ⟨content, regular⟩ := FileSystem.content?_isSome_iff.mp file
  rw [same, socket] at regular
  cases regular

/-- Socket paths that lead to one place have one lock file. -/
theorem FileSystem.Names.lockNode_eq {system : FileSystem}
    {first second : String} {directory : NodeId} {name : String}
    (firstAt : system.At first directory name)
    (secondAt : system.At second directory name)
    {place other : NodeId} {lockName otherName : String} {node child : NodeId}
    (firstLock : system.Names (pathFor first) place lockName node)
    (secondLock : system.Names (pathFor second) other otherName child) :
    node = child := by
  have firstChecked := (FileSystem.locate_eq_entry_iff.mp firstLock.located).1
  have secondChecked := (FileSystem.locate_eq_entry_iff.mp secondLock.located).1
  have shared : system.resolve (pathFor second) =
      system.resolve (pathFor first) := by
    rw [FileSystem.resolve, FileSystem.resolve,
      FileSystem.locate_pathFor firstAt firstChecked,
      FileSystem.locate_pathFor secondAt secondChecked]
  rw [firstLock.resolve, secondLock.resolve] at shared
  exact (Except.ok.inj shared).symm

/-- The lock file of a socket path is not at the place of the socket. -/
theorem FileSystem.Names.lock_elsewhere {system : FileSystem} {path : String}
    {directory node : NodeId} {name : String}
    (names : system.Names (pathFor path) directory name node) :
    ¬ system.At path directory name := by
  intro here
  have checked := (FileSystem.locate_eq_entry_iff.mp names.located).1
  have beside := FileSystem.locate_pathFor here checked
  rw [names.located] at beside
  have longer : name = name ++ ".lock" := by
    injection beside with beside
    injection beside
  have lengths := congrArg String.length longer
  rw [String.length_append] at lengths
  exact absurd lengths (by simp)

namespace Premises

variable {premises : Premises} {settings : Settings} {process : Nat}

/-- Every live server is settled, and each holds a lock of its own. -/
structure Sound (premises : Premises) : Prop where
  numbered : premises.system.Numbered
  settled : ∀ tenant ∈ premises.live, tenant.Settled premises.system
  apart : (premises.live.map Tenant.lockNode).Nodup

theorem Sound.secure (sound : premises.Sound) : premises.Secure where
  apart := by
    have apart := List.pairwise_map.mp sound.apart
    refine apart.imp_of_mem ?_
    intro first second firstLive secondLive differ same
    obtain ⟨_, _, firstNames⟩ := (sound.settled first firstLive).lockPlace
    obtain ⟨_, _, secondNames⟩ := (sound.settled second secondLive).lockPlace
    rw [Tenant.lockPath, same] at firstNames
    exact differ (secondNames.node_unique firstNames)
  intact tenant live := (sound.settled tenant live).intact

/-- Taking one more lock disturbs nobody. -/
theorem Sound.settled_locked {locked : FileSystem} {lock : LockFile}
    (sound : premises.Sound)
    (taken : LockFile.acquire (pathFor settings.socketPath) process
      premises.system = (.ok lock, locked))
    (tenant : Tenant) (live : tenant ∈ premises.live) :
    tenant.Settled locked := by
  obtain ⟨locking, locks, -⟩ := LockFile.acquire_taken sound.numbered taken
  have settled := sound.settled tenant live
  exact settled.kept_all locking (locks ▸ List.mem_cons_of_mem _ settled.held)

theorem sound_vacant {system : FileSystem} (numbered : system.Numbered) :
    (vacant system).Sound :=
  ⟨numbered, fun _ live => (List.not_mem_nil live).elim, List.nodup_nil⟩

/-- The live servers stay settled when a bind that gets its lock takes only a
name at which none of them has its lock file. -/
theorem Sound.settled_bind {after locked : FileSystem} {lock : LockFile}
    (sound : premises.Sound)
    (taken : LockFile.acquire (pathFor settings.socketPath) process
      premises.system = (.ok lock, locked))
    (keeps : Keeps (locked.At settings.socketPath) locked after)
    (held : ∀ node ∈ premises.system.locked, node ∈ after.locked)
    (alone : ∀ tenant ∈ premises.live,
      premises.system.locate settings.socketPath ≠
        premises.system.locate tenant.lockPath)
    (tenant : Tenant) (live : tenant ∈ premises.live) :
    tenant.Settled after := by
  obtain ⟨locking, -, unheld, -, _, _, lockNames⟩ :=
    LockFile.acquire_taken sound.numbered taken
  have free := (sound.settled tenant live).held
  have settled := sound.settled_locked taken tenant live
  refine settled.kept keeps ?_ ?_ (held _ free)
  · intro directory name names here
    -- The places are compared as they were before the lock was taken.
    have inside := FileSystem.isDirectoryNode_of_asked names.found
    have back := locking.directories.symm
    exact alone tenant live ((back.locate inside here).trans
      (back.locate inside names.located).symm)
  · intro directory name node names here
    -- Two servers at one place would share a lock, which was held already.
    obtain ⟨_, _, ownNames⟩ := settled.lockPlace
    have same := FileSystem.Names.lockNode_eq names.located here ownNames
      lockNames
    exact unheld (same ▸ free)

theorem settled_bound {lock : LockFile} {locked after : FileSystem}
    (numbered : locked.Numbered)
    (file : (locked.content? lock.node).isSome = true)
    (held : lock.node ∈ locked.locked) {directory : NodeId} {name : String}
    (names : locked.Names (pathFor settings.socketPath) directory name
      lock.node)
    (socket : (locked.without settings.socketPath).bindSocket
      settings.socketPath = .ok after) :
    Tenant.Settled
      { server := { settings, lock }
        socketFile := (after.resolve settings.socketPath).toOption } after := by
  have clearing := FileSystem.keeps_without locked settings.socketPath
  obtain ⟨putting, sameLocks, bound⟩ :=
    FileSystem.bindSocket_bound (clearing.numbered numbered) socket
  have keeps := clearing.trans (putting.keeps _)
  refine ⟨⟨directory, name, names.kept keeps names.lock_elsewhere⟩,
    keeps.files lock.node file, ?_, ?_⟩
  · rw [sameLocks, FileSystem.locked_without]
    exact held
  · intro named
    obtain ⟨place, last, node, bound, kind⟩ := bound named
    exact ⟨place, last, node, by rw [bound.resolve]; rfl, bound, kind⟩

/-- A bind that does not trespass keeps everything sound. -/
theorem Sound.bind (sound : premises.Sound)
    (peaceful : ¬ premises.Trespasses settings process) :
    (premises.bind settings process).Sound := by
  have binding := BoundServer.bind_cases settings process sound.numbered
  rw [Premises.bind]
  generalize BoundServer.bind settings process premises.system = outcome
    at binding
  obtain ⟨result, after⟩ := outcome
  cases binding with
  | refused closed keeps sameLocks =>
      refine ⟨keeps.numbered sound.numbered, fun tenant live => ?_, sound.apart⟩
      have settled := sound.settled tenant live
      exact settled.kept_all keeps (sameLocks ▸ settled.held)
  | @failed _ lock locked admitted taken =>
      -- The lock that is given up is the one that came last.
      have alone (tenant) (live : tenant ∈ premises.live) same :=
        peaceful ⟨admitted, tenant, live, same⟩
      obtain ⟨locking, locks, -⟩ := LockFile.acquire_taken sound.numbered taken
      have keeps := lock.keeps_vacate locked settings.socketPath
      have sameLocks : (lock.release
          (locked.without settings.socketPath)).locked =
            premises.system.locked := by
        rw [LockFile.locked_vacate, locks, List.erase_cons_head]
      exact ⟨keeps.numbered (locking.numbered sound.numbered),
        sound.settled_bind taken keeps (fun _ => sameLocks ▸ id) alone,
        sound.apart⟩
  | @bound lock locked _ admitted taken socket =>
      have alone (tenant) (live : tenant ∈ premises.live) same :=
        peaceful ⟨admitted, tenant, live, same⟩
      obtain ⟨locking, locks, unheld, file, directory, name, names⟩ :=
        LockFile.acquire_taken sound.numbered taken
      have clearing := FileSystem.keeps_without locked settings.socketPath
      have numbered := locking.numbered sound.numbered
      obtain ⟨putting, sameLocks, -⟩ :=
        FileSystem.bindSocket_bound (clearing.numbered numbered) socket
      have keeps := clearing.trans (putting.keeps _)
      have newLocks : after.locked = lock.node :: premises.system.locked := by
        rw [sameLocks, FileSystem.locked_without, locks]
      have others := sound.settled_bind taken keeps
        (fun _ held => newLocks ▸ List.mem_cons_of_mem _ held) alone
      refine ⟨keeps.numbered numbered, fun tenant live => ?_, ?_⟩
      · obtain live | new := List.mem_append.mp live
        · exact others tenant live
        · obtain rfl := List.mem_singleton.mp new
          exact settled_bound numbered file (locks ▸ List.mem_cons_self) names
            socket
      · rw [List.map_append, List.nodup_append]
        refine ⟨sound.apart, by simp, ?_⟩
        intro old oldLive new newLive same
        obtain ⟨tenant, live, rfl⟩ := List.mem_map.mp oldLive
        obtain rfl := List.mem_singleton.mp newLive
        have held := (sound.settled tenant live).held
        rw [same] at held
        exact unheld held

theorem lockNode_ne_of_mem_eraseIdx {live : List Tenant} {position : Nat}
    {leaver tenant : Tenant} (apart : (live.map Tenant.lockNode).Nodup)
    (present : live[position]? = some leaver)
    (stays : tenant ∈ live.eraseIdx position) :
    tenant.lockNode ≠ leaver.lockNode := by
  obtain ⟨other, elsewhere, found⟩ := List.mem_eraseIdx_iff_getElem?.mp stays
  intro same
  have inside : other < (live.map Tenant.lockNode).length := by
    rw [List.length_map]
    exact (List.getElem?_eq_some_iff.mp found).1
  refine elsewhere ((List.getElem?_inj inside apart).mp ?_)
  simp [found, present, same]

theorem Sound.drop (sound : premises.Sound) (position : Nat) :
    (premises.drop position).Sound := by
  rw [Premises.drop]
  cases present : premises.live[position]? with
  | none => exact sound
  | some leaver =>
      simp only [BoundServer.drop_eq]
      have leaverLive : leaver ∈ premises.live := List.mem_of_getElem? present
      have leaverSettled := sound.settled leaver leaverLive
      have keeps := leaver.server.lock.keeps_vacate premises.system
        leaver.socketPath
      refine ⟨keeps.numbered sound.numbered, fun tenant stays => ?_, ?_⟩
      · have live := List.mem_of_mem_eraseIdx stays
        have settled := sound.settled tenant live
        have differ : tenant.lockNode ≠ leaver.lockNode :=
          lockNode_ne_of_mem_eraseIdx sound.apart present stays
        have held : tenant.lockNode ∈ (leaver.server.lock.release
            (premises.system.without leaver.socketPath)).locked := by
          rw [LockFile.locked_vacate]
          exact (List.mem_erase_of_ne differ).mpr settled.held
        refine settled.kept keeps ?_ ?_ held
        · intro directory name names here
          exact leaverSettled.no_lockFile_at here names.found settled.lockFile
        · intro directory name node names here
          obtain ⟨_, _, own⟩ := settled.lockPlace
          obtain ⟨_, _, theirs⟩ := leaverSettled.lockPlace
          exact differ (FileSystem.Names.lockNode_eq names.located here own
            theirs)
      · exact sound.apart.sublist ((List.eraseIdx_sublist ..).map _)

/-- Everything but a trespass keeps everything sound. -/
theorem Sound.step (sound : premises.Sound) {event : Event}
    (peaceful : ∀ settings process, event = .bind settings process →
      ¬ premises.Trespasses settings process) :
    (premises.step event).Sound := by
  cases event with
  | bind settings process => exact sound.bind (peaceful settings process rfl)
  | drop position => exact sound.drop position

end Premises

end FileDepot
