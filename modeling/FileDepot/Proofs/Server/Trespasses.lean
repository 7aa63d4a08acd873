import FileDepot.Proofs.Server.Premises

/-!
# Servers that take the lock files of others

A bind trespasses when its socket path stands for the lock file of a live
server.  It takes that file away, and with it what keeps other servers off the
path of the first one.  A run is secure at every point exactly if no bind of it
trespasses, and no bind trespasses whose socket path is not itself the path of
a lock file.
-/

namespace FileDepot

open LockFile (pathFor)

namespace Premises

variable {premises : Premises} {settings : Settings} {process : Nat}

/-! ### What a trespass does -/

/-- Clearing a socket path that stands for the lock file of a server takes the
name of that file away. -/
theorem lockFile_cleared {tenant : Tenant} {locked : FileSystem}
    {directory : NodeId} {name : String}
    (names : locked.Names tenant.lockPath directory name tenant.lockNode)
    (lockFile : (locked.content? tenant.lockNode).isSome = true)
    (here : locked.At settings.socketPath directory name) :
    FileSystem.entry? (locked.without settings.socketPath) directory name =
      .ok none := by
  have file : locked.isDirectoryNode tenant.lockNode = false := by
    obtain ⟨content, regular⟩ := FileSystem.content?_isSome_iff.mp lockFile
    rw [FileSystem.isDirectoryNode_eq_false_iff, regular]
    exact nofun
  rw [FileSystem.without_of_names ⟨here, names.found⟩ file]
  exact FileSystem.entry?_eraseName names.found

/-- A bind that trespasses takes the lock file of a live server away. -/
theorem Sound.not_secure_of_trespasses (sound : premises.Sound)
    (trespass : premises.Trespasses settings process) :
    ¬ (premises.bind settings process).Secure := by
  obtain ⟨admitted, tenant, live, same⟩ := trespass
  have binding := BoundServer.bind_cases settings process sound.numbered
  rw [Premises.bind]
  generalize BoundServer.bind settings process premises.system = outcome
    at binding
  obtain ⟨result, after⟩ := outcome
  obtain ⟨directory, name, names⟩ := (sound.settled tenant live).lockPlace
  have inside := FileSystem.isDirectoryNode_of_asked names.found
  -- The path still stands for the lock file when the new server has its lock.
  have reached {lock : LockFile} {locked : FileSystem}
      (taken : LockFile.acquire (pathFor settings.socketPath) process
        premises.system = (.ok lock, locked)) :
      locked.Names tenant.lockPath directory name tenant.lockNode ∧
        locked.At settings.socketPath directory name := by
    have locking := (LockFile.acquire_taken sound.numbered taken).1
    exact ⟨names.kept locking id,
      locking.directories.locate inside (same.trans names.located)⟩
  cases binding with
  | refused closed => exact absurd admitted closed
  | @failed _ lock locked _ taken =>
      obtain ⟨still, here⟩ := reached taken
      have settled := sound.settled_locked taken tenant live
      have gone := lockFile_cleared still settled.lockFile here
      have keeps := lock.keeps_vacate locked settings.socketPath
      refine fun secure => still.lost keeps.directories ?_
        (secure.intact tenant live).lockFile
      intro found
      cases gone.symm.trans found
  | @bound lock locked _ _ taken socket =>
      obtain ⟨still, here⟩ := reached taken
      have settled := sound.settled_locked taken tenant live
      have gone := lockFile_cleared still settled.lockFile here
      have keeps := FileSystem.keeps_without locked settings.socketPath
      have numbered := keeps.numbered
        ((LockFile.acquire_taken sound.numbered taken).1.numbered
          sound.numbered)
      have putting := (FileSystem.bindSocket_bound numbered socket).1
      refine fun secure => still.lost
        (keeps.directories.trans putting.directories) ?_
        (secure.intact tenant (List.mem_append_left _ live)).lockFile
      exact FileSystem.entry?_bindSocket_ne numbered
        (keeps.directories.locate
          (FileSystem.isDirectoryNode_of_asked still.found) here)
        gone (keeps.files _ settled.lockFile) socket

/-- Only a server whose socket path is the path of a lock file trespasses. -/
theorem Sound.socketPath_of_trespasses (sound : premises.Sound)
    (trespass : premises.Trespasses settings process) :
    ∃ stem, settings.socketPath = pathFor stem := by
  obtain ⟨-, tenant, live, same⟩ := trespass
  obtain ⟨directory, name, names⟩ := (sound.settled tenant live).lockPlace
  exact FileSystem.eq_pathFor_of_locate (same.trans names.located) names.located

/-! ### Runs -/

theorem bind_prefix_cons_iff {event : Event} {past later : List Event} :
    past ++ [.bind settings process] <+: event :: later ↔
      past = [] ∧ event = .bind settings process ∨
        ∃ rest, past = event :: rest ∧
          rest ++ [.bind settings process] <+: later := by
  cases past with
  | nil => simp [List.cons_prefix_cons, eq_comm]
  | cons first rest =>
      simp only [List.cons_append, List.cons_prefix_cons, reduceCtorEq,
        false_and, false_or, List.cons.injEq]
      constructor
      · rintro ⟨rfl, behind⟩
        exact ⟨rest, ⟨rfl, rfl⟩, behind⟩
      · rintro ⟨_, ⟨rfl, rfl⟩, behind⟩
        exact ⟨rfl, behind⟩

/-- From a sound state on, everything stays secure up to the first bind that
trespasses, and no further. -/
theorem Sound.secure_iff (sound : premises.Sound) (events : List Event) :
    (∀ past, past <+: events → (premises.run past).Secure) ↔
      ∀ past settings process, past ++ [.bind settings process] <+: events →
        ¬ (premises.run past).Trespasses settings process := by
  induction events generalizing premises with
  | nil =>
      constructor
      · intro _ past settings process inside
        simp at inside
      · intro _ past inside
        rw [List.prefix_nil.mp inside]
        exact sound.secure
  | cons event later ih =>
      constructor
      · intro secure past settings process inside
        -- A trespass now would show in the state that comes next.
        have peaceful (settings) (process)
            (now : event = .bind settings process) :
            ¬ premises.Trespasses settings process := by
          intro trespass
          have next : (premises.step event).Secure :=
            secure [event] (List.cons_prefix_cons.mpr ⟨rfl, List.nil_prefix⟩)
          rw [now] at next
          exact sound.not_secure_of_trespasses trespass next
        obtain ⟨rfl, now⟩ | ⟨rest, rfl, behind⟩ :=
          bind_prefix_cons_iff.mp inside
        · exact peaceful settings process now
        · refine (ih (sound.step peaceful)).mp ?_ rest settings process behind
          intro past inside
          exact secure (event :: past) (List.cons_prefix_cons.mpr ⟨rfl, inside⟩)
      · intro peaceful past inside
        have now (settings) (process)
            (first : event = .bind settings process) :=
          peaceful [] settings process
            (bind_prefix_cons_iff.mpr (.inl ⟨rfl, first⟩))
        obtain rfl | ⟨rest, rfl, behind⟩ := List.prefix_cons_iff.mp inside
        · exact sound.secure
        · refine (ih (sound.step now)).mpr ?_ rest behind
          intro past settings process inside
          exact peaceful (event :: past) settings process
            (bind_prefix_cons_iff.mpr (.inr ⟨past, rfl, inside⟩))

/-- Servers on one file system keep their socket paths and their files to
themselves throughout a run if and only if no bind of the run takes the lock
file of a live server for a stale socket. -/
theorem secure_throughout_iff {system : FileSystem}
    (numbered : system.Numbered) (events : List Event) :
    (∀ past, past <+: events → ((vacant system).run past).Secure) ↔
      ∀ past settings process, past ++ [.bind settings process] <+: events →
        ¬ ((vacant system).run past).Trespasses settings process :=
  (sound_vacant numbered).secure_iff events

/-- A bind with the usual settings. -/
def bindAt (socketPath : String) (process : Nat) : Event :=
  .bind { socketPath } process

/-- A server that is refused, one whose name is nearly that of a lock file, and
a path that is used again: nobody gets in the way of another server. -/
theorem secure_beside_one_another :
    FileSystem.fresh.Numbered ∧
      ∀ past, past <+: [bindAt "/s" 1, bindAt "/s" 2, bindAt "/s.locks" 3,
          .drop 0, bindAt "/s" 4] →
        ((vacant .fresh).run past).Secure := by
  refine ⟨FileSystem.numbered_fresh,
    (secure_throughout_iff FileSystem.numbered_fresh _).mpr ?_⟩
  intro past settings process first
  obtain ⟨rfl, now⟩ | ⟨past, rfl, second⟩ := bind_prefix_cons_iff.mp first
  · cases now
    decide +kernel
  obtain ⟨rfl, now⟩ | ⟨past, rfl, third⟩ := bind_prefix_cons_iff.mp second
  · cases now
    decide +kernel
  obtain ⟨rfl, now⟩ | ⟨past, rfl, fourth⟩ := bind_prefix_cons_iff.mp third
  · cases now
    decide +kernel
  obtain ⟨rfl, now⟩ | ⟨past, rfl, fifth⟩ := bind_prefix_cons_iff.mp fourth
  · cases now
  obtain ⟨rfl, now⟩ | ⟨past, rfl, sixth⟩ := bind_prefix_cons_iff.mp fifth
  · cases now
    decide +kernel
  simp at sixth

/-- A second server takes the lock file of the first one for a stale socket.
Once it is gone, a third server is bound to the path of the first one, which
still lives. -/
theorem two_servers_on_one_path :
    ¬ ((vacant .fresh).run [bindAt "/s" 1, bindAt "/s.lock" 2]).Secure ∧
      ((vacant .fresh).run [bindAt "/s" 1, bindAt "/s.lock" 2, .drop 1,
        bindAt "/s" 3]).live.map Tenant.socketPath = ["/s", "/s"] := by
  constructor
  · intro secure
    have lockFile := (secure.intact
      { server := { settings := { socketPath := "/s" }, lock := ⟨1⟩ }
        socketFile := some 2 } (by decide +kernel)).lockFile
    revert lockFile
    decide +kernel
  · decide +kernel

/-- As long as no socket path is the path of a lock file, every server keeps
its socket path and its files to itself. -/
theorem secure_of_plain_paths {system : FileSystem}
    (numbered : system.Numbered) (events : List Event)
    (plain : ∀ settings process, .bind settings process ∈ events →
      ∀ stem, settings.socketPath ≠ pathFor stem) :
    ((vacant system).run events).Secure := by
  suffices sound : ∀ premises : Premises, premises.Sound →
      (premises.run events).Sound from
    (sound (vacant system) (sound_vacant numbered)).secure
  induction events with
  | nil => exact fun _ sound => sound
  | cons event later ih =>
      intro premises sound
      have peaceful (settings) (process)
          (now : event = .bind settings process) :
          ¬ premises.Trespasses settings process := by
        intro trespass
        obtain ⟨stem, same⟩ := sound.socketPath_of_trespasses trespass
        exact plain settings process (now ▸ List.mem_cons_self) stem same
      exact ih (fun settings process later =>
        plain settings process (List.mem_cons_of_mem _ later))
        (premises.step event) (sound.step peaceful)

end Premises

end FileDepot
