import FileDepot.Proofs.Store.HeldLocks

/-!
# First come, first served

A client that waits for a lock is overtaken by nobody who stands behind it or
comes later: before any of them gets the lock, it was granted to the client
that waited, or that client went away, or the file did.
-/

namespace FileDepot

namespace StoredFile

/-- One client waits, and another stands behind it or does not wait at all. -/
def Ahead (file : StoredFile) (first second : ClientId) : Prop :=
  [first, second].Sublist file.waiters ∨
    first ∈ file.waiters ∧ second ∉ file.waiters ∧ file.owner ≠ some second

namespace Ahead

variable {file : StoredFile} {first second : ClientId}

theorem waits (ahead : file.Ahead first second) : first ∈ file.waiters := by
  rcases ahead with behind | ⟨waits, -, -⟩
  · exact behind.subset List.mem_cons_self
  · exact waits

theorem ne (ahead : file.Ahead first second)
    (inOrder : file.QueueInOrder) : first ≠ second := by
  rcases ahead with behind | ⟨waits, absent, -⟩
  · have nodup := inOrder.nodup.sublist behind
    simpa using nodup
  · rintro rfl
    exact absent waits

theorem owner_ne (ahead : file.Ahead first second)
    (inOrder : file.QueueInOrder) : file.owner ≠ some second := by
  rcases ahead with behind | ⟨-, -, unheld⟩
  · intro held
    exact inOrder.owner_not_mem second held (behind.subset (by simp))
  · exact unheld

theorem lock (ahead : file.Ahead first second) (asker : ClientId) :
    (file.lock asker).2.Ahead first second := by
  rcases file.lock_cases asker with
    same | ⟨-, empty, -⟩ | ⟨-, -, -, queued⟩
  · rw [same]
    exact ahead
  · have waits := ahead.waits
    simp [empty] at waits
  · rw [queued]
    rcases ahead with behind | ⟨waits, absent, unheld⟩
    · exact Or.inl (behind.trans (List.sublist_append_left _ _))
    · by_cases last : second = asker
      · subst last
        left
        have both : [first].Sublist file.waiters :=
          List.singleton_sublist.mpr waits
        exact both.append_right [second]
      · exact Or.inr ⟨List.mem_append_left _ waits, by simp [absent, last],
          unheld⟩

theorem release (ahead : file.Ahead first second) (holder : ClientId) :
    (file.release holder).Ahead first second := by
  rcases ahead with behind | ⟨waits, absent, unheld⟩
  · left
    rw [waiters_release]
    exact behind
  · right
    rw [waiters_release]
    refine ⟨waits, absent, ?_⟩
    rw [ne_eq, owner_release_eq_some_iff]
    exact fun held => unheld held.1

theorem withdraw (ahead : file.Ahead first second)
    (inOrder : file.QueueInOrder) {leaver : ClientId}
    (stays : first ≠ leaver) : (file.withdraw leaver).Ahead first second := by
  have waits : first ∈ (file.withdraw leaver).waiters :=
    mem_waiters_withdraw.mpr ⟨ahead.waits, stays⟩
  have unheld : (file.withdraw leaver).owner ≠ some second :=
    ahead.owner_ne inOrder
  by_cases leaves : second = leaver
  · exact Or.inr ⟨waits, by simp [leaves], unheld⟩
  · rcases ahead with behind | ⟨-, absent, -⟩
    · left
      have filtered := behind.filter fun waiter => waiter ≠ leaver
      simpa [stays, leaves, StoredFile.withdraw] using filtered
    · exact Or.inr ⟨waits, by simp [absent], unheld⟩

theorem grantNext (ahead : file.Ahead first second) {granted : StoredFile}
    {next : ClientId} (handed : file.grantNext = some (next, granted)) :
    next = first ∨ granted.Ahead first second := by
  obtain ⟨rest, free, waiting, rfl⟩ := grantNext_eq_some_iff.mp handed
  by_cases same : next = first
  · exact Or.inl same
  · right
    rcases ahead with behind | ⟨waits, absent, -⟩
    · left
      rw [waiting] at behind
      rcases List.sublist_cons_iff.mp behind with later | ⟨tail, split, -⟩
      · exact later
      · exact absurd (List.cons.inj split).1.symm same
    · right
      rw [waiting] at waits absent
      simp only [List.mem_cons, not_or] at absent
      rcases List.mem_cons.mp waits with here | later
      · exact absurd here.symm same
      · exact ⟨later, absent.2, by simpa using Ne.symm absent.1⟩

end Ahead

/-- Nobody is given a lock at once while others wait for it. -/
theorem lock_of_awaited {file : StoredFile} (awaited : file.waiters ≠ [])
    (client : ClientId) :
    (file.lock client).2.owner = file.owner ∧
      ((file.lock client).1 = .acquired → file.owner = some client) := by
  have busy : ¬ (file.owner = none ∧ file.waiters = []) :=
    fun idle => awaited idle.2
  by_cases held : file.owner = some client
  · rw [StoredFile.lock, if_pos held]
    exact ⟨rfl, fun _ => held⟩
  · rw [StoredFile.lock, if_neg held, if_neg busy]
    split
    · exact ⟨rfl, fun impossible => by cases impossible⟩
    · exact ⟨rfl, fun impossible => by cases impossible⟩

end StoredFile

namespace FileChange

variable {path : String} {operation : StoreOperation}
  {before after : StoredFile}

/-- A client that stands ahead of another goes on doing so, unless it goes
away or gets the lock. -/
theorem ahead (change : FileChange path operation before after)
    (inOrder : before.QueueInOrder) {first second : ClientId}
    (ahead : before.Ahead first second) :
    after.Ahead first second ∨ after.owner ≠ some second ∧
      (operation = .grantWaiting ∧ after.owner = some first ∨
        operation = .close path first ∨ operation = .releaseClient first) := by
  have stillUnheld (leaver : ClientId) :
      ((before.withdraw leaver).release leaver).owner ≠ some second := by
    rw [ne_eq, StoredFile.owner_release_eq_some_iff]
    exact fun held => ahead.owner_ne inOrder held.1
  cases change with
  | kept => exact Or.inl ahead
  | opened asker | locked asker => exact Or.inl (ahead.lock asker)
  | unlocked holder => exact Or.inl (ahead.release holder)
  | closed leaver =>
      by_cases leaves : first = leaver
      · subst leaves
        exact Or.inr ⟨stillUnheld first, Or.inr (Or.inl rfl)⟩
      · exact Or.inl ((ahead.withdraw inOrder leaves).release leaver)
  | released leaver =>
      by_cases leaves : first = leaver
      · subst leaves
        exact Or.inr ⟨stillUnheld first, Or.inr (Or.inr rfl)⟩
      · exact Or.inl ((ahead.withdraw inOrder leaves).release leaver)
  | granted handed =>
      rcases ahead.grantNext handed with rfl | later
      · obtain ⟨rest, -, -, rfl⟩ :=
          StoredFile.grantNext_eq_some_iff.mp handed
        have different := ahead.ne inOrder
        exact Or.inr ⟨by simpa using different, Or.inl ⟨rfl, rfl⟩⟩
      · exact Or.inl later
  | written => exact Or.inl ahead

/-- No operation takes a lock from one client and gives it to another. -/
theorem owner_eq (change : FileChange path operation before after)
    {first second : ClientId} (held : before.owner = some first)
    (holds : after.owner = some second) : first = second := by
  have ofLock {asker : ClientId}
      (holds : (before.lock asker).2.owner = some second) :
      first = second := by
    rw [StoredFile.owner_lock_of_held held] at holds
    exact Option.some.inj holds
  have ofRelease {file : StoredFile} {holder : ClientId}
      (sameOwner : file.owner = before.owner)
      (holds : (file.release holder).owner = some second) :
      first = second := by
    have stillHeld := (StoredFile.owner_release_eq_some_iff.mp holds).1
    rw [sameOwner, held] at stillHeld
    exact Option.some.inj stillHeld
  cases change with
  | kept | written => exact Option.some.inj (held.symm.trans holds)
  | opened asker | locked asker => exact ofLock holds
  | unlocked holder => exact ofRelease rfl holds
  | closed leaver | released leaver =>
      have sameOwner : (before.withdraw leaver).owner = before.owner := rfl
      exact ofRelease sameOwner holds
  | granted handed =>
      obtain ⟨rest, free, -, -⟩ := StoredFile.grantNext_eq_some_iff.mp handed
      rw [held] at free
      cases free

end FileChange

namespace Store

/-- A file that an operation takes away was removed, or expelled and handed
out. -/
theorem loss_cases {store : Store} (consistent : store.Consistent)
    {operation : StoreOperation} {path : String} {file : StoredFile}
    (found : store.file? path = some file)
    (gone : (store.perform operation).2.file? path = none) :
    (∃ client, operation = .remove path client) ∨
      ⟨path, file.content⟩ ∈ (store.perform operation).1.evictedFiles := by
  have present (same : (store.perform operation).2 = store) : False := by
    rw [same, found] at gone
    cases gone
  have handedOut {victims : List String} (nodup : victims.Nodup)
      (among : path ∈ victims) :
      ⟨path, file.content⟩ ∈ (evict victims store).1.files := by
    rw [files_evict nodup]
    exact List.mem_filterMap.mpr
      ⟨path, among, by simp [evictedAt?, found]⟩
  cases only : operation.onlyLocks with
  | true =>
      rw [file?_eq_none_iff_of_onlyLocks only, found] at gone
      cases gone
  | false =>
      cases operation with
      | create target client lock =>
          rcases create_cases store target client lock with
            ⟨error, goes⟩ | ⟨-, -, goes⟩ | ⟨victims, -, -, -, planned, goes⟩
          · exact (present (by rw [perform, goes])).elim
          · rw [perform, goes, file?_insert, found] at gone
            split at gone <;> cases gone
          · right
            rw [perform, goes] at gone ⊢
            apply handedOut (consistent.victims_nodup planned)
            by_contra spared
            rw [file?_insert, file?_evict, if_neg spared, found] at gone
            split at gone <;> cases gone
      | write target client content =>
          rcases write_cases store target client content with
            ⟨error, goes⟩ | ⟨old, victims, here, -, -, -, -, makes, goes⟩
          · exact (present (by rw [perform, goes])).elim
          · right
            rw [perform, goes] at gone ⊢
            have spared := not_mem_of_makesRoom makes
            have nodup : victims.Nodup := by
              rcases makes with ⟨-, rfl⟩ | ⟨-, -, planned⟩
              · exact List.nodup_nil
              · exact consistent.victims_nodup planned
            apply handedOut nodup
            by_contra kept
            rw [file?_written_evict content here spared, if_neg kept,
              found] at gone
            split at gone <;> cases gone
      | remove target client =>
          rcases remove_cases store target client with
            ⟨error, goes⟩ | ⟨old, smaller, -, -, taken, goes⟩
          · exact (present (by rw [perform, goes])).elim
          · left
            rw [perform, goes, file?_of_take taken, found] at gone
            split at gone
            · rename_i same
              exact ⟨client, by rw [same]⟩
            · cases gone
      | _ => cases only

/-- An operation ends a client's wait for the file at a path: it hands the
lock to the client, or the client goes away, or the file is lost. -/
def EndsWait (store : Store) (operation : StoreOperation) (client : ClientId)
    (path : String) : Prop :=
  operation = .grantWaiting ∧
      (store.perform operation).2.Holds client path ∨
    operation = .close path client ∨ operation = .releaseClient client ∨
    (∃ remover, operation = .remove path remover ∧
      (store.perform operation).2.file? path = none) ∨
    ∃ evicted ∈ (store.perform operation).1.evictedFiles,
      evicted.path = path

/-- At the file at a path, one client stands ahead of another. -/
def AheadAt (store : Store) (path : String) (first second : ClientId) :
    Prop :=
  ∃ file, store.file? path = some file ∧ file.Ahead first second

namespace AheadAt

variable {store : Store} {path : String} {first second : ClientId}

theorem awaits (ahead : store.AheadAt path first second) :
    store.Awaits first path := by
  obtain ⟨file, found, ahead⟩ := ahead
  exact ⟨file, found, ahead.waits⟩

theorem not_holds (ahead : store.AheadAt path first second)
    (inOrder : store.QueuesInOrder) : ¬ store.Holds second path := by
  rintro ⟨file, found, held⟩
  obtain ⟨same, foundSame, ahead⟩ := ahead
  rw [found, Option.some.injEq] at foundSame
  subst foundSame
  exact ahead.owner_ne (inOrder path file found) held

theorem perform (ahead : store.AheadAt path first second)
    (consistent : store.Consistent) (inOrder : store.QueuesInOrder)
    (operation : StoreOperation) :
    (store.perform operation).2.AheadAt path first second ∨
      store.EndsWait operation first path ∧
        ¬ (store.perform operation).2.Holds second path := by
  obtain ⟨before, found, ahead⟩ := ahead
  cases still : (store.perform operation).2.file? path with
  | none =>
      right
      constructor
      · rcases loss_cases consistent found still with
          ⟨remover, removes⟩ | handedOut
        · exact Or.inr (Or.inr (Or.inr (Or.inl ⟨remover, removes, still⟩)))
        · exact Or.inr (Or.inr (Or.inr (Or.inr ⟨_, handedOut, rfl⟩)))
      · rintro ⟨file, present, -⟩
        rw [still] at present
        cases present
  | some after =>
      have change := change_of_survival consistent found still
      rcases change.ahead (inOrder path before found) ahead with
        stays | ⟨unheld, ends⟩
      · exact Or.inl ⟨after, still, stays⟩
      · right
        constructor
        · rcases ends with ⟨scans, held⟩ | closes | leaves
          · exact Or.inl ⟨scans, after, still, held⟩
          · exact Or.inr (Or.inl closes)
          · exact Or.inr (Or.inr (Or.inl leaves))
        · rintro ⟨file, present, held⟩
          rw [still, Option.some.injEq] at present
          exact unheld (present ▸ held)

/-- Through a run, one client stays ahead of another, or its wait ends at some
operation, up to which it was ahead and behind which the other still has not
got the lock. -/
theorem run (ahead : store.AheadAt path first second) (sound : store.Sound)
    (inOrder : store.QueuesInOrder) (later : List StoreOperation) :
    (store.run later).AheadAt path first second ∨
      ∃ before operation rest, later = before ++ operation :: rest ∧
        (∀ early, early <+: before →
          (store.run early).Awaits first path ∧
            ¬ (store.run early).Holds second path) ∧
        (store.run before).EndsWait operation first path ∧
        ¬ (store.run (before ++ [operation])).Holds second path := by
  induction later generalizing store with
  | nil => exact Or.inl ahead
  | cons operation later ih =>
      have start : store.Awaits first path ∧ ¬ store.Holds second path :=
        ⟨ahead.awaits, ahead.not_holds inOrder⟩
      rcases ahead.perform sound.consistent inOrder operation with
        stays | ⟨ends, unheld⟩
      · rcases ih stays (sound.perform operation)
            (inOrder.perform sound.consistent operation) with
          last | ⟨before, next, rest, split, waits, ends, unheld⟩
        · exact Or.inl last
        · refine Or.inr ⟨operation :: before, next, rest, by rw [split]; rfl,
            ?_, ends, unheld⟩
          intro early isEarly
          rcases List.prefix_cons_iff.mp isEarly with
            rfl | ⟨begun, rfl, isBegun⟩
          · exact start
          · exact waits begun isBegun
      · refine Or.inr ⟨[], operation, later, rfl, ?_, ends, unheld⟩
        intro early isEarly
        rw [List.prefix_nil.mp isEarly]
        exact start

end AheadAt

theorem queuesInOrder_run {store : Store} (sound : store.Sound)
    (inOrder : store.QueuesInOrder) (operations : List StoreOperation) :
    (store.run operations).QueuesInOrder := by
  have step (earlier : Store) (operation : StoreOperation)
      (kept : earlier.Sound ∧ earlier.QueuesInOrder) :
      (earlier.perform operation).2.Sound ∧
        (earlier.perform operation).2.QueuesInOrder :=
    ⟨kept.1.perform operation,
      kept.2.perform kept.1.consistent operation⟩
  exact (run_preserves step operations ⟨sound, inOrder⟩).2

theorem owner_of_asking {store : Store} {path : String} {file : StoredFile}
    (found : store.file? path = some file) (awaited : file.waiters ≠ [])
    (client : ClientId) :
    (∃ after, (store.lock path client).2.file? path = some after ∧
      after.owner = file.owner ∧
      ((store.lock path client).1 = .ok .acquired →
        file.owner = some client)) ∧
    ∀ lock, ∃ after,
      (store.open path client lock).2.file? path = some after ∧
      after.owner = file.owner ∧
      ((store.open path client lock).1 = .ok (some .acquired) →
        file.owner = some client) := by
  obtain ⟨sameOwner, acquires⟩ := StoredFile.lock_of_awaited awaited client
  constructor
  · refine ⟨(file.lock client).2, ?_, sameOwner, ?_⟩
    · simp [Store.lock, found, file?_update]
    · simpa [Store.lock, found] using acquires
  · intro lock
    cases lock with
    | false =>
        exact ⟨file, by simp [Store.open, found], rfl,
          by simp [Store.open, found]⟩
    | true =>
        refine ⟨(file.lock client).2, ?_, sameOwner, ?_⟩
        · simp [Store.open, found, file?_update]
        · simpa [Store.open, found] using acquires

/-- Locks are handed on in the order in which they were asked for.  Nobody
waits twice or for a lock of their own; nobody gets a lock before those who
waited ahead have stopped waiting, for one of the given reasons; a lock that
is awaited is given to nobody at once; and no operation passes a lock from one
client to another. -/
theorem locks_go_first_come_first_served (limits : Limits)
    (earlier : List StoreOperation) :
    let store := (new limits).run earlier
    (∀ path file, store.file? path = some file →
      file.waiters.Nodup ∧
        ∀ client, file.owner = some client → client ∉ file.waiters) ∧
    (∀ path file first second, store.file? path = some file →
      ([first, second].Sublist file.waiters ∨
        first ∈ file.waiters ∧ second ∉ file.waiters ∧
          file.owner ≠ some second) →
      ∀ later, (store.run later).Holds second path →
        ∃ before operation rest, later = before ++ operation :: rest ∧
          (∀ early, early <+: before →
            (store.run early).Awaits first path ∧
              ¬ (store.run early).Holds second path) ∧
          (store.run before).EndsWait operation first path ∧
          ¬ (store.run (before ++ [operation])).Holds second path) ∧
    (∀ path file client, store.file? path = some file →
      file.waiters ≠ [] →
      (∃ after, (store.lock path client).2.file? path = some after ∧
        after.owner = file.owner ∧
        ((store.lock path client).1 = .ok .acquired →
          file.owner = some client)) ∧
      ∀ lock, ∃ after,
        (store.open path client lock).2.file? path = some after ∧
        after.owner = file.owner ∧
        ((store.open path client lock).1 = .ok (some .acquired) →
          file.owner = some client)) ∧
    ∀ operation path before after first second,
      store.file? path = some before →
      (store.perform operation).2.file? path = some after →
      before.owner = some first → after.owner = some second →
      first = second := by
  intro store
  have sound : store.Sound := (sound_new limits).run earlier
  have inOrder : store.QueuesInOrder :=
    queuesInOrder_run (sound_new limits) (queuesInOrder_new limits) earlier
  refine ⟨?_, ?_, ?_, ?_⟩
  · intro path file found
    have ordered := inOrder path file found
    exact ⟨ordered.nodup, ordered.owner_not_mem⟩
  · intro path file first second found ahead later holds
    have aheadAt : store.AheadAt path first second := ⟨file, found, ahead⟩
    rcases aheadAt.run sound inOrder later with stillAhead | ended
    · have lastInOrder := queuesInOrder_run sound inOrder later
      exact absurd holds (stillAhead.not_holds lastInOrder)
    · exact ended
  · intro path file client found awaited
    exact owner_of_asking found awaited client
  · intro operation path before after first second found still held holds
    have change := change_of_survival sound.consistent found still
    exact change.owner_eq held holds

/-- Two clients wait for the lock of a third.  The one that came last gets it
in the end, and by then the other has stopped waiting. -/
theorem last_in_queue_gets_lock_last :
    let store := (new {}).run
      [.create "f" 1 true, .lock "f" 2, .lock "f" 3]
    let later : List StoreOperation :=
      [.unlock "f" 1, .lock "f" 1, .grantWaiting, .close "f" 2,
        .grantWaiting]
    (store.run later).Holds 3 "f" ∧
      ∃ before operation rest, later = before ++ operation :: rest ∧
        (∀ early, early <+: before →
          (store.run early).Awaits 2 "f" ∧
            ¬ (store.run early).Holds 3 "f") ∧
        (store.run before).EndsWait operation 2 "f" ∧
        ¬ (store.run (before ++ [operation])).Holds 3 "f" := by
  intro store later
  have found : store.file? "f" = some { owner := some 1, waiters := [2, 3] } :=
    by decide
  have holds : (store.run later).Holds 3 "f" :=
    ⟨{ owner := some 3, waiters := [1] }, by decide, rfl⟩
  have noOvertaking := (locks_go_first_come_first_served {}
    [.create "f" 1 true, .lock "f" 2, .lock "f" 3]).2.1
  exact ⟨holds, noOvertaking "f" _ 2 3 found (Or.inl (by decide)) later holds⟩

end Store

end FileDepot
