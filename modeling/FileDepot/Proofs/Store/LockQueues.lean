import FileDepot.Proofs.Store.Changes

/-!
# Queues for locks

Nobody stands in a queue twice, or waits for a lock of their own.  A client
comes into a queue by its own request only.  A lock that is free and awaited
was freed by an operation that says so, and the scan leaves none of them.
-/

namespace FileDepot

namespace StoredFile

/-- Nobody waits twice, and nobody waits for a lock of their own. -/
structure QueueInOrder (file : StoredFile) : Prop where
  nodup : file.waiters.Nodup
  owner_not_mem : ∀ client, file.owner = some client → client ∉ file.waiters

/-- The lock is free although somebody waits for it. -/
def Stranded (file : StoredFile) : Prop :=
  file.owner = none ∧ file.waiters ≠ []

/-- The client holds the lock or waits for it. -/
def Involves (file : StoredFile) (client : ClientId) : Prop :=
  file.owner = some client ∨ client ∈ file.waiters

/-- What asking for a lock leaves: the file as it was, the lock taken, or the
client at the end of the queue. -/
theorem lock_cases (file : StoredFile) (client : ClientId) :
    (file.lock client).2 = file ∨
    (file.owner = none ∧ file.waiters = [] ∧
      (file.lock client).2 = { file with owner := some client }) ∨
    (file.owner ≠ some client ∧ client ∉ file.waiters ∧
      ¬ (file.owner = none ∧ file.waiters = []) ∧
      (file.lock client).2 =
        { file with waiters := file.waiters ++ [client] }) := by
  by_cases held : file.owner = some client
  · exact Or.inl (by rw [lock, if_pos held])
  by_cases idle : file.owner = none ∧ file.waiters = []
  · refine Or.inr (Or.inl ⟨idle.1, idle.2, ?_⟩)
    rw [lock, if_neg held, if_pos idle]
  by_cases waits : client ∈ file.waiters
  · exact Or.inl (by rw [lock, if_neg held, if_neg idle, if_pos waits])
  · refine Or.inr (Or.inr ⟨held, waits, idle, ?_⟩)
    rw [lock, if_neg held, if_neg idle, if_neg waits]

theorem release_of_held {file : StoredFile} {client : ClientId}
    (held : file.owner = some client) :
    file.release client = { file with owner := none } := by
  rw [release, if_pos held]

theorem release_of_not_held {file : StoredFile} {client : ClientId}
    (unheld : file.owner ≠ some client) : file.release client = file := by
  rw [release, if_neg unheld]

@[simp] theorem waiters_release (file : StoredFile) (client : ClientId) :
    (file.release client).waiters = file.waiters := by
  unfold release
  split <;> rfl

theorem owner_release_eq_some_iff {file : StoredFile}
    {client owner : ClientId} :
    (file.release client).owner = some owner ↔
      file.owner = some owner ∧ owner ≠ client := by
  by_cases held : file.owner = some client
  · rw [release_of_held held, held]
    simp only [reduceCtorEq, Option.some.injEq, false_iff, not_and, not_not]
    exact Eq.symm
  · rw [release_of_not_held held]
    constructor
    · intro owned
      exact ⟨owned, fun same => held (same ▸ owned)⟩
    · exact And.left

@[simp] theorem mem_waiters_withdraw {file : StoredFile}
    {client waiter : ClientId} :
    waiter ∈ (file.withdraw client).waiters ↔
      waiter ∈ file.waiters ∧ waiter ≠ client := by
  simp [withdraw]

theorem mem_waiters_lock {file : StoredFile} {client waiter : ClientId}
    (waits : waiter ∈ file.waiters) :
    waiter ∈ (file.lock client).2.waiters := by
  rcases file.lock_cases client with
    same | ⟨-, -, taken⟩ | ⟨-, -, -, queued⟩
  · rw [same]
    exact waits
  · rw [taken]
    exact waits
  · rw [queued]
    exact List.mem_append_left _ waits

theorem involves_of_lock {file : StoredFile} {asker client : ClientId}
    (involved : (file.lock asker).2.Involves client) :
    file.Involves client ∨ asker = client := by
  rcases file.lock_cases asker with
    same | ⟨-, empty, taken⟩ | ⟨-, -, -, queued⟩
  · exact Or.inl (same ▸ involved)
  · rw [taken] at involved
    rcases involved with held | waits
    · exact Or.inr (Option.some.inj held)
    · simp [empty] at waits
  · rw [queued] at involved
    rcases involved with held | waits
    · exact Or.inl (Or.inl held)
    · rcases List.mem_append.mp waits with earlier | last
      · exact Or.inl (Or.inr earlier)
      · exact Or.inr (List.mem_singleton.mp last).symm

theorem waits_of_lock {file : StoredFile} {asker client : ClientId}
    (waits : client ∈ (file.lock asker).2.waiters) :
    client ∈ file.waiters ∨ asker = client := by
  rcases file.lock_cases asker with
    same | ⟨-, empty, taken⟩ | ⟨-, -, -, queued⟩
  · exact Or.inl (same ▸ waits)
  · exact Or.inl (by simpa [taken] using waits)
  · rw [queued] at waits
    rcases List.mem_append.mp waits with earlier | last
    · exact Or.inl earlier
    · exact Or.inr (List.mem_singleton.mp last).symm

theorem involves_of_release {file : StoredFile} {holder client : ClientId}
    (involved : (file.release holder).Involves client) :
    file.Involves client := by
  rcases involved with held | waits
  · exact Or.inl (owner_release_eq_some_iff.mp held).1
  · rw [waiters_release] at waits
    exact Or.inr waits

theorem involves_of_withdraw {file : StoredFile} {leaver client : ClientId}
    (involved : (file.withdraw leaver).Involves client) :
    file.Involves client := by
  rcases involved with held | waits
  · exact Or.inl held
  · exact Or.inr (mem_waiters_withdraw.mp waits).1

theorem stranded_of_lock {file : StoredFile} {client : ClientId}
    (stranded : (file.lock client).2.Stranded) : file.Stranded := by
  rcases file.lock_cases client with
    same | ⟨-, -, taken⟩ | ⟨-, -, busy, queued⟩
  · exact same ▸ stranded
  · rw [taken] at stranded
    cases stranded.1
  · rw [queued] at stranded
    have free : file.owner = none := stranded.1
    exact ⟨free, fun empty => busy ⟨free, empty⟩⟩

/-- A client that goes strands a lock only if it held it, or else the lock was
stranded before. -/
theorem stranded_of_withdraw_release {file : StoredFile} {client : ClientId}
    (stranded : ((file.withdraw client).release client).Stranded) :
    file.Stranded ∨ file.owner = some client := by
  by_cases held : file.owner = some client
  · exact Or.inr held
  · have unheld : (file.withdraw client).owner ≠ some client := held
    rw [release_of_not_held unheld] at stranded
    refine Or.inl ⟨stranded.1, ?_⟩
    intro empty
    apply stranded.2
    simp [withdraw, empty]

theorem not_involves_withdraw_release (file : StoredFile)
    (client : ClientId) :
    ¬ ((file.withdraw client).release client).Involves client := by
  rintro (held | waits)
  · exact (owner_release_eq_some_iff.mp held).2 rfl
  · rw [waiters_release] at waits
    exact (mem_waiters_withdraw.mp waits).2 rfl

namespace QueueInOrder

theorem created (owner : Option ClientId) : (created owner).QueueInOrder :=
  ⟨List.nodup_nil, by simp [StoredFile.created]⟩

theorem lock {file : StoredFile} (inOrder : file.QueueInOrder)
    (client : ClientId) : (file.lock client).2.QueueInOrder := by
  rcases file.lock_cases client with
    same | ⟨-, empty, taken⟩ | ⟨unheld, absent, -, queued⟩
  · rw [same]
    exact inOrder
  · rw [taken]
    exact ⟨inOrder.nodup, by simp [empty]⟩
  · rw [queued]
    constructor
    · simp [List.nodup_append, inOrder.nodup]
      exact fun waiter waits same => absent (same ▸ waits)
    · intro owner owned waits
      rcases List.mem_append.mp waits with earlier | last
      · exact inOrder.owner_not_mem owner owned earlier
      · rw [List.mem_singleton.mp last] at owned
        exact unheld owned

theorem release {file : StoredFile} (inOrder : file.QueueInOrder)
    (client : ClientId) : (file.release client).QueueInOrder where
  nodup := by simpa using inOrder.nodup
  owner_not_mem := by
    intro owner owned
    rw [waiters_release]
    exact inOrder.owner_not_mem owner (owner_release_eq_some_iff.mp owned).1

theorem withdraw {file : StoredFile} (inOrder : file.QueueInOrder)
    (client : ClientId) : (file.withdraw client).QueueInOrder where
  nodup := inOrder.nodup.sublist List.filter_sublist
  owner_not_mem := by
    intro owner owned waits
    exact inOrder.owner_not_mem owner owned (List.mem_filter.mp waits).1

theorem grantNext {file granted : StoredFile} {client : ClientId}
    (inOrder : file.QueueInOrder)
    (handed : file.grantNext = some (client, granted)) :
    granted.QueueInOrder := by
  obtain ⟨rest, -, waiting, rfl⟩ := grantNext_eq_some_iff.mp handed
  have nodup := inOrder.nodup
  rw [waiting, List.nodup_cons] at nodup
  constructor
  · exact nodup.2
  · intro owner owned
    exact Option.some.inj owned ▸ nodup.1

end QueueInOrder

end StoredFile

namespace FileChange

variable {path : String} {operation : StoreOperation}
  {before after : StoredFile}

theorem queueInOrder (change : FileChange path operation before after)
    (inOrder : before.QueueInOrder) : after.QueueInOrder := by
  cases change with
  | kept => exact inOrder
  | opened client | locked client => exact inOrder.lock client
  | unlocked client => exact inOrder.release client
  | closed client | released client =>
      exact (inOrder.withdraw client).release client
  | granted handed => exact inOrder.grantNext handed
  | written => exact ⟨inOrder.nodup, inOrder.owner_not_mem⟩

/-- A client comes to hold a lock or to wait for it only by its own request,
or by being handed what it waited for. -/
theorem involves (change : FileChange path operation before after)
    {client : ClientId} (involved : after.Involves client) :
    before.Involves client ∨ operation.seeker? = some client := by
  cases change with
  | kept | written => exact Or.inl involved
  | opened asker | locked asker =>
      rcases StoredFile.involves_of_lock involved with earlier | same
      · exact Or.inl earlier
      · exact Or.inr (congrArg some same)
  | unlocked holder => exact Or.inl (StoredFile.involves_of_release involved)
  | closed leaver | released leaver =>
      have stayed := StoredFile.involves_of_release involved
      exact Or.inl (StoredFile.involves_of_withdraw stayed)
  | granted handed =>
      obtain ⟨rest, free, waiting, rfl⟩ :=
        StoredFile.grantNext_eq_some_iff.mp handed
      left
      right
      rw [waiting]
      rcases involved with held | waits
      · exact Option.some.inj held ▸ List.mem_cons_self
      · exact List.mem_cons_of_mem _ waits

/-- A client comes into a queue by asking for the lock. -/
theorem waits (change : FileChange path operation before after)
    {client : ClientId} (waits : client ∈ after.waiters) :
    client ∈ before.waiters ∨ operation = .lock path client ∨
      operation = .open path client true := by
  cases change with
  | kept | written => exact Or.inl waits
  | opened asker =>
      rcases StoredFile.waits_of_lock waits with earlier | rfl
      · exact Or.inl earlier
      · exact Or.inr (Or.inr rfl)
  | locked asker =>
      rcases StoredFile.waits_of_lock waits with earlier | rfl
      · exact Or.inl earlier
      · exact Or.inr (Or.inl rfl)
  | unlocked holder => exact Or.inl (by simpa using waits)
  | closed leaver | released leaver =>
      rw [StoredFile.waiters_release] at waits
      exact Or.inl (StoredFile.mem_waiters_withdraw.mp waits).1
  | granted handed =>
      obtain ⟨rest, -, waiting, rfl⟩ :=
        StoredFile.grantNext_eq_some_iff.mp handed
      rw [waiting]
      exact Or.inl (List.mem_cons_of_mem _ waits)

/-- A client leaves the queue of a file that stays by closing the file, by
leaving altogether, or in a scan. -/
theorem leaves (change : FileChange path operation before after)
    {client : ClientId} (waited : client ∈ before.waiters)
    (left : client ∉ after.waiters) :
    operation = .close path client ∨ operation = .releaseClient client ∨
      operation = .grantWaiting := by
  have leaver_eq {leaver : ClientId}
      (left :
        client ∉ ((before.withdraw leaver).release leaver).waiters) :
      leaver = client := by
    rw [StoredFile.waiters_release, StoredFile.mem_waiters_withdraw] at left
    by_contra different
    exact left ⟨waited, Ne.symm different⟩
  cases change with
  | kept | written => exact absurd waited left
  | opened asker | locked asker =>
      exact absurd (StoredFile.mem_waiters_lock waited) left
  | unlocked holder => exact absurd (by simpa using waited) left
  | closed leaver => exact Or.inl (leaver_eq left ▸ rfl)
  | released leaver => exact Or.inr (Or.inl (leaver_eq left ▸ rfl))
  | granted handed => exact Or.inr (Or.inr rfl)

end FileChange

namespace Store

def QueuesInOrder (store : Store) : Prop :=
  ∀ path file, store.file? path = some file → file.QueueInOrder

/-- Some lock is free although somebody waits for it. -/
def HasStranded (store : Store) : Prop :=
  ∃ path file, store.file? path = some file ∧ file.Stranded

/-- The client waits for the file at a path. -/
def Awaits (store : Store) (client : ClientId) (path : String) : Prop :=
  ∃ file, store.file? path = some file ∧ client ∈ file.waiters

instance (store : Store) (client : ClientId) (path : String) :
    Decidable (store.Awaits client path) :=
  inferInstanceAs
    (Decidable (∃ file, file ∈ store.file? path ∧ client ∈ file.waiters))

/-- The client holds the lock of the file at a path. -/
def Holds (store : Store) (client : ClientId) (path : String) : Prop :=
  ∃ file, store.file? path = some file ∧ file.owner = some client

/-- The client holds or awaits some lock. -/
def Involves (store : Store) (client : ClientId) : Prop :=
  ∃ path file, store.file? path = some file ∧ file.Involves client

theorem QueuesInOrder.not_awaits_of_holds {store : Store}
    (inOrder : store.QueuesInOrder) {client : ClientId} {path : String}
    (holds : store.Holds client path) : ¬ store.Awaits client path := by
  obtain ⟨file, found, held⟩ := holds
  rintro ⟨same, present, waits⟩
  rw [found, Option.some.injEq] at present
  subst present
  exact (inOrder path file found).owner_not_mem client held waits

theorem queuesInOrder_new (limits : Limits) : (new limits).QueuesInOrder := by
  intro path file found
  cases found

theorem not_involves_new (limits : Limits) (client : ClientId) :
    ¬ (new limits).Involves client := by
  rintro ⟨path, file, found, -⟩
  cases found

theorem not_hasStranded_new (limits : Limits) :
    ¬ (new limits).HasStranded := by
  rintro ⟨path, file, found, -⟩
  cases found

section Perform

variable {store : Store} (consistent : store.Consistent)
  (operation : StoreOperation)

include consistent

theorem QueuesInOrder.perform (inOrder : store.QueuesInOrder) :
    (store.perform operation).2.QueuesInOrder := by
  intro path after found
  cases present : store.file? path with
  | none =>
      obtain ⟨client, lock, -, rfl⟩ :=
        creation_of_birth consistent present found
      exact .created _
  | some before =>
      have change := change_of_survival consistent present found
      exact change.queueInOrder (inOrder path before present)

theorem involves_of_perform {client : ClientId}
    (involved : (store.perform operation).2.Involves client) :
    store.Involves client ∨ operation.seeker? = some client := by
  obtain ⟨path, after, found, involved⟩ := involved
  cases present : store.file? path with
  | none =>
      obtain ⟨creator, lock, rfl, rfl⟩ :=
        creation_of_birth consistent present found
      right
      rcases involved with held | waits
      · cases lock with
        | false => cases held
        | true => exact held
      · cases waits
  | some before =>
      have change := change_of_survival consistent present found
      rcases change.involves involved with earlier | asked
      · exact Or.inl ⟨path, before, present, earlier⟩
      · exact Or.inr asked

theorem awaits_of_perform {client : ClientId} {path : String}
    (awaits : (store.perform operation).2.Awaits client path) :
    store.Awaits client path ∨ operation = .lock path client ∨
      operation = .open path client true := by
  obtain ⟨after, found, waits⟩ := awaits
  cases present : store.file? path with
  | none =>
      obtain ⟨creator, lock, -, rfl⟩ :=
        creation_of_birth consistent present found
      cases waits
  | some before =>
      have change := change_of_survival consistent present found
      rcases change.waits waits with earlier | asked
      · exact Or.inl ⟨before, present, earlier⟩
      · exact Or.inr asked

/-- How a client may come to wait no longer. -/
theorem wait_ends {client : ClientId} {path : String}
    (awaited : store.Awaits client path)
    (ended : ¬ (store.perform operation).2.Awaits client path) :
    (store.perform operation).2.file? path = none ∨
      operation = .close path client ∨ operation = .releaseClient client ∨
      operation = .grantWaiting := by
  obtain ⟨before, present, waits⟩ := awaited
  cases found : (store.perform operation).2.file? path with
  | none => exact Or.inl rfl
  | some after =>
      right
      have change := change_of_survival consistent present found
      exact change.leaves waits fun still => ended ⟨after, found, still⟩

theorem awaits_before {client : ClientId} {path : String}
    (other : operation.client? ≠ some client)
    (awaits : (store.perform operation).2.Awaits client path) :
    store.Awaits client path := by
  rcases awaits_of_perform consistent operation awaits with
    earlier | rfl | rfl
  · exact earlier
  · exact absurd rfl other
  · exact absurd rfl other

theorem awaits_after {client asker : ClientId} {path : String}
    (asks : operation.client? = some asker) (other : client ≠ asker)
    (awaits : store.Awaits client path)
    (stays : (store.perform operation).2.file? path ≠ none) :
    (store.perform operation).2.Awaits client path := by
  by_contra ended
  rcases wait_ends consistent operation awaits ended with
    gone | rfl | rfl | rfl
  · exact stays gone
  · exact other (Option.some.inj asks)
  · exact other (Option.some.inj asks)
  · cases asks

/-- A lock is left free and awaited only by an operation that says that it
gave a lock up. -/
theorem hasStranded_of_perform
    (stranded : (store.perform operation).2.HasStranded) :
    store.HasStranded ∨ (store.perform operation).1.freesLock = true := by
  obtain ⟨path, after, found, stranded⟩ := stranded
  cases present : store.file? path with
  | none =>
      obtain ⟨creator, lock, -, rfl⟩ :=
        creation_of_birth consistent present found
      exact absurd rfl stranded.2
  | some before =>
      have earlier (stranded : before.Stranded) : store.HasStranded :=
        ⟨path, before, present, stranded⟩
      cases change_of_survival consistent present found with
      | kept | written => exact Or.inl (earlier stranded)
      | opened asker | locked asker =>
          exact Or.inl (earlier (StoredFile.stranded_of_lock stranded))
      | unlocked holder _ held =>
          right
          simp [Store.perform, Store.unlock, present, held,
            StoreAnswer.freesLock]
      | closed leaver =>
          rcases StoredFile.stranded_of_withdraw_release stranded with
            before | held
          · exact Or.inl (earlier before)
          · right
            simp [Store.perform, Store.close, present, held,
              StoreAnswer.freesLock]
      | released leaver =>
          rcases StoredFile.stranded_of_withdraw_release stranded with
            before | held
          · exact Or.inl (earlier before)
          · right
            have listed : before ∈ store.table.values :=
              List.mem_map.mpr ⟨(path, before),
                store.table.find?_eq_some_iff.mp present, rfl⟩
            simp only [Store.perform, Store.releaseClient,
              StoreAnswer.freesLock, decide_eq_true_eq, List.countP_pos_iff]
            exact ⟨before, listed, held⟩
      | granted handed =>
          obtain ⟨rest, -, -, rfl⟩ :=
            StoredFile.grantNext_eq_some_iff.mp handed
          cases stranded.1

end Perform

/-- The scan leaves no lock free that somebody waits for. -/
theorem Consistent.not_hasStranded_grantWaiting {store : Store}
    (consistent : store.Consistent) :
    ¬ store.grantWaiting.2.HasStranded := by
  rintro ⟨path, after, found, free, awaited⟩
  rw [consistent.file?_grantWaiting] at found
  obtain ⟨before, -, rfl⟩ := Option.map_eq_some_iff.mp found
  exact awaited (StoredFile.grantNext_eq_none_iff.mp
    before.grantNext_handOn free)

theorem not_involves_releaseClient (store : Store) (client : ClientId) :
    ¬ (store.releaseClient client).2.Involves client := by
  rintro ⟨path, after, found, involved⟩
  rw [file?_releaseClient] at found
  obtain ⟨before, -, rfl⟩ := Option.map_eq_some_iff.mp found
  exact before.not_involves_withdraw_release client involved

end Store

end FileDepot
