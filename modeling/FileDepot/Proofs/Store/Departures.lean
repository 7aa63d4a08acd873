import FileDepot.Proofs.Store.LockQueues

/-!
# Clients that leave

A client that leaves gives up every lock and every place in a queue at once.
It could as well close one file after another, in any order: each closing takes
its part of what there is to give up, and nothing is left in the end.
-/

namespace FileDepot

namespace StoredFile

/-- What a file is without a client: the lock is free if the client held it,
and those behind it in the queue move up. -/
theorem withdraw_release_eq (file : StoredFile) (client : ClientId) :
    (file.withdraw client).release client =
      { file with
        owner := if file.owner = some client then none else file.owner
        waiters := file.waiters.filter (· ≠ client) } := by
  unfold release withdraw
  split <;> simp_all

theorem withdraw_release_eq_self {file : StoredFile} {client : ClientId}
    (apart : ¬ file.Involves client) :
    (file.withdraw client).release client = file := by
  have unheld : file.owner ≠ some client := fun held => apart (Or.inl held)
  have stays : file.waiters.filter (· ≠ client) = file.waiters := by
    apply List.filter_eq_self.mpr
    intro waiter waits
    exact decide_eq_true fun same => apart (Or.inr (same ▸ waits))
  rw [withdraw_release_eq, if_neg unheld, stays]

theorem withdraw_release_twice (file : StoredFile) (client : ClientId) :
    (((file.withdraw client).release client).withdraw client).release client =
      (file.withdraw client).release client :=
  withdraw_release_eq_self (file.not_involves_withdraw_release client)

/-- The number of locks that a client has on a file: one or none. -/
def locksOf (file : StoredFile) (client : ClientId) : Nat :=
  (decide (file.owner = some client)).toNat

theorem locksOf_withdraw_release (file : StoredFile) (client : ClientId) :
    ((file.withdraw client).release client).locksOf client = 0 := by
  have lost : ((file.withdraw client).release client).owner ≠ some client :=
    fun held => file.not_involves_withdraw_release client (Or.inl held)
  simp [locksOf, lost]

end StoredFile

namespace Store

/-- A client closes the files at the given paths, one after another. -/
def closings (client : ClientId) (paths : List String) :
    List StoreOperation :=
  paths.map fun path => .close path client

variable (store : Store) (client : ClientId)

theorem file?_close (path other : String) :
    (store.close path client).2.file? other =
      if other = path then (store.file? other).map fun file =>
        (file.withdraw client).release client
      else store.file? other := by
  rcases store.close_cases path client with
    ⟨absent, goes⟩ | ⟨file, found, goes⟩
  · rw [goes]
    by_cases same : other = path
    · simp [same, absent]
    · simp [same]
  · rw [goes, file?_update_of_found found]
    by_cases same : other = path
    · simp [same, found]
    · simp [same]

theorem releaseClient_fst :
    (store.releaseClient client).1 =
      store.table.total fun file => file.locksOf client :=
  store.table.countP_values fun file => file.owner = some client

/-- A file that was closed before makes no difference to a client that
leaves. -/
theorem releaseClient_snd_close (path : String) :
    ((store.close path client).2.releaseClient client).2 =
      (store.releaseClient client).2 := by
  rcases store.close_cases path client with
    ⟨absent, goes⟩ | ⟨file, found, goes⟩
  · rw [goes]
  · have table : (store.table.modify path fun _ =>
          (file.withdraw client).release client).mapValues
            (fun file => (file.withdraw client).release client) =
        store.table.mapValues fun file =>
          (file.withdraw client).release client :=
      store.table.mapValues_modify_found found
        (file.withdraw_release_twice client)
    rw [goes]
    simp only [releaseClient, update, table]

/-- Closing a file takes its part of the locks that are there to give up. -/
theorem releaseClient_fst_close (path : String) :
    (store.close path client).1.toNat +
        ((store.close path client).2.releaseClient client).1 =
      (store.releaseClient client).1 := by
  rcases store.close_cases path client with
    ⟨absent, goes⟩ | ⟨file, found, goes⟩
  · rw [goes]
    exact Nat.zero_add _
  · have moved := store.table.total_modify path
      ((file.withdraw client).release client) file
      (fun file => file.locksOf client) found
    rw [file.locksOf_withdraw_release, Nat.add_zero] at moved
    rw [goes, releaseClient_fst, releaseClient_fst, Nat.add_comm]
    exact moved

theorem run_closings_cons (path : String) (others : List String) :
    store.run (closings client (path :: others)) =
      (store.close path client).2.run (closings client others) :=
  rfl

theorem countP_closings_cons (path : String) (others : List String) :
    (store.answers (closings client (path :: others))).countP
        StoreAnswer.freesLock =
      (store.close path client).1.toNat +
        ((store.close path client).2.answers
          (closings client others)).countP StoreAnswer.freesLock := by
  have answered : store.answers (closings client (path :: others)) =
      .closed (store.close path client).1 ::
        (store.close path client).2.answers (closings client others) := rfl
  rw [answered, List.countP_cons]
  cases (store.close path client).1 with
  | true => exact Nat.add_comm _ 1
  | false => exact (Nat.zero_add _).symm

/-- Files that were closed before make no difference to a client that
leaves. -/
theorem releaseClient_snd_run_closings (paths : List String) :
    ((store.run (closings client paths)).releaseClient client).2 =
      (store.releaseClient client).2 := by
  induction paths generalizing store with
  | nil => rfl
  | cons path others ih =>
      rw [run_closings_cons, ih, releaseClient_snd_close]

/-- The locks that were given up so far and those that are left to give up add
up. -/
theorem releaseClient_fst_run_closings (paths : List String) :
    (store.answers (closings client paths)).countP StoreAnswer.freesLock +
        ((store.run (closings client paths)).releaseClient client).1 =
      (store.releaseClient client).1 := by
  induction paths generalizing store with
  | nil => exact Nat.zero_add _
  | cons path others ih =>
      rw [run_closings_cons, countP_closings_cons, Nat.add_assoc, ih,
        releaseClient_fst_close]

theorem file?_run_closings (paths : List String) (path : String) :
    (store.run (closings client paths)).file? path =
      if path ∈ paths then (store.file? path).map fun file =>
        (file.withdraw client).release client
      else store.file? path := by
  induction paths generalizing store with
  | nil => simp [closings, run]
  | cons first others ih =>
      rw [run_closings_cons, ih, file?_close]
      by_cases same : path = first
      · simp [same, Function.comp_def, StoredFile.withdraw_release_twice]
      · simp [same]

theorem not_involves_run_closings {paths : List String}
    (covers : store.table.keys ⊆ paths) :
    ¬ (store.run (closings client paths)).Involves client := by
  rintro ⟨path, after, found, involved⟩
  rw [file?_run_closings] at found
  by_cases closed : path ∈ paths
  · rw [if_pos closed] at found
    obtain ⟨before, -, rfl⟩ := Option.map_eq_some_iff.mp found
    exact before.not_involves_withdraw_release client involved
  · rw [if_neg closed] at found
    have stored : path ∈ store.table.keys :=
      store.table.mem_keys_iff.mpr (store.contains_iff.mpr ⟨after, found⟩)
    exact closed (covers stored)

variable {store client}

theorem releaseClient_of_not_involves (apart : ¬ store.Involves client) :
    store.releaseClient client = (0, store) := by
  have apartFrom (path : String) (file : StoredFile)
      (found : store.file? path = some file) : ¬ file.Involves client :=
    fun involved => apart ⟨path, file, found, involved⟩
  have unheld : store.table.values.countP
      (fun file => file.owner = some client) = 0 := by
    apply List.countP_eq_zero.mpr
    intro file listed
    obtain ⟨⟨path, _⟩, entry, rfl⟩ := List.mem_map.mp listed
    have found := store.table.find?_eq_some_iff.mpr entry
    exact fun held =>
      apartFrom path _ found (Or.inl (of_decide_eq_true held))
  have spared : store.table.mapValues (fun file =>
      (file.withdraw client).release client) = store.table :=
    store.table.mapValues_eq_self fun path file found =>
      StoredFile.withdraw_release_eq_self (apartFrom path file found)
  rw [releaseClient, unheld, spared]

/-- Leaving comes to the same as closing all files: each one at least once, in
any order. -/
theorem run_closings_of_covers {paths : List String}
    (covers : store.table.keys ⊆ paths) :
    store.run (closings client paths) = (store.releaseClient client).2 ∧
      (store.answers (closings client paths)).countP StoreAnswer.freesLock =
        (store.releaseClient client).1 := by
  have same := store.releaseClient_snd_run_closings client paths
  have counted := store.releaseClient_fst_run_closings client paths
  rw [releaseClient_of_not_involves
    (store.not_involves_run_closings client covers)] at same counted
  exact ⟨same, counted⟩

/-- A client that leaves a store, whatever state it is in, leaves it as if it
had closed every stored file once, in whichever order, and it gives up as many
locks as there are closings that give one up.  Then it owns no file and waits
for none.  Of every file its lock is gone if it held it, and it is missing from
the queue, in which the others stand as they stood; the rest of the file and
the rest of the store are what they were.  To leave a second time gives up
nothing and changes nothing. -/
theorem leaving_is_closing_every_file (store : Store) (client : ClientId) :
    let locks := (store.releaseClient client).1
    let left := (store.releaseClient client).2
    (∀ paths, paths.Perm store.table.keys →
      store.run (closings client paths) = left ∧
        (store.answers (closings client paths)).countP
          StoreAnswer.freesLock = locks) ∧
    (∀ path file, left.file? path = some file →
      file.owner ≠ some client ∧ client ∉ file.waiters) ∧
    (∀ path, left.file? path = (store.file? path).map fun file =>
      { file with
        owner := if file.owner = some client then none else file.owner
        waiters := file.waiters.filter (· ≠ client) }) ∧
    left = { store with table := left.table } ∧
    left.releaseClient client = (0, left) := by
  intro locks left
  have gone : ¬ left.Involves client := store.not_involves_releaseClient client
  refine ⟨?_, ?_, ?_, (store.sameButLocks_releaseClient client).frame,
    releaseClient_of_not_involves gone⟩
  · intro paths every
    exact run_closings_of_covers fun path stored => every.mem_iff.mpr stored
  · intro path file found
    exact ⟨fun held => gone ⟨path, file, found, Or.inl held⟩,
      fun waits => gone ⟨path, file, found, Or.inr waits⟩⟩
  · intro path
    simp only [left, file?_releaseClient, StoredFile.withdraw_release_eq]

/-- Client 1 holds two locks and stands between two others in the queue for a
third; it closes the third file first. -/
theorem closing_three_files_is_leaving :
    let store := (new {}).run
      [.create "a" 1 true, .create "b" 1 true, .create "c" 2 true,
        .lock "a" 3, .lock "c" 4, .lock "c" 1, .lock "c" 3]
    ["c", "a", "b"].Perm store.table.keys ∧
      store.run (closings 1 ["c", "a", "b"]) = (store.releaseClient 1).2 ∧
      (store.answers (closings 1 ["c", "a", "b"])).countP
        StoreAnswer.freesLock = 2 ∧
      (store.releaseClient 1).1 = 2 ∧
      (store.releaseClient 1).2.file? "a" = some { waiters := [3] } ∧
      (store.releaseClient 1).2.file? "c" =
        some { owner := some 2, waiters := [4, 3] } := by
  intro store
  have every : ["c", "a", "b"].Perm store.table.keys := by decide
  obtain ⟨closes, -, files, -⟩ := leaving_is_closing_every_file store 1
  obtain ⟨same, counted⟩ := closes _ every
  have two : (store.releaseClient 1).1 = 2 := by decide
  refine ⟨every, same, counted.trans two, two, ?_, ?_⟩
  · rw [files]
    decide
  · rw [files]
    decide

end Store

end FileDepot
