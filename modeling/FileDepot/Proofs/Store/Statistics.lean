import FileDepot.Proofs.Store.HeldLocks

/-!
# The statistics of a run

The statistics of a store are a ledger of its run.  The marks are the most
files and the most bytes of all states of the run, neither more nor less, and
every file that was created is still there, was expelled, or was removed.
-/

namespace FileDepot

/-- Whether an operation created a file, as its answer tells. -/
def StoreOperation.creates : StoreOperation → StoreAnswer → Bool
  | create _ _ _, .stored (.ok _) => true
  | _, _ => false

/-- Whether an operation removed a file, as its answer tells. -/
def StoreOperation.removes : StoreOperation → StoreAnswer → Bool
  | remove _ _, .removed (.ok _) => true
  | _, _ => false

theorem max?_append_singleton {numbers : List Nat} {most : Nat}
    (greatest : numbers.max? = some most) (number : Nat) :
    (numbers ++ [number]).max? = some (max most number) := by
  rw [List.max?_eq_some_iff] at greatest ⊢
  obtain ⟨reached, bounds⟩ := greatest
  constructor
  · rcases Nat.le_total number most with below | above
    · rw [Nat.max_eq_left below]
      exact List.mem_append_left _ reached
    · rw [Nat.max_eq_right above]
      exact List.mem_append_right _ (by simp)
  · intro other listed
    rcases List.mem_append.mp listed with earlier | last
    · exact Nat.le_trans (bounds other earlier) (Nat.le_max_left _ _)
    · rw [List.mem_singleton.mp last]
      exact Nat.le_max_right _ _

namespace Store

/-- The states that a run leaves behind, one after each operation. -/
def trail : List StoreOperation → Store → List Store
  | [], _ => []
  | operation :: later, store =>
      (store.perform operation).2 :: trail later (store.perform operation).2

/-- All states of a run, from the first on. -/
def states (operations : List StoreOperation) (store : Store) : List Store :=
  store :: store.trail operations

/-- The operations of a run with their answers. -/
def log (operations : List StoreOperation) (store : Store) :
    List (StoreOperation × StoreAnswer) :=
  operations.zip (answers operations store)

/-! ## What one operation adds -/

/-- So many files were expelled, and nothing else was counted. -/
structure Expels (before : Store) (expelled : Nat) (after : Store) : Prop where
  fileCount : after.fileCount + expelled = before.fileCount
  byteCount : after.byteCount ≤ before.byteCount
  evictions : after.evictions = before.evictions + expelled
  mostFiles : after.mostFiles = before.mostFiles
  mostBytes : after.mostBytes = before.mostBytes

theorem Consistent.expels (victims : List String) {store : Store}
    (consistent : store.Consistent) :
    Expels store (Store.evict victims store).1.files.length
      (Store.evict victims store).2 := by
  induction victims generalizing store with
  | nil => exact ⟨rfl, Nat.le_refl _, rfl, rfl, rfl⟩
  | cons victim others ih =>
      cases taken : store.take victim with
      | none =>
          rw [evict_cons_of_absent (take_eq_none_iff.mp taken)]
          exact ih consistent
      | some removed =>
          rcases removed with ⟨file, smaller⟩
          obtain ⟨kept, counted, weighed⟩ := consistent.take taken
          have rest := ih (kept.countEvictions (smaller.evictions + 1))
          obtain ⟨-, rfl⟩ := take_eq_some_iff.mp taken
          have files := rest.fileCount
          have bytes := rest.byteCount
          have evictions := rest.evictions
          rw [evict_cons_of_take taken]
          simp only [List.length_cons] at files bytes evictions counted ⊢
          refine ⟨?_, ?_, ?_, rest.mostFiles, rest.mostBytes⟩
          · omega
          · exact Nat.le_trans bytes (Nat.sub_le _ _)
          · omega

/-- What an operation adds to the books: files that came, went or were
expelled, and marks that follow the counters up. -/
structure Adds (before : Store) (came went expelled : Nat) (after : Store) :
    Prop where
  fileCount : after.fileCount + expelled + went = before.fileCount + came
  evictions : after.evictions = before.evictions + expelled
  mostFiles : after.mostFiles = max before.mostFiles after.fileCount
  mostBytes : after.mostBytes = max before.mostBytes after.byteCount

/-- The marks of a store are at least as high as its counters. -/
structure Marked (store : Store) : Prop where
  files : store.fileCount ≤ store.mostFiles
  bytes : store.byteCount ≤ store.mostBytes

section Adding

variable {store : Store} (marked : store.Marked)

include marked

theorem Marked.adds_nothing : Adds store 0 0 0 store where
  fileCount := rfl
  evictions := rfl
  mostFiles := (Nat.max_eq_left marked.files).symm
  mostBytes := (Nat.max_eq_left marked.bytes).symm

theorem Marked.adds_of_sameButLocks {after : Store}
    (same : SameButLocks store after) : Adds store 0 0 0 after := by
  have nothing := marked.adds_nothing
  rw [same.frame]
  exact ⟨nothing.fileCount, nothing.evictions, nothing.mostFiles,
    nothing.mostBytes⟩

/-- A file that is created behind an eviction counts, and the victims do
not. -/
theorem Marked.adds_created {smaller : Store} {expelled : Nat}
    (expels : Expels store expelled smaller) (path : String)
    (owner : Option ClientId) :
    Adds store 1 0 expelled (smaller.insert path (.created owner)) := by
  have files := expels.fileCount
  have bytes := expels.byteCount
  have markedBytes := marked.bytes
  constructor
  · simp only [insert]
    omega
  · exact expels.evictions
  · simp only [insert, expels.mostFiles]
  · simp only [insert, expels.mostBytes]

/-- Content that is written behind an eviction raises the mark of bytes, but
not that of files. -/
theorem Marked.adds_written {smaller : Store} {expelled : Nat}
    (expels : Expels store expelled smaller) (path : String)
    (file : StoredFile) (content : Bytes) :
    Adds store 0 0 expelled (smaller.written path file content) := by
  have files := expels.fileCount
  have markedFiles := marked.files
  constructor
  · simp only [written, update]
    omega
  · exact expels.evictions
  · simp only [written, update, expels.mostFiles]
    omega
  · simp only [written, update, expels.mostBytes]

theorem Marked.adds_removed (consistent : store.Consistent) {path : String}
    {file : StoredFile} {smaller : Store}
    (taken : store.take path = some (file, smaller)) :
    Adds store 0 1 0 smaller := by
  obtain ⟨-, counted, weighed⟩ := consistent.take taken
  obtain ⟨-, rfl⟩ := take_eq_some_iff.mp taken
  have markedFiles := marked.files
  have markedBytes := marked.bytes
  dsimp only at counted weighed
  constructor
  · dsimp only
    omega
  · rfl
  · dsimp only
    omega
  · dsimp only
    omega

/-- Every operation adds to the books what its answer tells. -/
theorem Marked.adds_perform (consistent : store.Consistent)
    (operation : StoreOperation) :
    Adds store (operation.creates (store.perform operation).1).toNat
      (operation.removes (store.perform operation).1).toNat
      (store.perform operation).1.evictedFiles.length
      (store.perform operation).2 := by
  cases only : operation.onlyLocks with
  | true =>
      have same := sameButLocks_perform store only
      cases operation with
      | create | write | remove => cases only
      | _ => exact marked.adds_of_sameButLocks same
  | false =>
      cases operation with
      | create path client lock =>
          rcases create_cases store path client lock with
            ⟨error, goes⟩ | ⟨-, -, goes⟩ | ⟨victims, -, -, -, -, goes⟩
          · rw [perform, goes]
            exact marked.adds_nothing
          · rw [perform, goes]
            exact marked.adds_created (consistent.expels []) path _
          · rw [perform, goes]
            exact marked.adds_created (consistent.expels victims) path _
      | write path client content =>
          rcases write_cases store path client content with
            ⟨error, goes⟩ | ⟨file, victims, -, -, -, -, -, -, goes⟩
          · rw [perform, goes]
            exact marked.adds_nothing
          · rw [perform, goes]
            exact marked.adds_written (consistent.expels victims) path file
              content
      | remove path client =>
          rcases remove_cases store path client with
            ⟨error, goes⟩ | ⟨file, smaller, -, -, taken, goes⟩
          · rw [perform, goes]
            exact marked.adds_nothing
          · rw [perform, goes]
            exact marked.adds_removed consistent taken
      | _ => cases only

end Adding

/-! ## The ledger -/

/-- The statistics of a store are what its past says. -/
structure Ledger (past : List Store)
    (log : List (StoreOperation × StoreAnswer)) (store : Store) : Prop where
  present : store ∈ past
  mostFiles : (past.map fun state => state.table.size).max? =
    some store.mostFiles
  mostBytes : (past.map actualBytes).max? = some store.mostBytes
  mostFiles_le : store.mostFiles ≤ store.limits.maxFiles
  mostBytes_le : store.mostBytes ≤ store.limits.maxBytes
  evictions : store.evictions = (log.flatMap (·.2.evictedFiles)).length
  created : log.countP (fun entry => entry.1.creates entry.2) =
    store.fileCount + store.evictions +
      log.countP fun entry => entry.1.removes entry.2

theorem ledger_new (limits : Limits) :
    (new limits).Ledger [new limits] [] where
  present := List.mem_singleton_self _
  mostFiles := rfl
  mostBytes := rfl
  mostFiles_le := Nat.zero_le _
  mostBytes_le := Nat.zero_le _
  evictions := rfl
  created := rfl

namespace Ledger

variable {past : List Store} {log : List (StoreOperation × StoreAnswer)}
  {store : Store} (ledger : store.Ledger past log) (sound : store.Sound)

include ledger sound

theorem marked : store.Marked where
  files := by
    have bounds := (List.max?_eq_some_iff.mp ledger.mostFiles).2
    rw [sound.consistent.fileCount_eq]
    exact bounds _ (List.mem_map_of_mem ledger.present)
  bytes := by
    have bounds := (List.max?_eq_some_iff.mp ledger.mostBytes).2
    rw [sound.consistent.byteCount_eq]
    exact bounds _ (List.mem_map_of_mem ledger.present)

theorem perform (operation : StoreOperation) :
    (store.perform operation).2.Ledger
      (past ++ [(store.perform operation).2])
      (log ++ [(operation, (store.perform operation).1)]) := by
  have adds := (ledger.marked sound).adds_perform sound.consistent operation
  have after := sound.perform operation
  have sameLimits := store.limits_perform operation
  constructor
  · simp
  · rw [List.map_append, adds.mostFiles, after.consistent.fileCount_eq]
    exact max?_append_singleton ledger.mostFiles _
  · rw [List.map_append, adds.mostBytes, after.consistent.byteCount_eq]
    exact max?_append_singleton ledger.mostBytes _
  · rw [adds.mostFiles, sameLimits]
    have within := after.within.fileCount_le
    rw [sameLimits] at within
    exact Nat.max_le.mpr ⟨ledger.mostFiles_le, within⟩
  · rw [adds.mostBytes, sameLimits]
    have within := after.within.byteCount_le
    rw [sameLimits] at within
    exact Nat.max_le.mpr ⟨ledger.mostBytes_le, within⟩
  · rw [adds.evictions, ledger.evictions]
    simp
  · have created := ledger.created
    have evictions := adds.evictions
    have fileCount := adds.fileCount
    have counted (happened : Bool) :
        happened.toNat = if happened then 1 else 0 :=
      Bool.cond_eq_ite happened 1 0
    simp only [counted] at fileCount
    simp only [List.countP_append, List.countP_singleton]
    omega

theorem run (operations : List StoreOperation) :
    (store.run operations).Ledger (past ++ store.trail operations)
      (log ++ store.log operations) := by
  induction operations generalizing past log store with
  | nil => simpa [trail, Store.log, Store.run] using ledger
  | cons operation later ih =>
      have rest := ih (ledger.perform sound operation)
        (sound.perform operation)
      simpa [trail, Store.log, answers, Store.run] using rest

end Ledger

/-- In every state of every run, the marks are the most files and the most
bytes of all states so far, and within the limits; the number of evictions is
that of the files that were handed out; and the files that were created are
those that are there, those that were expelled, and those that were removed. -/
theorem statistics_are_a_ledger (limits : Limits)
    (operations : List StoreOperation) :
    let store := (new limits).run operations
    let states := (new limits).states operations
    let log := (new limits).log operations
    (states.map fun state => state.table.size).max? =
        some store.stats.mostFiles ∧
      (states.map actualBytes).max? = some store.stats.mostBytes ∧
      store.stats.mostFiles ≤ limits.maxFiles ∧
      store.stats.mostBytes ≤ limits.maxBytes ∧
      store.stats.evictions = (log.flatMap (·.2.evictedFiles)).length ∧
      log.countP (fun entry => entry.1.creates entry.2) =
        store.table.size + store.stats.evictions +
          log.countP fun entry => entry.1.removes entry.2 := by
  intro store states log
  have ledger : store.Ledger states log :=
    (ledger_new limits).run (sound_new limits) operations
  have sound : store.Sound := (sound_new limits).run operations
  have sameLimits : store.limits = limits := limits_run operations _
  refine ⟨ledger.mostFiles, ledger.mostBytes, ?_, ?_, ledger.evictions, ?_⟩
  · exact sameLimits ▸ ledger.mostFiles_le
  · exact sameLimits ▸ ledger.mostBytes_le
  · rw [← sound.consistent.fileCount_eq]
    exact ledger.created

end Store

end FileDepot
