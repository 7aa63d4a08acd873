import FileDepot.Proofs.IndexLaws
import FileDepot.Store.Locks

/-!
# The table of a store

What a store finds at each path after a file was added, taken out or changed,
and the relation between stores that differ in nothing but locks.
-/

namespace FileDepot

namespace Store

@[simp] theorem file?_insert (store : Store) (path other : String)
    (file : StoredFile) :
    (store.insert path file).file? other =
      if other = path then some file else store.file? other :=
  store.table.find?_insert path other file

theorem file?_update (store : Store) (path other : String)
    (file : StoredFile) :
    (store.update path file).file? other =
      if other = path then (store.file? other).map fun _ => file
      else store.file? other :=
  store.table.find?_modify path other fun _ => file

theorem file?_update_of_found {store : Store} {path : String}
    {old : StoredFile} (found : store.file? path = some old)
    (other : String) (file : StoredFile) :
    (store.update path file).file? other =
      if other = path then some file else store.file? other := by
  rw [file?_update]
  by_cases same : other = path
  · simp [same, found]
  · simp [same]

theorem take_eq_some_iff {store smaller : Store} {path : String}
    {file : StoredFile} :
    store.take path = some (file, smaller) ↔
      store.file? path = some file ∧
        smaller = { store with
          table := store.table.erase path
          order := store.order.erase path
          fileCount := store.fileCount - 1
          byteCount := store.byteCount - file.size } := by
  cases found : store.file? path with
  | none => simp [take, found]
  | some present =>
      simp only [take, found, Option.map_some, Option.some.injEq,
        Prod.mk.injEq]
      constructor
      · rintro ⟨rfl, rfl⟩
        exact ⟨rfl, rfl⟩
      · rintro ⟨rfl, rfl⟩
        exact ⟨rfl, rfl⟩

theorem take_eq_none_iff {store : Store} {path : String} :
    store.take path = none ↔ store.file? path = none := by
  simp [take]

theorem file?_of_take {store smaller : Store} {path : String}
    {file : StoredFile} (taken : store.take path = some (file, smaller))
    (other : String) :
    smaller.file? other =
      if other = path then none else store.file? other := by
  obtain ⟨-, rfl⟩ := take_eq_some_iff.mp taken
  exact store.table.find?_erase path other

theorem contains_iff (store : Store) {path : String} :
    store.table.contains path = true ↔ ∃ file, store.file? path = some file :=
  store.table.contains_iff

theorem contains_eq_false_iff (store : Store) {path : String} :
    store.table.contains path = false ↔ store.file? path = none :=
  store.table.contains_eq_false_iff

end Store

/-- A file without its lock: its content, and whether it was never written. -/
def StoredFile.unlockedPart (file : StoredFile) : Bytes × Bool :=
  (file.content, file.unwritten)

namespace StoredFile

@[simp] theorem unlockedPart_lock (file : StoredFile) (client : ClientId) :
    (file.lock client).2.unlockedPart = file.unlockedPart := by
  unfold lock
  split
  · rfl
  · split
    · rfl
    · split <;> rfl

@[simp] theorem unlockedPart_release (file : StoredFile) (client : ClientId) :
    (file.release client).unlockedPart = file.unlockedPart := by
  unfold release
  split <;> rfl

@[simp] theorem unlockedPart_withdraw (file : StoredFile) (client : ClientId) :
    (file.withdraw client).unlockedPart = file.unlockedPart :=
  rfl

theorem grantNext_eq_some_iff {file granted : StoredFile} {next : ClientId} :
    file.grantNext = some (next, granted) ↔
      ∃ rest, file.owner = none ∧ file.waiters = next :: rest ∧
        granted = { file with owner := some next, waiters := rest } := by
  unfold grantNext
  split
  · rename_i first rest free waiting
    simp only [Option.some.injEq, Prod.mk.injEq, free, waiting,
      List.cons.injEq, true_and]
    constructor
    · rintro ⟨rfl, rfl⟩
      exact ⟨rest, ⟨rfl, rfl⟩, rfl⟩
    · rintro ⟨tail, ⟨rfl, rfl⟩, rfl⟩
      exact ⟨rfl, rfl⟩
  · rename_i other
    constructor
    · intro impossible
      cases impossible
    · rintro ⟨rest, free, waiting, -⟩
      exact (other next rest free waiting).elim

theorem grantNext_eq_none_iff {file : StoredFile} :
    file.grantNext = none ↔ file.owner = none → file.waiters = [] := by
  unfold grantNext
  split
  · rename_i first rest free waiting
    simp [free, waiting]
  · rename_i other
    simp only [true_iff]
    intro free
    cases waiting : file.waiters with
    | nil => rfl
    | cons first rest => exact (other first rest free waiting).elim

theorem unlockedPart_grantNext {file granted : StoredFile} {next : ClientId}
    (handed : file.grantNext = some (next, granted)) :
    granted.unlockedPart = file.unlockedPart := by
  obtain ⟨rest, -, -, rfl⟩ := grantNext_eq_some_iff.mp handed
  rfl

end StoredFile

namespace Store

/-- The files of a store without their locks. -/
def unlockedParts (store : Store) : List (String × Bytes × Bool) :=
  store.table.entries.map fun entry => (entry.1, entry.2.unlockedPart)

/-- Two stores differ in nothing but the locks of their files. -/
structure SameButLocks (before after : Store) : Prop where
  frame : after = { before with table := after.table }
  files : after.unlockedParts = before.unlockedParts

namespace SameButLocks

theorem refl (store : Store) : SameButLocks store store :=
  ⟨rfl, rfl⟩

theorem trans {first second third : Store}
    (earlier : SameButLocks first second)
    (later : SameButLocks second third) : SameButLocks first third where
  frame := by
    rw [later.frame, earlier.frame]
  files := later.files.trans earlier.files

/-- Changing the lock of one file changes nothing else. -/
theorem update {store : Store} {path : String} {old new : StoredFile}
    (found : store.file? path = some old)
    (same : new.unlockedPart = old.unlockedPart) :
    SameButLocks store (store.update path new) where
  frame := rfl
  files := by
    simp only [unlockedParts, Store.update, Index.modify, List.map_map]
    apply List.map_congr_left
    intro entry listed
    by_cases here : entry.1 = path
    · have present : store.file? entry.1 = some entry.2 :=
        store.table.find?_eq_some_iff.mpr listed
      rw [here, found, Option.some.injEq] at present
      simp [here, same, present]
    · simp [here]

theorem mapValues {store : Store} {change : StoredFile → StoredFile}
    (same : ∀ file, (change file).unlockedPart = file.unlockedPart) :
    SameButLocks store
      { store with table := store.table.mapValues change } where
  frame := rfl
  files := by
    simp [unlockedParts, Index.mapValues, Function.comp_def, same]

section Consequences

variable {before after : Store} (same : SameButLocks before after)

include same

theorem order_eq : after.order = before.order := by
  rw [same.frame]

theorem limits_eq : after.limits = before.limits := by
  rw [same.frame]

theorem fileCount_eq : after.fileCount = before.fileCount := by
  rw [same.frame]

theorem byteCount_eq : after.byteCount = before.byteCount := by
  rw [same.frame]

theorem size_eq : after.table.size = before.table.size := by
  simpa [unlockedParts, Index.size] using congrArg List.length same.files

theorem total_eq :
    after.table.total StoredFile.size = before.table.total StoredFile.size := by
  apply Index.totalOf_congr
  have sizes := congrArg
    (List.map fun part : String × Bytes × Bool => part.2.1.length) same.files
  simpa [unlockedParts, Function.comp_def, StoredFile.unlockedPart,
    StoredFile.size] using sizes

theorem contains_eq (path : String) :
    after.table.contains path = before.table.contains path := by
  have keys : after.table.keys = before.table.keys := by
    have paths := congrArg
      (List.map fun part : String × Bytes × Bool => part.1) same.files
    simpa [unlockedParts, Function.comp_def, Index.keys] using paths
  rw [Bool.eq_iff_iff, ← Index.mem_keys_iff, ← Index.mem_keys_iff, keys]

theorem file?_of_after {path : String} {file : StoredFile}
    (found : after.file? path = some file) :
    ∃ old, before.file? path = some old ∧
      old.unlockedPart = file.unlockedPart := by
  have listed : (path, file.unlockedPart) ∈ after.unlockedParts :=
    List.mem_map.mpr
      ⟨(path, file), after.table.find?_eq_some_iff.mp found, rfl⟩
  rw [same.files] at listed
  obtain ⟨⟨other, old⟩, present, equal⟩ := List.mem_map.mp listed
  simp only [Prod.mk.injEq] at equal
  obtain ⟨rfl, parts⟩ := equal
  exact ⟨old, before.table.find?_eq_some_iff.mpr present, parts⟩

end Consequences

end SameButLocks

end Store

end FileDepot
