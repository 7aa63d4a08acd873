import FileDepot.Proofs.Store.FileOperations
import FileDepot.Proofs.Store.LockOperations
import FileDepot.Proofs.Store.Operations
import FileDepot.Store.Audit

/-!
# The books of a store

A store keeps its files in a table, their order in a list, and their number
and size in counters.  The four agree in every run, whatever fails in it, and
the limits hold.  Writing counts the whole content of a file, which is right
because only files that are still empty are written.
-/

namespace FileDepot

namespace Store

/-- The views that a store keeps of its files agree. -/
structure Consistent (store : Store) : Prop where
  order_nodup : store.order.Nodup
  mem_order_iff (path : String) :
    path ∈ store.order ↔ store.table.contains path = true
  fileCount_eq : store.fileCount = store.table.size
  byteCount_eq : store.byteCount = store.table.total StoredFile.size
  unwritten_iff {path : String} {file : StoredFile} :
    store.file? path = some file →
      (file.unwritten = true ↔ file.content = [])

/-- The counters of a store stay within its limits. -/
structure WithinLimits (store : Store) : Prop where
  fileCount_le : store.fileCount ≤ store.limits.maxFiles
  byteCount_le : store.byteCount ≤ store.limits.maxBytes

/-- The books of a store are in order. -/
structure Sound (store : Store) : Prop where
  consistent : store.Consistent
  within : store.WithinLimits

theorem sound_new (limits : Limits) : (new limits).Sound where
  consistent :=
    { order_nodup := List.nodup_nil
      mem_order_iff := fun path => by simp [new, Index.contains]
      fileCount_eq := rfl
      byteCount_eq := rfl
      unwritten_iff := fun found => by simp [new, file?] at found }
  within := ⟨Nat.zero_le _, Nat.zero_le _⟩

namespace Consistent

theorem mem_order_iff_exists {store : Store} (consistent : store.Consistent)
    (path : String) :
    path ∈ store.order ↔ ∃ file, store.file? path = some file := by
  rw [consistent.mem_order_iff, contains_iff]

theorem size_eq_zero {store : Store} (consistent : store.Consistent)
    {path : String} {file : StoredFile}
    (found : store.file? path = some file)
    (unwritten : file.unwritten = true) : file.size = 0 := by
  have empty := (consistent.unwritten_iff found).mp unwritten
  simp [StoredFile.size, empty]

/-- The books agree for one file less, and both counters go down by it. -/
theorem take {store smaller : Store} (consistent : store.Consistent)
    {path : String} {file : StoredFile}
    (taken : store.take path = some (file, smaller)) :
    smaller.Consistent ∧ smaller.fileCount + 1 = store.fileCount ∧
      smaller.byteCount + file.size = store.byteCount := by
  have finds := file?_of_take taken
  obtain ⟨found, equal⟩ := take_eq_some_iff.mp taken
  have sized := store.table.size_erase_found found
  have totalled := store.table.total_erase_found StoredFile.size found
  have counted := consistent.fileCount_eq
  have weighed := consistent.byteCount_eq
  refine ⟨?_, ?_, ?_⟩
  · constructor
    · rw [equal]
      exact consistent.order_nodup.erase path
    · intro other
      rw [contains_iff, finds, equal, consistent.order_nodup.mem_erase_iff,
        consistent.mem_order_iff_exists]
      by_cases same : other = path <;> simp [same]
    · rw [equal]
      simp only
      omega
    · rw [equal]
      simp only
      omega
    · intro other present foundOther
      rw [finds] at foundOther
      by_cases same : other = path
      · simp [same] at foundOther
      · rw [if_neg same] at foundOther
        exact consistent.unwritten_iff foundOther
  · rw [equal]
    simp only
    omega
  · rw [equal]
    simp only
    omega

theorem insert {store : Store} (consistent : store.Consistent)
    {path : String} {file : StoredFile} (absent : store.file? path = none)
    (fresh : file.unwritten = true ↔ file.content = []) :
    (store.insert path file).Consistent where
  order_nodup := by
    have unlisted : path ∉ store.order := by
      rw [consistent.mem_order_iff_exists, absent]
      simp
    refine List.nodup_append.mpr
      ⟨consistent.order_nodup, by simp, ?_⟩
    intro listed member other memberOther same
    rw [List.mem_singleton.mp memberOther] at same
    exact unlisted (same ▸ member)
  mem_order_iff := by
    intro other
    rw [contains_iff, file?_insert]
    simp only [Store.insert, List.mem_append, List.mem_singleton,
      consistent.mem_order_iff_exists]
    by_cases same : other = path <;> simp [same]
  fileCount_eq := by
    have sized := store.table.size_insert_absent file absent
    have counted := consistent.fileCount_eq
    simp only [Store.insert]
    omega
  byteCount_eq := by
    have totalled :=
      store.table.total_insert_absent file StoredFile.size absent
    have weighed := consistent.byteCount_eq
    simp only [Store.insert]
    omega
  unwritten_iff := by
    intro other present found
    rw [file?_insert] at found
    by_cases same : other = path
    · rw [if_pos same, Option.some.injEq] at found
      exact found ▸ fresh
    · rw [if_neg same] at found
      exact consistent.unwritten_iff found

theorem of_sameButLocks {before after : Store}
    (consistent : before.Consistent) (same : SameButLocks before after) :
    after.Consistent where
  order_nodup := by
    rw [same.order_eq]
    exact consistent.order_nodup
  mem_order_iff := by
    intro path
    rw [same.order_eq, same.contains_eq, consistent.mem_order_iff]
  fileCount_eq := by
    rw [same.fileCount_eq, same.size_eq, consistent.fileCount_eq]
  byteCount_eq := by
    rw [same.byteCount_eq, same.total_eq, consistent.byteCount_eq]
  unwritten_iff := by
    intro path file found
    obtain ⟨old, foundOld, parts⟩ := same.file?_of_after found
    simp only [StoredFile.unlockedPart, Prod.mk.injEq] at parts
    rw [← parts.1, ← parts.2]
    exact consistent.unwritten_iff foundOld

theorem countEvictions {store : Store} (consistent : store.Consistent)
    (evictions : Nat) : { store with evictions }.Consistent :=
  ⟨consistent.order_nodup, consistent.mem_order_iff, consistent.fileCount_eq,
    consistent.byteCount_eq, consistent.unwritten_iff⟩

end Consistent

theorem bytesAt_congr {first second : Store} {paths : List String}
    (same : ∀ path ∈ paths, first.file? path = second.file? path) :
    first.bytesAt paths = second.bytesAt paths := by
  induction paths with
  | nil => rfl
  | cons path others ih =>
      have here := same path (by simp)
      have there := ih fun other member => same other (by simp [member])
      simp only [bytesAt, sizeAt, here, there]

/-- Evicting stored files keeps the books, and both counters go down by the
victims. -/
theorem Consistent.evict {victims : List String} (nodup : victims.Nodup)
    {store : Store} (consistent : store.Consistent)
    (stored : ∀ victim ∈ victims, ∃ file, store.file? victim = some file) :
    (Store.evict victims store).2.Consistent ∧
      (Store.evict victims store).2.fileCount + victims.length =
        store.fileCount ∧
      (Store.evict victims store).2.byteCount + store.bytesAt victims =
        store.byteCount := by
  induction victims generalizing store with
  | nil => exact ⟨consistent, rfl, rfl⟩
  | cons victim others ih =>
      obtain ⟨notAgain, othersNodup⟩ := List.nodup_cons.mp nodup
      obtain ⟨file, found⟩ := stored victim (by simp)
      obtain ⟨smaller, taken⟩ : ∃ smaller,
          store.take victim = some (file, smaller) :=
        ⟨_, take_eq_some_iff.mpr ⟨found, rfl⟩⟩
      obtain ⟨smallerConsistent, counted, weighed⟩ := consistent.take taken
      have kept (other : String) (among : other ∈ others) :
          smaller.file? other = store.file? other := by
        have different : other ≠ victim := fun same =>
          notAgain (same ▸ among)
        rw [file?_of_take taken, if_neg different]
      have sameBytes : smaller.bytesAt others = store.bytesAt others :=
        bytesAt_congr kept
      have rest := ih othersNodup
        (smallerConsistent.countEvictions (smaller.evictions + 1))
        fun other among => by
          obtain ⟨present, foundOther⟩ := stored other (by simp [among])
          exact ⟨present, (kept other among).trans foundOther⟩
      have sameBytesCounted :
          bytesAt { smaller with evictions := smaller.evictions + 1 } others =
            smaller.bytesAt others :=
        bytesAt_congr fun _ _ => rfl
      obtain ⟨afterConsistent, afterCounted, afterWeighed⟩ := rest
      rw [sameBytesCounted, sameBytes] at afterWeighed
      rw [evict_cons_of_take taken]
      simp only at afterCounted afterWeighed ⊢
      refine ⟨afterConsistent, ?_, ?_⟩
      · rw [List.length_cons]
        omega
      · simp only [bytesAt, sizeAt, found]
        omega

theorem Consistent.victims_nodup {store : Store} (consistent : store.Consistent)
    {requester : ClientId} {spared : Option String} {need : Shortfall}
    {victims : List String}
    (planned : store.planVictims requester spared need = some victims) :
    victims.Nodup :=
  consistent.order_nodup.sublist (chooseVictims_sublist planned)

/-- Evicting a planned choice keeps the books and frees what was wanted. -/
theorem Consistent.evict_planned {store : Store}
    (consistent : store.Consistent) {requester : ClientId}
    {spared : Option String} {need : Shortfall} {victims : List String}
    (planned : store.planVictims requester spared need = some victims) :
    (Store.evict victims store).2.Consistent ∧
      (Store.evict victims store).2.fileCount + need.files ≤
        store.fileCount ∧
      (Store.evict victims store).2.byteCount + need.bytes ≤
        store.byteCount := by
  have frees := chooseVictims_frees planned
  obtain ⟨kept, counted, weighed⟩ :=
    consistent.evict (consistent.victims_nodup planned) fun victim member => by
      obtain ⟨-, file, found, -⟩ := chooseVictims_eligible planned member
      exact ⟨file, found⟩
  refine ⟨kept, ?_, ?_⟩ <;> omega

theorem Consistent.written {store : Store} (consistent : store.Consistent)
    {path : String} {file : StoredFile} {content : Bytes}
    (found : store.file? path = some file) (unwritten : file.unwritten = true)
    (nonempty : content ≠ []) :
    (store.written path file content).Consistent where
  order_nodup := consistent.order_nodup
  mem_order_iff := by
    intro other
    simp only [Store.written, update, Index.contains_modify]
    exact consistent.mem_order_iff other
  fileCount_eq := by
    simp only [Store.written, update, Index.size_modify]
    exact consistent.fileCount_eq
  byteCount_eq := by
    have replaced := store.table.total_modify path (file.fill content) file
      StoredFile.size found
    have wasEmpty := consistent.size_eq_zero found unwritten
    have weighed := consistent.byteCount_eq
    have filled : (file.fill content).size = content.length := rfl
    simp only [Store.written, update]
    omega
  unwritten_iff := by
    intro other present foundOther
    change (store.update path (file.fill content)).file? other = _
      at foundOther
    rw [file?_update_of_found found] at foundOther
    by_cases same : other = path
    · rw [if_pos same, Option.some.injEq] at foundOther
      simp [← foundOther, StoredFile.fill, nonempty]
    · rw [if_neg same] at foundOther
      exact consistent.unwritten_iff foundOther

namespace Sound

theorem of_sameButLocks {before after : Store} (sound : before.Sound)
    (same : SameButLocks before after) : after.Sound where
  consistent := sound.consistent.of_sameButLocks same
  within :=
    { fileCount_le := by
        rw [same.fileCount_eq, same.limits_eq]
        exact sound.within.fileCount_le
      byteCount_le := by
        rw [same.byteCount_eq, same.limits_eq]
        exact sound.within.byteCount_le }

theorem insert_created {store : Store} (consistent : store.Consistent)
    {path : String} (absent : store.file? path = none)
    (room : store.fileCount < store.limits.maxFiles)
    (fits : store.byteCount ≤ store.limits.maxBytes)
    (owner : Option ClientId) :
    (store.insert path (.created owner)).Sound where
  consistent := consistent.insert absent (by simp [StoredFile.created])
  within := ⟨room, fits⟩

theorem create {store : Store} (sound : store.Sound) (path : String)
    (client : ClientId) (lock : Bool) :
    (store.create path client lock).2.Sound := by
  have filesWithin := sound.within.fileCount_le
  have bytesWithin := sound.within.byteCount_le
  rcases create_cases store path client lock with
    ⟨error, failed⟩ | ⟨absent, room, goes⟩ |
      ⟨victims, absent, full, -, planned, goes⟩
  · rw [failed]
    exact sound
  · rw [goes]
    exact insert_created sound.consistent absent room bytesWithin _
  · obtain ⟨kept, freedFiles, freedBytes⟩ :=
      sound.consistent.evict_planned planned
    rw [goes]
    apply insert_created kept
    · rw [file?_evict, absent, ite_self]
    · rw [limits_evict]
      simp only at freedFiles
      omega
    · rw [limits_evict]
      omega

theorem write {store : Store} (sound : store.Sound) (path : String)
    (client : ClientId) (content : Bytes) :
    (store.write path client content).2.Sound := by
  rcases write_cases store path client content with
    ⟨error, failed⟩ |
      ⟨file, victims, found, nonempty, unwritten, -, -, makes, goes⟩
  · rw [failed]
    exact sound
  · have filesWithin := sound.within.fileCount_le
    have spared := not_mem_of_makesRoom makes
    have still : (evict victims store).2.file? path = some file := by
      rw [file?_evict, if_neg spared, found]
    obtain ⟨kept, fewer, fits⟩ : (evict victims store).2.Consistent ∧
        (evict victims store).2.fileCount ≤ store.fileCount ∧
        (evict victims store).2.byteCount + content.length ≤
          store.limits.maxBytes := by
      rcases makes with ⟨room, rfl⟩ | ⟨excess, -, planned⟩
      · exact ⟨sound.consistent, Nat.le_refl _, room⟩
      · obtain ⟨kept, freedFiles, freedBytes⟩ :=
          sound.consistent.evict_planned planned
        simp only at freedFiles freedBytes
        exact ⟨kept, by omega, by omega⟩
    rw [goes]
    refine ⟨kept.written still unwritten nonempty, ?_, ?_⟩
    · change (evict victims store).2.fileCount ≤
        (evict victims store).2.limits.maxFiles
      rw [limits_evict]
      omega
    · change (evict victims store).2.byteCount + content.length ≤
        (evict victims store).2.limits.maxBytes
      rw [limits_evict]
      exact fits

theorem remove {store : Store} (sound : store.Sound) (path : String)
    (client : ClientId) : (store.remove path client).2.Sound := by
  rcases remove_cases store path client with
    ⟨error, failed⟩ | ⟨file, smaller, -, -, taken, goes⟩
  · rw [failed]
    exact sound
  · obtain ⟨kept, counted, weighed⟩ := sound.consistent.take taken
    have filesWithin := sound.within.fileCount_le
    have bytesWithin := sound.within.byteCount_le
    have sameLimits : smaller.limits = store.limits := by
      rw [(take_eq_some_iff.mp taken).2]
    rw [goes]
    refine ⟨kept, ?_, ?_⟩
    · change smaller.fileCount ≤ smaller.limits.maxFiles
      rw [sameLimits]
      omega
    · change smaller.byteCount ≤ smaller.limits.maxBytes
      rw [sameLimits]
      omega

/-- No operation, whether it succeeds or fails, brings the books into
disorder. -/
theorem perform {store : Store} (sound : store.Sound)
    (operation : StoreOperation) : (store.perform operation).2.Sound := by
  cases only : operation.onlyLocks with
  | true => exact sound.of_sameButLocks (sameButLocks_perform store only)
  | false =>
      cases operation with
      | create path client lock => exact sound.create path client lock
      | write path client content => exact sound.write path client content
      | remove path client => exact sound.remove path client
      | _ => cases only

theorem run {store : Store} (sound : store.Sound)
    (operations : List StoreOperation) : (store.run operations).Sound :=
  run_preserves (fun _ operation kept => kept.perform operation) operations
    sound

end Sound

theorem limits_perform (store : Store) (operation : StoreOperation) :
    (store.perform operation).2.limits = store.limits := by
  cases only : operation.onlyLocks with
  | true => exact (sameButLocks_perform store only).limits_eq
  | false =>
      cases operation with
      | create path client lock =>
          rcases create_cases store path client lock with
            ⟨error, goes⟩ | ⟨-, -, goes⟩ | ⟨victims, -, -, -, -, goes⟩
          · simp [Store.perform, goes]
          · simp [Store.perform, goes, insert]
          · simp [Store.perform, goes, insert]
      | write path client content =>
          rcases write_cases store path client content with
            ⟨error, goes⟩ | ⟨file, victims, -, -, -, -, -, -, goes⟩
          · simp [Store.perform, goes]
          · simp [Store.perform, goes, written, update]
      | remove path client =>
          rcases remove_cases store path client with
            ⟨error, goes⟩ | ⟨file, smaller, -, -, taken, goes⟩
          · simp [Store.perform, goes]
          · simp [Store.perform, goes, (take_eq_some_iff.mp taken).2]
      | _ => cases only

theorem limits_run (operations : List StoreOperation) (store : Store) :
    (store.run operations).limits = store.limits := by
  have step (earlier : Store) (operation : StoreOperation)
      (kept : earlier.limits = store.limits) :
      (earlier.perform operation).2.limits = store.limits :=
    (limits_perform earlier operation).trans kept
  exact run_preserves step operations rfl

theorem Consistent.order_perm_keys {store : Store}
    (consistent : store.Consistent) :
    store.order.Perm store.table.keys := by
  refine (List.perm_ext_iff_of_nodup consistent.order_nodup
    store.table.nodup).mpr fun path => ?_
  exact (consistent.mem_order_iff path).trans store.table.mem_keys_iff.symm

theorem Sound.audit {store : Store} (sound : store.Sound) :
    store.audit = .ok () := by
  have weighed : store.byteCount = store.actualBytes :=
    sound.consistent.byteCount_eq
  have counted := sound.consistent.fileCount_eq
  have listed : store.order.length = store.table.size := by
    rw [sound.consistent.order_perm_keys.length_eq, Index.keys,
      List.length_map, Index.size]
  have nothingMissing :
      (store.order.find? fun path => !store.table.contains path) = none := by
    rw [List.find?_eq_none]
    intro path member
    simpa using (sound.consistent.mem_order_iff path).mp member
  have filesWithin := sound.within.fileCount_le
  have bytesWithin := sound.within.byteCount_le
  have withinLimits : ¬(store.limits.maxBytes < store.byteCount ∨
      store.limits.maxFiles < store.fileCount) := by
    omega
  rw [Store.audit, if_neg (by simp [weighed]), if_neg (by simp [counted, listed]),
    nothingMissing]
  exact if_neg withinLimits

end Store

end FileDepot
