import FileDepot.Proofs.Store.Accounting

/-!
# The store in machine words

The counters of a store are natural numbers here.  A machine counts in words
of 64 bits, where a sum can be too large and a difference must not be below
zero.  This file carries out the operations once more with both checked at
every step, and proves that in a store whose books are in order no check ever
fails, so that counting in words and counting in numbers come to the same.
-/

namespace FileDepot

/-- The sum of two sizes, if a machine word holds it. -/
def wordSum? (first second : Nat) : Option Nat :=
  if first + second < UInt64.size then some (first + second) else none

/-- The difference of two counts, unless it is below zero. -/
def wordDifference? (first second : Nat) : Option Nat :=
  if second ≤ first then some (first - second) else none

theorem wordSum?_of_lt {first second : Nat}
    (small : first + second < UInt64.size) :
    wordSum? first second = some (first + second) :=
  if_pos small

theorem wordDifference?_of_le {first second : Nat}
    (enough : second ≤ first) :
    wordDifference? first second = some (first - second) :=
  if_pos enough

namespace Store

def sizeSum : List StoredFile → Nat
  | [] => 0
  | file :: others => sizeSum others + file.size

/-- The sizes of files, summed up one after the other. -/
def sumInWords : List StoredFile → Option Nat
  | [] => some 0
  | file :: others => do
      let rest ← sumInWords others
      wordSum? rest file.size

def insertInWords (store : Store) (path : String) (file : StoredFile) :
    Option Store := do
  let byteCount ← wordSum? store.byteCount file.size
  let fileCount := store.fileCount + 1
  return { store with
    table := store.table.insert path file
    order := store.order ++ [path]
    fileCount := fileCount
    byteCount := byteCount
    mostFiles := max store.mostFiles fileCount
    mostBytes := max store.mostBytes byteCount }

def takeInWords (store : Store) (path : String) :
    Option (Option (StoredFile × Store)) :=
  match store.file? path with
  | none => some none
  | some file => do
      let byteCount ← wordDifference? store.byteCount file.size
      let fileCount ← wordDifference? store.fileCount 1
      return some (file,
        { store with
          table := store.table.erase path
          order := store.order.erase path
          fileCount := fileCount
          byteCount := byteCount })

/-- Chooses victims while counting what they free. -/
def gatherVictims (store : Store) (requester : ClientId)
    (spared : Option String) (need : Shortfall) :
    List String → (files bytes : Nat) → Option (Option (List String))
  | [], files, bytes =>
      if need.files ≤ files ∧ need.bytes ≤ bytes then some (some [])
      else some none
  | path :: younger, files, bytes =>
      if need.files ≤ files ∧ need.bytes ≤ bytes then
        some (some [])
      else
        match store.file? path with
        | none => store.gatherVictims requester spared need younger files bytes
        | some file =>
            if spared = some path ∨ file.lockedByOther requester = true ∨
                (need.files ≤ files ∧ file.size = 0) then
              store.gatherVictims requester spared need younger files bytes
            else do
              let freed ← wordSum? bytes file.size
              let rest ← store.gatherVictims requester spared need younger
                (files + 1) freed
              return rest.map (path :: ·)

def evictInWords : List String → Store → Option (Evicted × Store)
  | [], store => some ({}, store)
  | path :: others, store => do
      match ← store.takeInWords path with
      | none => evictInWords others store
      | some (file, smaller) =>
          let (evicted, after) ← evictInWords others
            { smaller with evictions := smaller.evictions + 1 }
          return ({ files := ⟨path, file.content⟩ :: evicted.files
                    orphans := orphansOf path file ++ evicted.orphans }, after)

def createInWords (store : Store) (path : String) (client : ClientId)
    (lock : Bool) : Option (Except Error Evicted × Store) :=
  let owner := if lock then some client else none
  if store.table.contains path then
    return (.error (.fileExists path), store)
  else if store.fileCount < store.limits.maxFiles then do
    return (.ok {}, ← store.insertInWords path (.created owner))
  else if store.limits.policy.onFileCount then do
    let excess ← wordDifference? (store.fileCount + 1) store.limits.maxFiles
    match ← store.gatherVictims client none { files := excess }
        store.order 0 0 with
    | none => return (.error .storageFull, store)
    | some victims =>
        let (evicted, smaller) ← store.evictInWords victims
        return (.ok evicted, ← smaller.insertInWords path (.created owner))
  else
    return (.error .storageFull, store)

def fillInWords (store : Store) (path : String) (content : Bytes) :
    Option (Except Error Unit × Store) :=
  match store.file? path with
  | none =>
      return (.error (.invalidState s!"{path} vanished during write"), store)
  | some file => do
      let byteCount ← wordSum? store.byteCount content.length
      return (.ok (),
        { store.update path (file.fill content) with
          byteCount := byteCount
          mostBytes := max store.mostBytes byteCount })

def fillAfterInWords (store : Store) (victims : List String) (path : String)
    (content : Bytes) : Option (Except Error Evicted × Store) := do
  let (evicted, smaller) ← store.evictInWords victims
  let (outcome, filled) ← smaller.fillInWords path content
  return (outcome.map fun _ => evicted, filled)

def writeInWords (store : Store) (path : String) (client : ClientId)
    (content : Bytes) : Option (Except Error Evicted × Store) :=
  match store.file? path with
  | none => return (.error (.notFound path), store)
  | some file =>
      if content.isEmpty then
        return (.error .missingBody, store)
      else if !file.unwritten then
        return (.error (.fileExists path), store)
      else if file.owner ≠ some client then
        return (.error (.notLockOwner path), store)
      else if store.limits.maxBytes < content.length then
        return (.error (.fileTooBig content.length), store)
      else do
        let needed ← wordSum? store.byteCount content.length
        if needed ≤ store.limits.maxBytes then
          store.fillAfterInWords [] path content
        else if store.limits.policy.onByteSize then
          let excess ← wordDifference? needed store.limits.maxBytes
          match ← store.gatherVictims client (some path) { bytes := excess }
              store.order 0 0 with
          | none => return (.error .storageFull, store)
          | some victims => store.fillAfterInWords victims path content
        else
          return (.error (.fileTooBig content.length), store)

def removeInWords (store : Store) (path : String) (client : ClientId) :
    Option (Except Error (List Orphan) × Store) :=
  match store.file? path with
  | none => return (.error (.notFound path), store)
  | some file =>
      if file.owner ≠ some client then
        return (.error (.notLockOwner path), store)
      else do
        match ← store.takeInWords path with
        | none =>
            return (.error
              (.invalidState s!"{path} vanished during remove"), store)
        | some (removed, smaller) => return (.ok (orphansOf path removed), smaller)

/-- Carries out one operation in machine words, unless a sum does not fit or a
difference is below zero.  The operations that are not named here do not
count. -/
def performInWords (store : Store) (operation : StoreOperation) :
    Option (StoreAnswer × Store) :=
  match operation with
  | .create path client lock => do
      let (outcome, after) ← store.createInWords path client lock
      return (.stored outcome, after)
  | .write path client content => do
      let (outcome, after) ← store.writeInWords path client content
      return (.stored outcome, after)
  | .remove path client => do
      let (outcome, after) ← store.removeInWords path client
      return (.removed outcome, after)
  | other => return store.perform other

theorem sizeSum_perm {first second : List StoredFile}
    (same : first.Perm second) : sizeSum first = sizeSum second := by
  induction same with
  | nil => rfl
  | cons file _ ih => simp only [sizeSum, ih]
  | swap file other rest =>
      simp only [sizeSum]
      omega
  | trans _ _ ih later => exact ih.trans later

theorem sizeSum_values (store : Store) :
    sizeSum store.table.values = store.table.total StoredFile.size := by
  rw [Index.values, Index.total]
  induction store.table.entries with
  | nil => rfl
  | cons entry rest ih =>
      simp only [List.map_cons, sizeSum, Index.totalOf, ih]
      omega

theorem sumInWords_of_small {files : List StoredFile}
    (small : sizeSum files < UInt64.size) :
    sumInWords files = some (sizeSum files) := by
  induction files with
  | nil => rfl
  | cons file others ih =>
      rw [sizeSum] at small
      rw [sumInWords, ih (by omega)]
      exact wordSum?_of_lt small

theorem insertInWords_of_small {store : Store} (path : String)
    {file : StoredFile} (small : store.byteCount + file.size < UInt64.size) :
    store.insertInWords path file = some (store.insert path file) := by
  rw [insertInWords, wordSum?_of_lt small]
  rfl

theorem takeInWords_eq {store : Store} (consistent : store.Consistent)
    (path : String) :
    store.takeInWords path = some (store.take path) := by
  cases taken : store.take path with
  | none =>
      rw [takeInWords, take_eq_none_iff.mp taken]
  | some removed =>
      rcases removed with ⟨file, smaller⟩
      obtain ⟨-, counted, weighed⟩ := consistent.take taken
      obtain ⟨found, rfl⟩ := take_eq_some_iff.mp taken
      simp only at counted weighed
      rw [takeInWords, found]
      simp only
      rw [wordDifference?_of_le (by omega : file.size ≤ store.byteCount),
        wordDifference?_of_le (by omega : 1 ≤ store.fileCount)]
      rfl

theorem evictInWords_eq {store : Store} (consistent : store.Consistent)
    (victims : List String) :
    evictInWords victims store = some (evict victims store) := by
  induction victims generalizing store with
  | nil => rfl
  | cons victim others ih =>
      rw [evictInWords, takeInWords_eq consistent]
      cases taken : store.take victim with
      | none =>
          rw [evict_cons_of_absent (take_eq_none_iff.mp taken)]
          exact ih consistent
      | some removed =>
          rcases removed with ⟨file, smaller⟩
          have kept := (consistent.take taken).1
          rw [evict_cons_of_take taken]
          simp only [Option.bind_eq_bind, Option.bind_some]
          rw [ih (kept.countEvictions (smaller.evictions + 1))]
          rfl

theorem gatherVictims_eq {store : Store} {requester : ClientId}
    {spared : Option String} {need : Shortfall} {paths : List String}
    {files bytes : Nat} (small : bytes + store.bytesAt paths < UInt64.size) :
    store.gatherVictims requester spared need paths files bytes =
      some (store.chooseVictims requester spared paths
        ⟨need.files - files, need.bytes - bytes⟩) := by
  have met_iff (files bytes : Nat) :
      (⟨need.files - files, need.bytes - bytes⟩ : Shortfall).met = true ↔
        need.files ≤ files ∧ need.bytes ≤ bytes := by
    simp [Shortfall.met, Nat.sub_eq_zero_iff_le]
  induction paths generalizing files bytes with
  | nil =>
      rw [gatherVictims, chooseVictims]
      by_cases enough : need.files ≤ files ∧ need.bytes ≤ bytes
      · rw [if_pos enough, if_pos ((met_iff files bytes).mpr enough)]
      · rw [if_neg enough, if_neg (mt (met_iff files bytes).mp enough)]
  | cons path younger ih =>
      rw [gatherVictims, chooseVictims]
      by_cases enough : need.files ≤ files ∧ need.bytes ≤ bytes
      · rw [if_pos enough, if_pos ((met_iff files bytes).mpr enough)]
      rw [if_neg enough, if_neg (mt (met_iff files bytes).mp enough)]
      rw [bytesAt, sizeAt] at small
      cases found : store.file? path with
      | none =>
          simp only [found] at small ⊢
          exact ih (by omega)
      | some file =>
          simp only [found] at small ⊢
          have passes_iff : passesOver spared requester
                ⟨need.files - files, need.bytes - bytes⟩ path file = true ↔
              spared = some path ∨ file.lockedByOther requester = true ∨
                (need.files ≤ files ∧ file.size = 0) := by
            simp [passesOver, Nat.sub_eq_zero_iff_le, or_assoc]
          by_cases passed : spared = some path ∨
              file.lockedByOther requester = true ∨
                (need.files ≤ files ∧ file.size = 0)
          · rw [if_pos passed, if_pos (passes_iff.mpr passed)]
            exact ih (by omega)
          · rw [if_neg passed, if_neg (mt passes_iff.mp passed)]
            rw [wordSum?_of_lt (by omega)]
            simp only [Option.bind_eq_bind, Option.bind_some]
            rw [ih (by omega)]
            simp only [Option.bind_some, Shortfall.less, Nat.sub_sub]
            rfl

theorem Consistent.bytesAt_order {store : Store}
    (consistent : store.Consistent) :
    store.bytesAt store.order ≤ store.byteCount := by
  have weighed := (consistent.evict consistent.order_nodup fun path member =>
    (consistent.mem_order_iff_exists path).mp member).2.2
  omega

section Operations

variable {store : Store} (sound : store.Sound)
  (small : 2 * store.limits.maxBytes < UInt64.size)

include sound small

theorem gatherVictims_order (requester : ClientId) (spared : Option String)
    (need : Shortfall) :
    store.gatherVictims requester spared need store.order 0 0 =
      some (store.planVictims requester spared need) := by
  have listed := sound.consistent.bytesAt_order
  have within := sound.within.byteCount_le
  rw [gatherVictims_eq (by omega)]
  rfl

theorem createInWords_eq (path : String) (client : ClientId) (lock : Bool) :
    store.createInWords path client lock =
      some (store.create path client lock) := by
  have filesWithin := sound.within.fileCount_le
  have bytesWithin := sound.within.byteCount_le
  rw [createInWords, create]
  cases known : store.table.contains path with
  | true => rfl
  | false =>
      simp only [Bool.false_eq_true, if_false]
      by_cases room : store.fileCount < store.limits.maxFiles
      · have fits : store.byteCount +
            (StoredFile.created (if lock then some client else none)).size <
              UInt64.size := by
          simp only [StoredFile.created, StoredFile.size, List.length_nil]
          omega
        rw [if_pos room, if_pos room, insertInWords_of_small path fits]
        rfl
      rw [if_neg room, if_neg room]
      cases policy : store.limits.policy.onFileCount with
      | false => rfl
      | true =>
          simp only [if_true]
          rw [wordDifference?_of_le (by omega)]
          simp only [Option.bind_eq_bind, Option.bind_some]
          rw [gatherVictims_order sound small]
          cases planned : store.planVictims client none
              { files := store.fileCount + 1 - store.limits.maxFiles } with
          | none => rfl
          | some victims =>
              have freed := (sound.consistent.evict_planned planned).2.2
              simp only [Option.bind_some]
              rw [evictInWords_eq sound.consistent]
              simp only [Option.bind_some]
              rw [insertInWords_of_small path (by
                simp only [StoredFile.created, StoredFile.size,
                  List.length_nil]
                omega)]
              rfl

theorem writeInWords_eq (path : String) (client : ClientId)
    (content : Bytes) :
    store.writeInWords path client content =
      some (store.write path client content) := by
  have bytesWithin := sound.within.byteCount_le
  have fillAfterEq {victims : List String}
      (fits : (evict victims store).2.byteCount + content.length <
        UInt64.size) :
      store.fillAfterInWords victims path content =
        some (store.fillAfter victims path content) := by
    rw [fillAfterInWords, fillAfter, evictInWords_eq sound.consistent]
    simp only [Option.bind_eq_bind, Option.bind_some]
    rw [fillInWords, fill]
    cases found : (evict victims store).2.file? path with
    | none => rfl
    | some file =>
        simp only
        rw [wordSum?_of_lt fits]
        rfl
  rw [writeInWords, write]
  cases found : store.file? path with
  | none => rfl
  | some file =>
      simp only
      split
      · rfl
      split
      · rfl
      split
      · rfl
      split
      · rfl
      rename_i fits
      rw [wordSum?_of_lt (by omega)]
      simp only [Option.bind_eq_bind, Option.bind_some]
      split
      · exact fillAfterEq (by simp only [evict]; omega)
      rename_i tooMany
      cases policy : store.limits.policy.onByteSize with
      | false => rfl
      | true =>
          simp only [if_true]
          rw [wordDifference?_of_le (by omega)]
          simp only [Option.bind_some]
          rw [gatherVictims_order sound small]
          simp only [Option.bind_some]
          cases planned : store.planVictims client (some path)
              { bytes := store.byteCount + content.length -
                  store.limits.maxBytes } with
          | none => rfl
          | some victims =>
              have freed := (sound.consistent.evict_planned planned).2.2
              exact fillAfterEq (by omega)

omit small in
theorem removeInWords_eq (path : String) (client : ClientId) :
    store.removeInWords path client = some (store.remove path client) := by
  rw [removeInWords, remove]
  cases found : store.file? path with
  | none => rfl
  | some file =>
      simp only
      split
      · rfl
      · rw [takeInWords_eq sound.consistent]
        simp only [Option.bind_eq_bind, Option.bind_some]
        cases store.take path <;> rfl

/-- In a store whose books are in order, counting in machine words is counting
in numbers: no sum is too large and no difference is below zero. -/
theorem performInWords_eq (operation : StoreOperation) :
    store.performInWords operation = some (store.perform operation) := by
  cases operation with
  | create path client lock =>
      rw [performInWords, createInWords_eq sound small]
      rfl
  | write path client content =>
      rw [performInWords, writeInWords_eq sound small]
      rfl
  | remove path client =>
      rw [performInWords, removeInWords_eq sound]
      rfl
  | «open» | read | readMany | lock | unlock | close | releaseClient
  | grantWaiting => rfl

end Operations

/-- Every run of a new store, whatever fails in it, keeps the books in order
and within the limits.  So an audit never finds anything, and with limits
below half of a machine word no operation ever computes a sum that does not
fit a word or a difference below zero, in whichever order sizes are added. -/
theorem books_stay_in_order (limits : Limits)
    (small : 2 * limits.maxBytes < UInt64.size)
    (operations : List StoreOperation) :
    let store := (new limits).run operations
    store.limits = limits ∧ store.Sound ∧ store.audit = .ok () ∧
      (∀ operation, store.performInWords operation =
        some (store.perform operation)) ∧
      ∀ files : List StoredFile, files.Perm store.table.values →
        sumInWords files = some store.byteCount := by
  intro store
  have sameLimits : store.limits = limits := limits_run operations (new limits)
  have sound : store.Sound := (sound_new limits).run operations
  have bytesWithin := sound.within.byteCount_le
  rw [← sameLimits] at small
  refine ⟨sameLimits, sound, sound.audit, performInWords_eq sound small, ?_⟩
  intro files same
  have summed : sizeSum files = store.byteCount := by
    rw [sizeSum_perm same, sizeSum_values, sound.consistent.byteCount_eq]
  rw [← summed]
  exact sumInWords_of_small (by omega)

/-- Room for one file of two bytes: the second creation finds the only file
locked, the third one evicts it, and the last write is too big. -/
theorem books_with_one_place :
    let limits : Limits := { maxFiles := 1, maxBytes := 2 }
    let store := (new limits).run
      [.create "a" 1 true, .write "a" 1 [7, 7], .create "b" 2 true,
        .unlock "a" 1, .create "b" 2 true, .write "b" 2 [7, 7, 7]]
    2 * limits.maxBytes < UInt64.size ∧ store.paths = ["b"] ∧
      store.evictions = 1 ∧ store.Sound ∧ store.audit = .ok () ∧
      store.performInWords (.write "b" 2 [7]) =
        some (store.perform (.write "b" 2 [7])) := by
  intro limits store
  obtain ⟨-, sound, audited, inWords, -⟩ :=
    books_stay_in_order limits (by decide) _
  exact ⟨by decide, by decide, by decide, sound, audited, inWords _⟩

end Store

end FileDepot
