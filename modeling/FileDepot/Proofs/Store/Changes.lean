import FileDepot.Proofs.Store.Accounting
import Mathlib.Data.List.Nodup

/-!
# What an operation does to each file

A file that outlives an operation was changed in one of few ways, a file that
is new was created by the operation, and a file that is gone leaves everybody
who waited for it in the answer, once each.
-/

namespace FileDepot

/-- What an operation may do to the file at a path that outlives it. -/
inductive FileChange (path : String) :
    StoreOperation → StoredFile → StoredFile → Prop
  | kept (operation : StoreOperation) (file : StoredFile) :
      FileChange path operation file file
  | opened (client : ClientId) (file : StoredFile) :
      FileChange path (.open path client true) file (file.lock client).2
  | locked (client : ClientId) (file : StoredFile) :
      FileChange path (.lock path client) file (file.lock client).2
  | unlocked (client : ClientId) (file : StoredFile)
      (held : file.owner = some client) :
      FileChange path (.unlock path client) file (file.release client)
  | closed (client : ClientId) (file : StoredFile) :
      FileChange path (.close path client) file
        ((file.withdraw client).release client)
  | released (client : ClientId) (file : StoredFile) :
      FileChange path (.releaseClient client) file
        ((file.withdraw client).release client)
  | granted {client : ClientId} {file granted : StoredFile}
      (handed : file.grantNext = some (client, granted)) :
      FileChange path .grantWaiting file granted
  | written (client : ClientId) (content : Bytes) (file : StoredFile)
      (unwritten : file.unwritten = true) (held : file.owner = some client) :
      FileChange path (.write path client content) file (file.fill content)

namespace StoredFile

/-- A file after its lock was handed on, if it was free and awaited. -/
def handOn (file : StoredFile) : StoredFile :=
  match file.grantNext with
  | none => file
  | some (_, granted) => granted

theorem handOn_of_some {file granted : StoredFile} {client : ClientId}
    (handed : file.grantNext = some (client, granted)) :
    file.handOn = granted := by
  rw [handOn, handed]

theorem handOn_of_none {file : StoredFile} (kept : file.grantNext = none) :
    file.handOn = file := by
  rw [handOn, kept]

/-- A lock that was just handed on is not handed on again. -/
theorem grantNext_handOn (file : StoredFile) :
    file.handOn.grantNext = none := by
  cases next : file.grantNext with
  | none => rw [handOn_of_none next, next]
  | some handed =>
      rcases handed with ⟨client, granted⟩
      obtain ⟨rest, -, -, rfl⟩ := grantNext_eq_some_iff.mp next
      rw [handOn_of_some next, grantNext_eq_none_iff]
      simp

end StoredFile

namespace Store

theorem file?_grantAlong (paths : List String) (store : Store)
    (path : String) :
    (grantAlong paths store).2.file? path =
      if path ∈ paths then (store.file? path).map StoredFile.handOn
      else store.file? path := by
  induction paths generalizing store with
  | nil => simp [grantAlong]
  | cons first younger ih =>
      rcases grantAlong_cons first younger store with
        ⟨nothing, goes⟩ | ⟨file, client, granted, found, handed, goes⟩
      · rw [goes, ih]
        by_cases same : path = first
        · have unchanged : (store.file? first).map StoredFile.handOn =
              store.file? first := by
            cases found : store.file? first with
            | none => rfl
            | some file =>
                rw [found] at nothing
                exact congrArg some (StoredFile.handOn_of_none nothing)
          simp [same, unchanged]
        · simp [same]
      · rw [goes, ih, file?_update_of_found found]
        by_cases same : path = first
        · have settled : granted.handOn = granted := by
            have done := file.grantNext_handOn
            rw [StoredFile.handOn_of_some handed] at done
            exact StoredFile.handOn_of_none done
          simp [same, found, settled, StoredFile.handOn_of_some handed]
        · simp [same]

theorem Consistent.file?_grantWaiting {store : Store}
    (consistent : store.Consistent) (path : String) :
    store.grantWaiting.2.file? path =
      (store.file? path).map StoredFile.handOn := by
  rw [grantWaiting, file?_grantAlong]
  cases found : store.file? path with
  | none => simp
  | some file =>
      rw [if_pos ((consistent.mem_order_iff_exists path).mpr ⟨file, found⟩)]

/-- The files after another operation on locks than the scan. -/
theorem file?_releaseClient (store : Store) (client : ClientId)
    (path : String) :
    (store.releaseClient client).2.file? path =
      (store.file? path).map fun file =>
        (file.withdraw client).release client :=
  store.table.find?_mapValues path _

/-- What an operation puts into the store: a new file, or content. -/
inductive Placement (store : Store) :
    StoreOperation → String → StoredFile → Prop
  | created {path : String} (client : ClientId) (lock : Bool)
      (absent : store.file? path = none) :
      Placement store (.create path client lock) path
        (.created (if lock then some client else none))
  | written {path : String} {file : StoredFile} (client : ClientId)
      (content : Bytes) (found : store.file? path = some file)
      (unwritten : file.unwritten = true)
      (held : file.owner = some client) :
      Placement store (.write path client content) path (file.fill content)

/-- Files may be lost to an operation of a client who could have them. -/
structure Losable (store : Store) (operation : StoreOperation)
    (victims : List String) : Prop where
  nodup : victims.Nodup
  unheld : ∀ victim ∈ victims, ∃ client file,
    operation.client? = some client ∧ store.file? victim = some file ∧
      file.lockedByOther client = false

theorem Consistent.losable_of_planned {store : Store}
    (consistent : store.Consistent) {operation : StoreOperation}
    {client : ClientId} (asks : operation.client? = some client)
    {spared : Option String} {need : Shortfall} {victims : List String}
    (planned : store.planVictims client spared need = some victims) :
    store.Losable operation victims where
  nodup := consistent.victims_nodup planned
  unheld := by
    intro victim member
    obtain ⟨-, file, found, free⟩ := chooseVictims_eligible planned member
    exact ⟨client, file, asks, found, free⟩

theorem losable_nil (store : Store) (operation : StoreOperation) :
    store.Losable operation [] :=
  ⟨List.nodup_nil, by simp⟩

theorem Losable.exists_file {store : Store} {operation : StoreOperation}
    {victims : List String} (losable : store.Losable operation victims)
    {victim : String} (member : victim ∈ victims) :
    ∃ file, store.file? victim = some file := by
  obtain ⟨client, file, -, found, -⟩ := losable.unheld victim member
  exact ⟨file, found⟩

theorem file?_written_evict {store : Store} {victims : List String}
    {path : String} {file : StoredFile} (content : Bytes)
    (found : store.file? path = some file) (spared : path ∉ victims)
    (other : String) :
    ((evict victims store).2.written path file content).file? other =
      if other = path then some (file.fill content)
      else if other ∈ victims then none else store.file? other := by
  have still : (evict victims store).2.file? path = some file := by
    rw [file?_evict, if_neg spared, found]
  change ((evict victims store).2.update path (file.fill content)).file?
    other = _
  rw [file?_update_of_found still, file?_evict]

/-- An operation on files loses some, leaves those who waited for them as
orphans, and puts in at most one; or it fails and does nothing. -/
theorem filing_cases {store : Store} (consistent : store.Consistent)
    {operation : StoreOperation} (files : operation.onlyLocks = false) :
    ((store.perform operation).2 = store ∧
      (store.perform operation).1.orphans = []) ∨
    ∃ victims, store.Losable operation victims ∧
      (store.perform operation).1.orphans =
        victims.flatMap store.orphansAt ∧
      ((∀ other, (store.perform operation).2.file? other =
          if other ∈ victims then none else store.file? other) ∨
        ∃ path new, store.Placement operation path new ∧ path ∉ victims ∧
          ∀ other, (store.perform operation).2.file? other =
            if other = path then some new
            else if other ∈ victims then none else store.file? other) := by
  cases operation with
  | create path client lock =>
      rcases create_cases store path client lock with
        ⟨error, goes⟩ | ⟨absent, -, goes⟩ | ⟨victims, absent, -, -, planned, goes⟩
      · exact Or.inl (by rw [perform, goes]; exact ⟨rfl, rfl⟩)
      · refine Or.inr ⟨[], losable_nil store _, by rw [perform, goes]; rfl,
          Or.inr ⟨path, _, .created client lock absent, by simp, ?_⟩⟩
        intro other
        rw [perform, goes]
        simp
      · have losable :
            store.Losable (.create path client lock) victims :=
          consistent.losable_of_planned rfl planned
        refine Or.inr ⟨victims, losable, ?_,
          Or.inr ⟨path, _, .created client lock absent, ?_, ?_⟩⟩
        · rw [perform, goes]
          exact orphans_evict losable.nodup store
        · intro member
          obtain ⟨file, found⟩ := losable.exists_file member
          simp [absent] at found
        · intro other
          rw [perform, goes]
          simp only [file?_insert, file?_evict]
  | write path client content =>
      rcases write_cases store path client content with
        ⟨error, goes⟩ |
          ⟨file, victims, found, -, unwritten, held, -, makes, goes⟩
      · exact Or.inl (by rw [perform, goes]; exact ⟨rfl, rfl⟩)
      · have spared := not_mem_of_makesRoom makes
        have losable :
            store.Losable (.write path client content) victims := by
          rcases makes with ⟨-, rfl⟩ | ⟨-, -, planned⟩
          · exact losable_nil store _
          · exact consistent.losable_of_planned rfl planned
        refine Or.inr ⟨victims, losable, ?_,
          Or.inr ⟨path, _, .written client content found unwritten held,
            spared, ?_⟩⟩
        · rw [perform, goes]
          exact orphans_evict losable.nodup store
        · intro other
          rw [perform, goes]
          exact file?_written_evict content found spared other
  | remove path client =>
      rcases remove_cases store path client with
        ⟨error, goes⟩ | ⟨file, smaller, found, held, taken, goes⟩
      · exact Or.inl (by rw [perform, goes]; exact ⟨rfl, rfl⟩)
      · refine Or.inr ⟨[path], ⟨by simp, ?_⟩, ?_, Or.inl ?_⟩
        · intro victim member
          rw [List.mem_singleton.mp member]
          exact ⟨client, file, rfl, found,
            by simp [StoredFile.lockedByOther, held]⟩
        · rw [perform, goes]
          simp [StoreAnswer.orphans, orphansAt, found]
        · intro other
          rw [perform, goes]
          simp only [file?_of_take taken, List.mem_singleton]
  | _ => cases files

/-- A file that is found both before and after an operation was changed in one
of the ways listed. -/
theorem change_of_survival {store : Store} (consistent : store.Consistent)
    {operation : StoreOperation} {path : String} {before after : StoredFile}
    (found : store.file? path = some before)
    (still : (store.perform operation).2.file? path = some after) :
    FileChange path operation before after := by
  have keptIfSame (same : store.file? path = some after) :
      FileChange path operation before after := by
    rw [found, Option.some.injEq] at same
    exact same ▸ .kept operation before
  -- An update elsewhere keeps the file, and one here puts the new file in.
  have changedIfUpdated {target : String} {old new : StoredFile}
      (here : store.file? target = some old)
      (updated : (store.update target new).file? path = some after)
      (changes : path = target → FileChange path operation old new) :
      FileChange path operation before after := by
    rw [file?_update_of_found here] at updated
    by_cases same : path = target
    · subst same
      rw [found, Option.some.injEq] at here
      rw [if_pos rfl, Option.some.injEq] at updated
      exact here ▸ updated ▸ changes rfl
    · rw [if_neg same] at updated
      exact keptIfSame updated
  cases only : operation.onlyLocks with
  | false =>
      rcases filing_cases consistent only with
        ⟨same, -⟩ | ⟨victims, -, -, lost | ⟨target, new, placed, -, finds⟩⟩
      · rw [same] at still
        exact keptIfSame still
      · rw [lost] at still
        split at still
        · cases still
        · exact keptIfSame still
      · rw [finds] at still
        by_cases same : path = target
        · subst same
          rw [if_pos rfl, Option.some.injEq] at still
          subst still
          cases placed with
          | created client lock absent => simp [found] at absent
          | written client content here unwritten held =>
              rw [found, Option.some.injEq] at here
              subst here
              exact .written client content before unwritten held
        · rw [if_neg same] at still
          split at still
          · cases still
          · exact keptIfSame still
  | true =>
      cases operation with
      | create | write | remove => cases only
      | read | readMany => exact keptIfSame still
      | «open» target client lock =>
          rcases open_cases store target client lock with
            ⟨outcome, goes⟩ | ⟨file, here, rfl, goes⟩
          · rw [perform, goes] at still
            exact keptIfSame still
          · rw [perform, goes] at still
            exact changedIfUpdated here still fun same =>
              same ▸ .opened client file
      | lock target client =>
          rcases lock_cases store target client with
            ⟨error, goes⟩ | ⟨file, here, goes⟩
          · rw [perform, goes] at still
            exact keptIfSame still
          · rw [perform, goes] at still
            exact changedIfUpdated here still fun same =>
              same ▸ .locked client file
      | unlock target client =>
          rcases unlock_cases store target client with
            ⟨error, goes⟩ | ⟨file, here, held, goes⟩
          · rw [perform, goes] at still
            exact keptIfSame still
          · rw [perform, goes] at still
            exact changedIfUpdated here still fun same =>
              same ▸ .unlocked client file held
      | close target client =>
          rcases close_cases store target client with
            ⟨-, goes⟩ | ⟨file, here, goes⟩
          · rw [perform, goes] at still
            exact keptIfSame still
          · rw [perform, goes] at still
            exact changedIfUpdated here still fun same =>
              same ▸ .closed client file
      | releaseClient client =>
          have goes := file?_releaseClient store client path
          rw [found, Option.map_some] at goes
          have changed := Option.some.inj (goes.symm.trans still)
          exact changed ▸ .released client before
      | grantWaiting =>
          have goes := consistent.file?_grantWaiting path
          rw [found, Option.map_some] at goes
          have changed : before.handOn = after :=
            Option.some.inj (goes.symm.trans still)
          cases next : before.grantNext with
          | none =>
              rw [StoredFile.handOn_of_none next] at changed
              exact changed ▸ .kept _ before
          | some handed =>
              rcases handed with ⟨client, granted⟩
              rw [StoredFile.handOn_of_some next] at changed
              exact changed ▸ .granted next

theorem file?_eq_none_iff_of_onlyLocks {store : Store}
    {operation : StoreOperation} (only : operation.onlyLocks = true)
    (path : String) :
    (store.perform operation).2.file? path = none ↔
      store.file? path = none := by
  rw [← contains_eq_false_iff, ← contains_eq_false_iff,
    (sameButLocks_perform store only).contains_eq]

theorem creation_of_birth {store : Store} (consistent : store.Consistent)
    {operation : StoreOperation} {path : String} {after : StoredFile}
    (absent : store.file? path = none)
    (found : (store.perform operation).2.file? path = some after) :
    ∃ client lock, operation = .create path client lock ∧
      after = .created (if lock then some client else none) := by
  cases only : operation.onlyLocks with
  | true =>
      have still := (file?_eq_none_iff_of_onlyLocks only path).mpr absent
      simp [found] at still
  | false =>
      rcases filing_cases consistent only with
        ⟨same, -⟩ | ⟨victims, -, -, lost | ⟨target, new, placed, -, finds⟩⟩
      · simp [same, absent] at found
      · simp [lost, absent] at found
      · rw [finds] at found
        by_cases same : path = target
        · subst same
          rw [if_pos rfl, Option.some.injEq] at found
          subst found
          cases placed with
          | created client lock _ => exact ⟨client, lock, rfl, rfl⟩
          | written client content here _ _ => simp [absent] at here
        · simp [same, absent] at found

section Orphans

theorem mem_orphansAt_iff {store : Store} {orphan : Orphan}
    {path : String} :
    orphan ∈ store.orphansAt path ↔ orphan.path = path ∧
      ∃ file, store.file? orphan.path = some file ∧
        orphan.client ∈ file.waiters := by
  rcases orphan with ⟨client, awaited⟩
  cases found : store.file? path with
  | none =>
      simp only [orphansAt, found, List.not_mem_nil, false_iff]
      rintro ⟨rfl, file, present, -⟩
      simp [found] at present
  | some file =>
      simp only [orphansAt, found, orphansOf, List.mem_map, Orphan.mk.injEq]
      constructor
      · rintro ⟨waiter, member, rfl, rfl⟩
        exact ⟨rfl, file, found, member⟩
      · rintro ⟨rfl, present, foundPresent, member⟩
        rw [found, Option.some.injEq] at foundPresent
        exact ⟨client, foundPresent ▸ member, rfl, rfl⟩

/-- Exactly those are named as orphans who waited for a file that is gone. -/
theorem mem_orphans_iff {store : Store} (consistent : store.Consistent)
    (operation : StoreOperation) (orphan : Orphan) :
    orphan ∈ (store.perform operation).1.orphans ↔
      (∃ file, store.file? orphan.path = some file ∧
        orphan.client ∈ file.waiters) ∧
      (store.perform operation).2.file? orphan.path = none := by
  have nothingLost (silent : (store.perform operation).1.orphans = [])
      (kept : (store.perform operation).2.file? orphan.path = none →
        store.file? orphan.path = none) :
      orphan ∈ (store.perform operation).1.orphans ↔
        (∃ file, store.file? orphan.path = some file ∧
          orphan.client ∈ file.waiters) ∧
        (store.perform operation).2.file? orphan.path = none := by
    simp only [silent, List.not_mem_nil, false_iff]
    rintro ⟨⟨file, found, -⟩, gone⟩
    simp [kept gone] at found
  cases only : operation.onlyLocks with
  | true =>
      exact nothingLost (orphans_of_onlyLocks store only)
        (file?_eq_none_iff_of_onlyLocks only orphan.path).mp
  | false =>
      rcases filing_cases consistent only with
        ⟨same, silent⟩ | ⟨victims, losable, named, finds⟩
      · exact nothingLost silent (by rw [same]; exact id)
      have gone_iff (stored : store.file? orphan.path ≠ none) :
          (store.perform operation).2.file? orphan.path = none ↔
            orphan.path ∈ victims := by
        rcases finds with finds | ⟨target, new, -, spared, finds⟩
        · rw [finds]
          split <;> simp_all
        · rw [finds]
          by_cases same : orphan.path = target
          · simp [same, spared]
          · rw [if_neg same]
            split <;> simp_all
      simp only [named, List.mem_flatMap, mem_orphansAt_iff]
      constructor
      · rintro ⟨victim, member, same, file, found, waits⟩
        exact ⟨⟨file, found, waits⟩,
          (gone_iff (by simp [found])).mpr (same ▸ member)⟩
      · rintro ⟨⟨file, found, waits⟩, gone⟩
        exact ⟨orphan.path, (gone_iff (by simp [found])).mp gone, rfl, file,
          found, waits⟩

theorem nodup_orphans {store : Store} (consistent : store.Consistent)
    (queues : ∀ path file, store.file? path = some file →
      file.waiters.Nodup)
    (operation : StoreOperation) :
    (store.perform operation).1.orphans.Nodup := by
  cases only : operation.onlyLocks with
  | true =>
      rw [orphans_of_onlyLocks store only]
      exact List.nodup_nil
  | false =>
      rcases filing_cases consistent only with
        ⟨-, silent⟩ | ⟨victims, losable, named, -⟩
      · rw [silent]
        exact List.nodup_nil
      rw [named, List.nodup_flatMap]
      constructor
      · intro victim _
        unfold orphansAt
        split
        · exact List.nodup_nil
        · rename_i file found
          refine (queues victim file found).map ?_
          intro first second same
          exact (Orphan.mk.injEq _ _ _ _ ▸ same).1
      · refine losable.nodup.imp ?_
        intro first second different orphan inFirst inSecond
        exact different ((mem_orphansAt_iff.mp inFirst).1.symm.trans
          (mem_orphansAt_iff.mp inSecond).1)

end Orphans

end Store

end FileDepot
