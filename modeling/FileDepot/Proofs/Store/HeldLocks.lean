import FileDepot.Proofs.Store.LockQueues

/-!
# What a held lock protects

While a client holds the lock of a file, nothing that others do takes the file
away, changes what is in it, or moves it among the files that stay.
-/

namespace FileDepot

namespace Store

/-- The file at a path as it is handed out when it is expelled. -/
def evictedAt? (store : Store) (path : String) : Option EvictedFile :=
  (store.file? path).map fun file => ⟨path, file.content⟩

theorem files_evict {victims : List String} (nodup : victims.Nodup)
    (store : Store) :
    (evict victims store).1.files = victims.filterMap store.evictedAt? := by
  induction victims generalizing store with
  | nil => rfl
  | cons victim others ih =>
      obtain ⟨notAgain, othersNodup⟩ := List.nodup_cons.mp nodup
      cases taken : store.take victim with
      | none =>
          have absent := take_eq_none_iff.mp taken
          have skipped : store.evictedAt? victim = none := by
            simp [evictedAt?, absent]
          rw [evict_cons_of_absent absent, ih othersNodup,
            List.filterMap_cons_none skipped]
      | some removed =>
          rcases removed with ⟨file, smaller⟩
          obtain ⟨found, -⟩ := take_eq_some_iff.mp taken
          have here : store.evictedAt? victim =
              some ⟨victim, file.content⟩ := by
            simp [evictedAt?, found]
          rw [evict_cons_of_take taken, List.filterMap_cons_some here]
          simp only [ih othersNodup]
          congr 1
          apply List.filterMap_congr
          intro other among
          have different : other ≠ victim := fun same =>
            notAgain (same ▸ among)
          have kept := file?_of_take taken other
          rw [if_neg different] at kept
          change (smaller.file? other).map _ = (store.file? other).map _
          rw [kept]

theorem path_of_evictedAt? {store : Store} {path : String}
    {evicted : EvictedFile} (handed : store.evictedAt? path = some evicted) :
    evicted.path = path ∧ ∃ file, store.file? path = some file ∧
      file.content = evicted.content := by
  obtain ⟨file, found, rfl⟩ := Option.map_eq_some_iff.mp handed
  exact ⟨rfl, file, found, rfl⟩

theorem paths_of_filterMap_evictedAt? (store : Store)
    (victims : List String) :
    ((victims.filterMap store.evictedAt?).map EvictedFile.path).Sublist
      victims := by
  induction victims with
  | nil => exact List.Sublist.refl _
  | cons victim others ih =>
      cases handed : store.evictedAt? victim with
      | none =>
          rw [List.filterMap_cons_none handed]
          exact ih.cons victim
      | some evicted =>
          obtain ⟨rfl, -⟩ := path_of_evictedAt? handed
          rw [List.filterMap_cons_some handed, List.map_cons]
          exact ih.cons_cons _

theorem mem_victims_of_evicted {store : Store} {victims : List String}
    (nodup : victims.Nodup) {evicted : EvictedFile}
    (member : evicted ∈ (evict victims store).1.files) :
    evicted.path ∈ victims := by
  rw [files_evict nodup] at member
  obtain ⟨victim, among, handed⟩ := List.mem_filterMap.mp member
  obtain ⟨rfl, -⟩ := path_of_evictedAt? handed
  exact among

theorem Consistent.order_take {store smaller : Store}
    (consistent : store.Consistent) {path : String} {file : StoredFile}
    (taken : store.take path = some (file, smaller)) :
    smaller.order = store.order.filter fun other => other ≠ path := by
  obtain ⟨-, rfl⟩ := take_eq_some_iff.mp taken
  rw [consistent.order_nodup.erase_eq_filter]
  apply List.filter_congr
  intro other _
  rw [bne, beq_eq_decide, ← decide_not]

theorem Consistent.order_evict (victims : List String) {store : Store}
    (consistent : store.Consistent) :
    (Store.evict victims store).2.order =
      store.order.filter fun path => path ∉ victims := by
  induction victims generalizing store with
  | nil => simp [Store.evict]
  | cons victim others ih =>
      cases taken : store.take victim with
      | none =>
          have absent := take_eq_none_iff.mp taken
          have unlisted : victim ∉ store.order := by
            simp [consistent.mem_order_iff_exists, absent]
          rw [evict_cons_of_absent absent, ih consistent]
          apply List.filter_congr
          intro path listed
          have different : path ≠ victim := fun same =>
            unlisted (same ▸ listed)
          simp [different]
      | some removed =>
          rcases removed with ⟨file, smaller⟩
          have rest := ih ((consistent.take taken).1.countEvictions
            (smaller.evictions + 1))
          rw [evict_cons_of_take taken]
          change (Store.evict others
            { smaller with evictions := smaller.evictions + 1 }).2.order = _
          rw [rest]
          change smaller.order.filter _ = _
          rw [consistent.order_take taken, List.filter_filter]
          apply List.filter_congr
          intro path _
          simp [Bool.and_comm]

/-- Files are expelled in the order of the store. -/
theorem evictedFiles_cases {store : Store} (consistent : store.Consistent)
    (operation : StoreOperation) :
    ∃ victims : List String, victims.Sublist store.order ∧
      (store.perform operation).1.evictedFiles =
        victims.filterMap store.evictedAt? := by
  have none {answer : StoreAnswer} (nothing : answer.evictedFiles = []) :
      ∃ victims : List String, victims.Sublist store.order ∧
        answer.evictedFiles = victims.filterMap store.evictedAt? :=
    ⟨[], List.nil_sublist _, nothing⟩
  have planned {client : ClientId} {spared : Option String}
      {need : Shortfall} {victims : List String}
      (plan : store.planVictims client spared need = some victims) :
      ∃ chosen : List String, chosen.Sublist store.order ∧
        (evict victims store).1.files = chosen.filterMap store.evictedAt? :=
    ⟨victims, chooseVictims_sublist plan,
      files_evict (consistent.victims_nodup plan) store⟩
  cases operation with
  | create path client lock =>
      rcases create_cases store path client lock with
        ⟨error, goes⟩ | ⟨-, -, goes⟩ | ⟨victims, -, -, -, plan, goes⟩
      · exact none (by rw [perform, goes]; rfl)
      · exact none (by rw [perform, goes]; rfl)
      · rw [perform, goes]
        exact planned plan
  | write path client content =>
      rcases write_cases store path client content with
        ⟨error, goes⟩ | ⟨file, victims, -, -, -, -, -, makes, goes⟩
      · exact none (by rw [perform, goes]; rfl)
      · rw [perform, goes]
        rcases makes with ⟨-, rfl⟩ | ⟨-, -, plan⟩
        · exact none rfl
        · exact planned plan
  | _ => exact none rfl

theorem content_of_evicted {store : Store} (consistent : store.Consistent)
    {operation : StoreOperation} {evicted : EvictedFile}
    (handed : evicted ∈ (store.perform operation).1.evictedFiles) :
    ∃ file, store.file? evicted.path = some file ∧
      file.content = evicted.content := by
  obtain ⟨victims, -, files⟩ := evictedFiles_cases consistent operation
  rw [files] at handed
  obtain ⟨victim, -, here⟩ := List.mem_filterMap.mp handed
  obtain ⟨rfl, stored⟩ := path_of_evictedAt? here
  exact stored

section Perform

variable {store : Store} (consistent : store.Consistent)
  (operation : StoreOperation)

include consistent

theorem gone_of_evicted {evicted : EvictedFile}
    (member : evicted ∈ (store.perform operation).1.evictedFiles) :
    (store.perform operation).2.file? evicted.path = none := by
  cases operation with
  | create path client lock =>
      rcases create_cases store path client lock with
        ⟨error, goes⟩ | ⟨-, -, goes⟩ | ⟨victims, absent, -, -, planned, goes⟩
      · simp [perform, goes, StoreAnswer.evictedFiles] at member
      · simp [perform, goes, StoreAnswer.evictedFiles] at member
      · rw [perform, goes] at member ⊢
        have among := mem_victims_of_evicted
          (consistent.victims_nodup planned) member
        obtain ⟨-, file, found, -⟩ := chooseVictims_eligible planned among
        have different : evicted.path ≠ path := by
          intro same
          simp [same, absent] at found
        simp [file?_evict, among, different]
  | write path client content =>
      rcases write_cases store path client content with
        ⟨error, goes⟩ | ⟨file, victims, found, -, -, -, -, makes, goes⟩
      · simp [perform, goes, StoreAnswer.evictedFiles] at member
      · rw [perform, goes] at member ⊢
        have nodup : victims.Nodup := by
          rcases makes with ⟨-, rfl⟩ | ⟨-, -, planned⟩
          · exact List.nodup_nil
          · exact consistent.victims_nodup planned
        have spared := not_mem_of_makesRoom makes
        have among := mem_victims_of_evicted nodup member
        have different : evicted.path ≠ path := fun same =>
          spared (same ▸ among)
        simp [file?_written_evict content found spared, among, different]
  | _ => simp [perform, StoreAnswer.evictedFiles] at member

/-- Among files that are there before and after an operation, the order stays
as it is. -/
theorem order_filter_perform {keep : String → Bool}
    (before : ∀ path, keep path = true → store.file? path ≠ none)
    (after : ∀ path, keep path = true →
      (store.perform operation).2.file? path ≠ none) :
    (store.perform operation).2.order.filter keep =
      store.order.filter keep := by
  have unkept {path : String} (absent : store.file? path = none) :
      [path].filter keep = [] := by
    rw [List.filter_singleton, Bool.cond_eq_ite, if_neg]
    exact fun kept => before path kept absent
  -- Files that are kept are no victims.
  have spares {victims : List String}
      (lost : ∀ path ∈ victims, keep path = true →
        (store.perform operation).2.file? path = none) :
      (evict victims store).2.order.filter keep =
        store.order.filter keep := by
    rw [consistent.order_evict, List.filter_filter]
    apply List.filter_congr
    intro path _
    cases kept : keep path with
    | false => rfl
    | true =>
        have spared : path ∉ victims := fun among =>
          after path kept (lost path among kept)
        simp [spared]
  cases only : operation.onlyLocks with
  | true => rw [(sameButLocks_perform store only).order_eq]
  | false =>
      cases operation with
      | create path client lock =>
          rcases create_cases store path client lock with
            ⟨error, goes⟩ | ⟨absent, -, goes⟩ | ⟨victims, absent, -, -, -, goes⟩
          · rw [perform, goes]
          · rw [perform, goes]
            simp only [insert, List.filter_append, unkept absent,
              List.append_nil]
          · rw [perform, goes] at spares ⊢
            simp only [insert, List.filter_append, unkept absent,
              List.append_nil]
            apply spares
            intro victim among kept
            have different : victim ≠ path := by
              rintro rfl
              exact before victim kept absent
            simp [file?_evict, among, different]
      | write path client content =>
          rcases write_cases store path client content with
            ⟨error, goes⟩ | ⟨file, victims, found, -, -, -, -, makes, goes⟩
          · rw [perform, goes]
          · rw [perform, goes] at spares ⊢
            simp only [written, update]
            apply spares
            intro victim among _
            have spared := not_mem_of_makesRoom makes
            have different : victim ≠ path := fun same =>
              spared (same ▸ among)
            simp [file?_written_evict content found spared, among, different]
      | remove path client =>
          rcases remove_cases store path client with
            ⟨error, goes⟩ | ⟨file, smaller, -, -, taken, goes⟩
          · rw [perform, goes]
          · rw [perform, goes] at after ⊢
            have gone : keep path = false := by
              cases kept : keep path with
              | false => rfl
              | true =>
                  exact absurd (by simp [file?_of_take taken])
                    (after path kept)
            rw [consistent.order_take taken, List.filter_filter]
            apply List.filter_congr
            intro other _
            by_cases same : other = path
            · simp [same, gone]
            · simp [same]
      | _ => cases only

end Perform

end Store

namespace StoredFile

theorem owner_lock_of_held {file : StoredFile} {asker client : ClientId}
    (held : file.owner = some client) :
    (file.lock asker).2.owner = some client := by
  rcases file.lock_cases asker with
    same | ⟨free, -, -⟩ | ⟨-, -, -, queued⟩
  · rw [same, held]
  · rw [held] at free
    cases free
  · rw [queued, held]

end StoredFile

/-- Nobody but its holder takes a lock away or writes under it. -/
theorem FileChange.of_held {path : String} {operation : StoreOperation}
    {before after : StoredFile} {client : ClientId}
    (change : FileChange path operation before after)
    (held : before.owner = some client)
    (other : operation.client? ≠ some client) :
    after.owner = some client ∧ after.unlockedPart = before.unlockedPart := by
  cases change with
  | kept => exact ⟨held, rfl⟩
  | opened asker | locked asker =>
      exact ⟨StoredFile.owner_lock_of_held held,
        before.unlockedPart_lock asker⟩
  | unlocked holder file holds =>
      rw [held, Option.some.injEq] at holds
      exact absurd (congrArg some holds.symm) other
  | closed leaver | released leaver =>
      have different : client ≠ leaver := fun same =>
        other (congrArg some same.symm)
      refine ⟨?_, by simp⟩
      rw [StoredFile.owner_release_eq_some_iff]
      exact ⟨held, different⟩
  | granted handed =>
      obtain ⟨rest, free, -, -⟩ := StoredFile.grantNext_eq_some_iff.mp handed
      rw [held] at free
      cases free
  | written writer content file unwritten holds =>
      rw [held, Option.some.injEq] at holds
      exact absurd (congrArg some holds.symm) other

namespace Store

/-- Whatever somebody else does, a file under a lock stays as it is. -/
theorem held_perform {store : Store} (consistent : store.Consistent)
    {operation : StoreOperation} {path : String} {client : ClientId}
    {file : StoredFile} (found : store.file? path = some file)
    (held : file.owner = some client)
    (other : operation.client? ≠ some client) :
    ∃ kept, (store.perform operation).2.file? path = some kept ∧
      kept.owner = some client ∧ kept.unlockedPart = file.unlockedPart := by
  have stays : (store.perform operation).2.file? path ≠ none := by
    intro gone
    cases only : operation.onlyLocks with
    | true =>
        rw [file?_eq_none_iff_of_onlyLocks only, found] at gone
        cases gone
    | false =>
        have notVictim {victims : List String}
            (losable : store.Losable operation victims) :
            path ∉ victims := by
          intro among
          obtain ⟨asker, present, asks, foundPresent, unlocked⟩ :=
            losable.unheld path among
          rw [found, Option.some.injEq] at foundPresent
          subst foundPresent
          simp only [StoredFile.lockedByOther, held, ne_eq,
            decide_not, Bool.not_eq_false', decide_eq_true_eq] at unlocked
          exact other (asks.trans (congrArg some unlocked.symm))
        rcases filing_cases consistent only with
          ⟨same, -⟩ | ⟨victims, losable, -, lost | ⟨target, new, -, -, finds⟩⟩
        · rw [same, found] at gone
          cases gone
        · rw [lost, if_neg (notVictim losable), found] at gone
          cases gone
        · rw [finds, if_neg (notVictim losable), found] at gone
          split at gone <;> cases gone
  obtain ⟨kept, still⟩ := Option.ne_none_iff_exists'.mp stays
  have change := change_of_survival consistent found still
  exact ⟨kept, still, change.of_held held other⟩

theorem Holds.perform {store : Store} {client : ClientId} {path : String}
    (holds : store.Holds client path) (consistent : store.Consistent)
    {operation : StoreOperation}
    (other : operation.client? ≠ some client) :
    (store.perform operation).2.Holds client path := by
  obtain ⟨file, found, held⟩ := holds
  obtain ⟨kept, still, owned, -⟩ := held_perform consistent found held other
  exact ⟨kept, still, owned⟩

theorem held_run {store : Store} (sound : store.Sound)
    (operations : List StoreOperation) {path : String} {client : ClientId}
    {file : StoredFile} (found : store.file? path = some file)
    (held : file.owner = some client)
    (others : ∀ operation ∈ operations, operation.client? ≠ some client) :
    ∃ kept, (store.run operations).file? path = some kept ∧
      kept.owner = some client ∧ kept.unlockedPart = file.unlockedPart := by
  induction operations generalizing store file with
  | nil => exact ⟨file, found, held, rfl⟩
  | cons operation later ih =>
      obtain ⟨next, still, owned, same⟩ :=
        held_perform sound.consistent found held (others operation (by simp))
      obtain ⟨kept, last, heldLast, sameLast⟩ :=
        ih (sound.perform operation) still owned
          fun other among => others other (by simp [among])
      exact ⟨kept, last, heldLast, sameLast.trans same⟩

theorem not_lost_of_held {store : Store} (sound : store.Sound)
    (operations : List StoreOperation) {path : String} {client : ClientId}
    (holds : store.Holds client path)
    (others : ∀ operation ∈ operations, operation.client? ≠ some client)
    {answer : StoreAnswer} (answered : answer ∈ store.answers operations) :
    (∀ evicted ∈ answer.evictedFiles, evicted.path ≠ path) ∧
      ∀ orphan ∈ answer.orphans, orphan.path ≠ path := by
  induction operations generalizing store with
  | nil => cases answered
  | cons operation later ih =>
      have still := holds.perform sound.consistent (others operation (by simp))
      rcases List.mem_cons.mp answered with rfl | among
      · obtain ⟨file, found, -⟩ := still
        constructor
        · rintro evicted member rfl
          rw [gone_of_evicted sound.consistent operation member] at found
          cases found
        · rintro orphan member rfl
          obtain ⟨-, gone⟩ :=
            (mem_orphans_iff sound.consistent operation orphan).mp member
          rw [gone] at found
          cases found
      · exact ih (sound.perform operation) still
          (fun other member => others other (by simp [member])) among

/-- The file at a path is there before, after and all through a run. -/
def survives (path : String) : List StoreOperation → Store → Bool
  | [], store => store.table.contains path
  | operation :: later, store =>
      store.table.contains path &&
        survives path later (store.perform operation).2

theorem survives_iff {path : String} (operations : List StoreOperation)
    (store : Store) :
    survives path operations store = true ↔
      ∀ early, early <+: operations →
        (store.run early).file? path ≠ none := by
  have present (store : Store) : store.table.contains path = true ↔
      store.file? path ≠ none := by
    rw [contains_iff, Option.ne_none_iff_exists']
  induction operations generalizing store with
  | nil =>
      simp only [survives, present, List.prefix_nil, forall_eq, run]
  | cons operation later ih =>
      simp only [survives, Bool.and_eq_true, present, ih]
      constructor
      · rintro ⟨start, rest⟩ early isEarly
        rcases List.prefix_cons_iff.mp isEarly with
          rfl | ⟨begun, rfl, isBegun⟩
        · exact start
        · exact rest begun isBegun
      · intro always
        exact ⟨always [] List.nil_prefix, fun early isEarly =>
          always (operation :: early)
            (List.cons_prefix_cons.mpr ⟨rfl, isEarly⟩)⟩

theorem order_filter_run {store : Store} (sound : store.Sound)
    (operations : List StoreOperation) :
    (store.run operations).order.filter
        (fun path => survives path operations store) =
      store.order.filter fun path => survives path operations store := by
  induction operations generalizing store with
  | nil => rfl
  | cons operation later ih =>
      have later_eq := congrArg
        (List.filter fun path => store.table.contains path)
        (ih (sound.perform operation))
      simp only [List.filter_filter] at later_eq
      rw [run, show (fun path => survives path (operation :: later) store) =
        fun path => store.table.contains path &&
          survives path later (store.perform operation).2 from rfl, later_eq]
      apply order_filter_perform sound.consistent operation
      · intro path kept gone
        rw [(store.contains_eq_false_iff).mpr gone] at kept
        cases kept
      · intro path kept
        have rest := (Bool.and_eq_true_iff.mp kept).2
        exact (survives_iff later _).mp rest [] List.nil_prefix

/-- One path stands before another in the order. -/
def Precedes (store : Store) (first second : String) : Prop :=
  [first, second].Sublist store.order

theorem precedes_iff_of_filter {before after : Store}
    {keep : String → Bool}
    (same : after.order.filter keep = before.order.filter keep)
    {first second : String} (keepFirst : keep first = true)
    (keepSecond : keep second = true) :
    before.Precedes first second ↔ after.Precedes first second := by
  have amongKept (order : List String) :
      [first, second].Sublist order ↔
        [first, second].Sublist (order.filter keep) := by
    constructor
    · intro before
      simpa [keepFirst, keepSecond] using before.filter keep
    · intro before
      exact before.trans List.filter_sublist
  rw [Precedes, amongKept, ← same, ← amongKept, Precedes]

/-- While a client holds the lock of a file, others can neither remove nor
expel nor write it, nor take the lock away, and the file keeps its place among
those that are there all the while. -/
theorem held_lock_protects (limits : Limits)
    (earlier later : List StoreOperation) (path : String) (client : ClientId)
    (file : StoredFile)
    (found : ((new limits).run earlier).file? path = some file)
    (held : file.owner = some client)
    (others : ∀ operation ∈ later, operation.client? ≠ some client) :
    let store := (new limits).run earlier
    let after := store.run later
    (∃ kept, after.file? path = some kept ∧ kept.owner = some client ∧
      kept.content = file.content ∧ kept.unwritten = file.unwritten) ∧
    (∀ other,
      (∀ early, early <+: later → (store.run early).file? other ≠ none) →
      (store.Precedes path other ↔ after.Precedes path other) ∧
        (store.Precedes other path ↔ after.Precedes other path)) ∧
    ∀ answer ∈ store.answers later,
      (∀ evicted ∈ answer.evictedFiles, evicted.path ≠ path) ∧
        ∀ orphan ∈ answer.orphans, orphan.path ≠ path := by
  intro store after
  have sound : store.Sound := (sound_new limits).run earlier
  refine ⟨?_, ?_, ?_⟩
  · obtain ⟨kept, still, owned, same⟩ := held_run sound later found held others
    simp only [StoredFile.unlockedPart, Prod.mk.injEq] at same
    exact ⟨kept, still, owned, same⟩
  · intro other stays
    have otherStays := (survives_iff later store).mpr stays
    have pathStays : survives path later store = true := by
      rw [survives_iff]
      intro early isEarly
      obtain ⟨kept, still, -⟩ := held_run sound early found held
        fun operation among => others operation (isEarly.subset among)
      simp [still]
    have same := order_filter_run sound later
    exact ⟨precedes_iff_of_filter same pathStays otherStays,
      precedes_iff_of_filter same otherStays pathStays⟩
  · intro answer answered
    exact not_lost_of_held sound later ⟨file, found, held⟩ others answered

/-- In a store with room for two files, the file that is locked stays, and the
one created after it goes. -/
theorem locked_file_outlives_younger_one :
    let store := (new { maxFiles := 2 }).run
      [.create "a" 1 true, .write "a" 1 [7], .create "b" 2 false]
    let after := store.run
      [.remove "a" 2, .lock "a" 2, .create "c" 2 false, .close "a" 2,
        .releaseClient 2, .grantWaiting]
    after.paths = ["a", "c"] ∧
      ∃ kept, after.file? "a" = some kept ∧ kept.owner = some 1 ∧
        kept.content = [7] ∧ kept.unwritten = false := by
  intro store after
  have found : store.file? "a" =
      some { content := [7], unwritten := false, owner := some 1 } := by
    decide
  have others : ∀ operation ∈
      ([.remove "a" 2, .lock "a" 2, .create "c" 2 false, .close "a" 2,
        .releaseClient 2, .grantWaiting] : List StoreOperation),
      operation.client? ≠ some 1 := by
    decide
  exact ⟨by decide,
    (held_lock_protects { maxFiles := 2 } _ _ "a" 1 _ found rfl others).1⟩

end Store

end FileDepot
