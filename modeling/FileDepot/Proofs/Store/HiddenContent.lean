import FileDepot.Proofs.Store.LockOperations
import FileDepot.Proofs.Store.Eviction
import FileDepot.Store.Files

/-!
# Content behind somebody else's lock

Two stores may differ, for a client, in nothing but the bytes of files that
somebody else has locked.  Whatever the client asks of them, it gets the same
answer from both, and they differ in nothing else afterwards.
-/

namespace FileDepot

/-- Two files that differ in nothing that a client may see: somebody else's
lock hides the bytes of the content, but not their number. -/
structure StoredFile.SameFor (client : ClientId) (first second : StoredFile) :
    Prop where
  owner : first.owner = second.owner
  waiters : first.waiters = second.waiters
  unwritten : first.unwritten = second.unwritten
  size : first.size = second.size
  content : first.lockedByOther client = false →
    first.content = second.content

namespace StoredFile

theorem lockedByOther_eq_false_iff {file : StoredFile} {client : ClientId} :
    file.lockedByOther client = false ↔
      file.owner = none ∨ file.owner = some client := by
  unfold lockedByOther
  split
  · rename_i owner held
    simp [held]
  · rename_i free
    simp [free]

namespace SameFor

variable {client : ClientId} {first second : StoredFile}

theorem refl (client : ClientId) (file : StoredFile) :
    SameFor client file file :=
  ⟨rfl, rfl, rfl, rfl, fun _ => rfl⟩

variable (same : SameFor client first second)

include same

theorem lockedByOther_eq (other : ClientId) :
    first.lockedByOther other = second.lockedByOther other := by
  rw [StoredFile.lockedByOther, StoredFile.lockedByOther, same.owner]

theorem eq_of_visible (visible : first.lockedByOther client = false) :
    first = second := by
  have content := same.content visible
  obtain ⟨owner, waiters, unwritten, -, -⟩ := same
  cases first
  cases second
  cases owner
  cases waiters
  cases unwritten
  cases content
  rfl

theorem lock :
    (first.lock client).1 = (second.lock client).1 ∧
      SameFor client (first.lock client).2 (second.lock client).2 := by
  by_cases visible : first.lockedByOther client = false
  · rw [same.eq_of_visible visible]
    exact ⟨rfl, .refl client _⟩
  · obtain ⟨notFree, notHeld⟩ :=
      not_or.mp (mt lockedByOther_eq_false_iff.mpr visible)
    have busy : ¬(first.owner = none ∧ first.waiters = []) :=
      fun free => notFree free.1
    unfold StoredFile.lock
    rw [← same.owner, ← same.waiters, if_neg notHeld, if_neg notHeld,
      if_neg busy, if_neg busy]
    split
    · exact ⟨rfl, same⟩
    · exact ⟨rfl, rfl, rfl, same.unwritten, same.size, same.content⟩

theorem release :
    SameFor client (first.release client) (second.release client) := by
  by_cases held : first.owner = some client
  · rw [same.eq_of_visible (lockedByOther_eq_false_iff.mpr (Or.inr held))]
    exact .refl client _
  · unfold StoredFile.release
    rw [if_neg held, if_neg (same.owner ▸ held)]
    exact same

theorem fill (content : Bytes) :
    SameFor client (first.fill content) (second.fill content) :=
  ⟨same.owner, same.waiters, rfl, rfl, fun _ => rfl⟩

theorem withdraw :
    SameFor client (first.withdraw client) (second.withdraw client) :=
  ⟨same.owner, congrArg (List.filter (· ≠ client)) same.waiters,
    same.unwritten, same.size, same.content⟩

end SameFor

end StoredFile

namespace Store

/-- Two stores that differ, for a client, in nothing but the bytes of files
that somebody else has locked. -/
structure SameFor (client : ClientId) (first second : Store) : Prop where
  frame : second = { first with table := second.table }
  files : ∀ path, Option.Rel (StoredFile.SameFor client)
    (first.file? path) (second.file? path)

/-- An operation on two stores gave the same answer, and left nothing that the
client may see different. -/
structure SameOutcome {Answer : Type} (client : ClientId)
    (first second : Answer × Store) : Prop where
  answer : first.1 = second.1
  store : SameFor client first.2 second.2

theorem SameOutcome.split {Answer : Type} {client : ClientId}
    {first second : Answer × Store} (same : SameOutcome client first second) :
    ∃ answer one other, first = (answer, one) ∧ second = (answer, other) ∧
      SameFor client one other :=
  ⟨first.1, first.2, second.2, rfl, by rw [same.answer], same.store⟩

namespace SameFor

variable {client : ClientId} {first second : Store}

theorem refl (client : ClientId) (store : Store) :
    SameFor client store store where
  frame := rfl
  files := by
    intro path
    cases store.file? path with
    | none => exact .none
    | some file => exact .some (.refl client file)

variable (same : SameFor client first second)

include same

theorem limits_eq : second.limits = first.limits := by
  rw [same.frame]

theorem order_eq : second.order = first.order := by
  rw [same.frame]

theorem fileCount_eq : second.fileCount = first.fileCount := by
  rw [same.frame]

theorem byteCount_eq : second.byteCount = first.byteCount := by
  rw [same.frame]

theorem file?_cases (path : String) :
    (first.file? path = none ∧ second.file? path = none) ∨
    ∃ one other, first.file? path = some one ∧
      second.file? path = some other ∧ one.SameFor client other := by
  have related := same.files path
  cases here : first.file? path <;> cases there : second.file? path <;>
    rw [here, there] at related <;> cases related
  · exact Or.inl ⟨rfl, rfl⟩
  · rename_i one other alike
    exact Or.inr ⟨one, other, rfl, rfl, alike⟩

theorem contains_eq (path : String) :
    second.table.contains path = first.table.contains path := by
  rw [Bool.eq_iff_iff, contains_iff, contains_iff]
  rcases same.file?_cases path with
    ⟨here, there⟩ | ⟨one, other, here, there, -⟩
  · simp [here, there]
  · simp [here, there]

theorem answer {Answer : Type} (answer : Answer) :
    SameOutcome client (answer, first) (answer, second) :=
  ⟨rfl, same⟩

theorem countEviction :
    SameFor client { first with evictions := first.evictions + 1 }
      { second with evictions := second.evictions + 1 } where
  frame := by
    rw [same.frame]
  files := same.files

theorem insert (path : String) (file : StoredFile) :
    SameFor client (first.insert path file) (second.insert path file) where
  frame := by
    rw [same.frame]
    rfl
  files := by
    intro other
    rw [file?_insert, file?_insert]
    split
    · exact .some (.refl client file)
    · exact same.files other

theorem update {path : String} {one other : StoredFile}
    (alike : one.SameFor client other) :
    SameFor client (first.update path one) (second.update path other) where
  frame := by
    rw [same.frame]
    rfl
  files := by
    intro elsewhere
    rw [file?_update, file?_update]
    split
    · rcases same.file?_cases elsewhere with
        ⟨here, there⟩ | ⟨_, _, here, there, -⟩
      · rw [here, there]
        exact .none
      · rw [here, there]
        exact .some alike
    · exact same.files elsewhere

theorem take {path : String} {one other : StoredFile} {less fewer : Store}
    (alike : one.SameFor client other)
    (taken : first.take path = some (one, less))
    (alsoTaken : second.take path = some (other, fewer)) :
    SameFor client less fewer where
  frame := by
    obtain ⟨-, rfl⟩ := take_eq_some_iff.mp taken
    obtain ⟨-, rfl⟩ := take_eq_some_iff.mp alsoTaken
    rw [same.frame, alike.size]
  files := by
    intro elsewhere
    rw [file?_of_take taken, file?_of_take alsoTaken]
    split
    · exact .none
    · exact same.files elsewhere

section Locks

variable (path : String)

theorem «open» (lock : Bool) :
    SameOutcome client (first.open path client lock)
      (second.open path client lock) := by
  unfold Store.open
  rcases same.file?_cases path with
    ⟨here, there⟩ | ⟨one, other, here, there, alike⟩
  · rw [here, there]
    exact same.answer _
  · rw [here, there]
    cases lock with
    | false => exact same.answer _
    | true =>
        exact ⟨congrArg (Except.ok ∘ some) alike.lock.1,
          same.update alike.lock.2⟩

theorem lock :
    SameOutcome client (first.lock path client) (second.lock path client) := by
  unfold Store.lock
  rcases same.file?_cases path with
    ⟨here, there⟩ | ⟨one, other, here, there, alike⟩
  · rw [here, there]
    exact same.answer _
  · rw [here, there]
    exact ⟨congrArg Except.ok alike.lock.1, same.update alike.lock.2⟩

theorem unlock :
    SameOutcome client (first.unlock path client)
      (second.unlock path client) := by
  unfold Store.unlock
  rcases same.file?_cases path with
    ⟨here, there⟩ | ⟨one, other, here, there, alike⟩
  · rw [here, there]
    exact same.answer _
  · rw [here, there]
    dsimp only
    rw [← alike.owner]
    split
    · exact ⟨rfl, same.update alike.release⟩
    · exact same.answer _

theorem close :
    SameOutcome client (first.close path client)
      (second.close path client) := by
  unfold Store.close
  rcases same.file?_cases path with
    ⟨here, there⟩ | ⟨one, other, here, there, alike⟩
  · rw [here, there]
    exact same.answer _
  · rw [here, there]
    dsimp only
    rw [← alike.owner]
    exact ⟨rfl, same.update alike.withdraw.release⟩

end Locks

section Reading

theorem read_eq (path : String) :
    second.read path client = first.read path client := by
  unfold Store.read
  rcases same.file?_cases path with
    ⟨here, there⟩ | ⟨one, other, here, there, alike⟩
  · rw [here, there]
  · rw [here, there]
    dsimp only
    rw [← alike.lockedByOther_eq]
    split
    · rfl
    · rename_i visible
      rw [alike.content (Bool.eq_false_iff.mpr visible)]

theorem readAll_eq : second.readAll client = first.readAll client := by
  unfold Store.readAll Store.files
  rw [same.order_eq, List.filter_filterMap, List.filter_filterMap,
    List.map_filterMap, List.map_filterMap]
  apply List.filterMap_congr
  intro path _
  rcases same.file?_cases path with
    ⟨here, there⟩ | ⟨one, other, here, there, alike⟩
  · rw [here, there]
  · rw [here, there]
    simp only [Option.map_some, Option.filter_some, ← alike.lockedByOther_eq,
      ← alike.unwritten]
    cases visible : one.lockedByOther client with
    | true => rfl
    | false => rw [alike.eq_of_visible visible]

theorem readMany_eq (count : Int) :
    second.readMany count client = first.readMany count client := by
  rw [Store.readMany, Store.readMany, same.readAll_eq]

end Reading

section Filing

variable (spared : Option String)

theorem chooseVictims_eq (paths : List String) (need : Shortfall) :
    second.chooseVictims client spared paths need =
      first.chooseVictims client spared paths need := by
  induction paths generalizing need with
  | nil => rfl
  | cons path younger ih =>
      simp only [chooseVictims]
      rcases same.file?_cases path with
        ⟨here, there⟩ | ⟨one, other, here, there, alike⟩
      · rw [here, there]
        dsimp only
        rw [ih]
      · rw [here, there]
        dsimp only
        have passed : passesOver spared client need path other =
            passesOver spared client need path one := by
          rw [passesOver, passesOver, alike.lockedByOther_eq, alike.size]
        have less : need.less other = need.less one := by
          rw [Shortfall.less, Shortfall.less, alike.size]
        rw [passed, less, ih, ih]

theorem planVictims_eq (need : Shortfall) :
    second.planVictims client spared need =
      first.planVictims client spared need := by
  rw [planVictims, planVictims, same.order_eq, same.chooseVictims_eq]

/-- A client gets the same contents of files that nobody else has locked. -/
theorem evict {victims : List String}
    (visible : ∀ victim ∈ victims, ∀ file, first.file? victim = some file →
      file.lockedByOther client = false) :
    SameOutcome client (Store.evict victims first)
      (Store.evict victims second) := by
  induction victims generalizing first second with
  | nil => exact same.answer _
  | cons victim others ih =>
      obtain ⟨victimVisible, othersVisible⟩ := List.forall_mem_cons.mp visible
      rcases same.file?_cases victim with
        ⟨here, there⟩ | ⟨one, other, here, there, alike⟩
      · rw [evict_cons_of_absent here, evict_cons_of_absent there]
        exact ih same othersVisible
      · obtain rfl := alike.eq_of_visible (victimVisible one here)
        obtain ⟨less, taken⟩ : ∃ less, first.take victim = some (one, less) :=
          ⟨_, take_eq_some_iff.mpr ⟨here, rfl⟩⟩
        obtain ⟨fewer, alsoTaken⟩ :
            ∃ fewer, second.take victim = some (one, fewer) :=
          ⟨_, take_eq_some_iff.mpr ⟨there, rfl⟩⟩
        have stillVisible : ∀ path ∈ others, ∀ file,
            less.file? path = some file →
              file.lockedByOther client = false := by
          intro path among file found
          rw [file?_of_take taken] at found
          split at found
          · cases found
          · exact othersVisible path among file found
        have later := ih (same.take alike taken alsoTaken).countEviction
          stillVisible
        rw [evict_cons_of_take taken, evict_cons_of_take alsoTaken]
        have answers := congrArg (fun evicted : Evicted =>
          { files := ⟨victim, one.content⟩ :: evicted.files
            orphans := orphansOf victim one ++ evicted.orphans : Evicted })
          later.answer
        exact ⟨answers, later.store⟩

omit same in
theorem visible_of_planned {need : Shortfall} {victims : List String}
    (planned : first.planVictims client spared need = some victims) :
    ∀ victim ∈ victims, ∀ file, first.file? victim = some file →
      file.lockedByOther client = false := by
  intro victim member file found
  obtain ⟨-, eligible, present, visible⟩ :=
    chooseVictims_eligible planned member
  obtain rfl := Option.some.inj (present.symm.trans found)
  exact visible

theorem create (path : String) (lock : Bool) :
    SameOutcome client (first.create path client lock)
      (second.create path client lock) := by
  unfold Store.create
  simp only [same.contains_eq, same.fileCount_eq, same.limits_eq,
    same.planVictims_eq]
  split
  · exact same.answer _
  · split
    · exact ⟨rfl, same.insert path _⟩
    · split
      · cases planned : first.planVictims client none
            { files := first.fileCount + 1 - first.limits.maxFiles } with
        | none => exact same.answer _
        | some victims =>
            have evicted := same.evict (visible_of_planned none planned)
            exact ⟨congrArg Except.ok evicted.answer,
              evicted.store.insert path _⟩
      · exact same.answer _

theorem fill (path : String) (content : Bytes) :
    SameOutcome client (first.fill path content)
      (second.fill path content) := by
  unfold Store.fill
  rcases same.file?_cases path with
    ⟨here, there⟩ | ⟨one, other, here, there, alike⟩
  · rw [here, there]
    exact same.answer _
  · rw [here, there]
    refine ⟨rfl, ?_, (same.update (alike.fill content)).files⟩
    dsimp only
    rw [same.frame]
    rfl

theorem fillAfter {victims : List String}
    (visible : ∀ victim ∈ victims, ∀ file, first.file? victim = some file →
      file.lockedByOther client = false) (path : String) (content : Bytes) :
    SameOutcome client (first.fillAfter victims path content)
      (second.fillAfter victims path content) := by
  have evicted := same.evict visible
  have filled := evicted.store.fill path content
  refine ⟨?_, filled.store⟩
  change Except.map (fun _ => (Store.evict victims first).1) _ =
    Except.map (fun _ => (Store.evict victims second).1) _
  rw [evicted.answer]
  exact congrArg _ filled.answer

theorem write (path : String) (content : Bytes) :
    SameOutcome client (first.write path client content)
      (second.write path client content) := by
  unfold Store.write
  simp only [same.byteCount_eq, same.limits_eq, same.planVictims_eq]
  rcases same.file?_cases path with
    ⟨here, there⟩ | ⟨one, other, here, there, alike⟩
  · rw [here, there]
    exact same.answer _
  · rw [here, there]
    dsimp only
    rw [← alike.owner, ← alike.unwritten]
    repeat' split
    any_goals exact same.answer _
    · exact same.fillAfter (by simp) path content
    · rename_i victims planned
      exact same.fillAfter (visible_of_planned _ planned) path content

theorem remove (path : String) :
    SameOutcome client (first.remove path client)
      (second.remove path client) := by
  unfold Store.remove
  rcases same.file?_cases path with
    ⟨here, there⟩ | ⟨one, other, here, there, alike⟩
  · rw [here, there]
    exact same.answer _
  · rw [here, there]
    dsimp only
    rw [← alike.owner]
    split
    · exact same.answer _
    · obtain ⟨less, taken⟩ : ∃ less, first.take path = some (one, less) :=
        ⟨_, take_eq_some_iff.mpr ⟨here, rfl⟩⟩
      obtain ⟨fewer, alsoTaken⟩ :
          ∃ fewer, second.take path = some (other, fewer) :=
        ⟨_, take_eq_some_iff.mpr ⟨there, rfl⟩⟩
      rw [taken, alsoTaken]
      refine ⟨?_, same.take alike taken alsoTaken⟩
      dsimp only
      rw [orphansOf, orphansOf, alike.waiters]

end Filing

end SameFor

end Store

end FileDepot
