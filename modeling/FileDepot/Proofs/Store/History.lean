import FileDepot.Proofs.Store.HeldLocks

/-!
# A store is what its history says

The answers of a store tell which files came, were written and went.  From
that history alone one can say which files there are, in which order, and what
is in them, without looking at the table, at the list of paths, or at the mark
that a file has while it is still empty.
-/

namespace FileDepot

/-- What an answer tells about the file at a path. -/
inductive FileEvent
  | created (path : String)
  | written (path : String) (content : Bytes)
  /-- The file was removed or expelled. -/
  | lost (path : String)
  deriving DecidableEq, Repr

namespace FileEvent

/-- Whether a file at a path begins or ends with an event. -/
def settles (path : String) : FileEvent → Bool
  | created other | lost other => path = other
  | written _ _ => false

/-- What an event writes into the file at a path. -/
def contentAt? (path : String) : FileEvent → Option Bytes
  | written other content => if path = other then some content else none
  | _ => none

end FileEvent

/-- What an operation did to files, as its answer tells. -/
def StoreOperation.events : StoreOperation → StoreAnswer → List FileEvent
  | create path _ _, .stored (.ok evicted) =>
      evicted.files.map (.lost ·.path) ++ [.created path]
  | write path _ content, .stored (.ok evicted) =>
      evicted.files.map (.lost ·.path) ++ [.written path content]
  | remove path _, .removed (.ok _) => [.lost path]
  | _, _ => []

/-- What the answers to the operations of a run tell, in their order. -/
def Store.history (operations : List StoreOperation) (store : Store) :
    List FileEvent :=
  (operations.zip (answers operations store)).flatMap fun (operation, answer) =>
    operation.events answer

/-! ## Reading a history -/

/-- The paths that were created and not lost since, in the order of their
latest creation. -/
def standing : List FileEvent → List String
  | [] => []
  | .created path :: later =>
      if later.any (·.settles path) then standing later
      else path :: standing later
  | _ :: later => standing later

/-- What happened after the latest creation of a file at a path. -/
def sinceCreation (path : String) (events : List FileEvent) :
    List FileEvent :=
  (events.reverse.takeWhile (· ≠ .created path)).reverse

/-- The contents written to a path since a file was created there. -/
def writesSince (path : String) (events : List FileEvent) : List Bytes :=
  (sinceCreation path events).filterMap (·.contentAt? path)

/-- A file is there with the content of the only write since its creation, or
empty if there was none. -/
def Stands (events : List FileEvent) (path : String) (content : Bytes) :
    Prop :=
  path ∈ standing events ∧
    (writesSince path events = [] ∧ content = [] ∨
      writesSince path events = [content])

theorem standing_append_singleton (events : List FileEvent)
    (event : FileEvent) :
    standing (events ++ [event]) =
      (standing events).filter (fun path => !event.settles path) ++
        standing [event] := by
  induction events with
  | nil => rfl
  | cons first later ih =>
      cases first with
      | written | lost => exact ih
      | created path =>
          cases resettled : later.any (·.settles path) with
          | true => simp [standing, resettled, ih]
          | false =>
              cases settles : event.settles path with
              | true => simp [standing, resettled, settles, ih]
              | false => simp [standing, resettled, settles, ih]

example : standing
    [.created "a", .created "b", .lost "a", .written "b" [7], .created "a"] =
      ["b", "a"] := by
  decide

theorem sinceCreation_append_singleton (path : String)
    (events : List FileEvent) (event : FileEvent) :
    sinceCreation path (events ++ [event]) =
      if event = .created path then []
      else sinceCreation path events ++ [event] := by
  unfold sinceCreation
  rw [List.reverse_append, List.reverse_singleton, List.singleton_append,
    List.takeWhile_cons]
  by_cases creates : event = .created path
  · simp [creates]
  · simp [creates]

theorem writesSince_append_singleton (path : String)
    (events : List FileEvent) (event : FileEvent) :
    writesSince path (events ++ [event]) =
      if event = .created path then []
      else writesSince path events ++ (event.contentAt? path).toList := by
  unfold writesSince
  rw [sinceCreation_append_singleton]
  by_cases creates : event = .created path
  · simp [creates]
  · rw [if_neg creates, if_neg creates, List.filterMap_append]
    cases writes : event.contentAt? path with
    | none => simp [writes]
    | some content => simp [writes]

/-- What was ever written into a file. -/
def StoredFile.writes (file : StoredFile) : List Bytes :=
  if file.unwritten then [] else [file.content]

theorem StoredFile.writes_eq_of_unlockedPart {first second : StoredFile}
    (same : first.unlockedPart = second.unlockedPart) :
    first.writes = second.writes := by
  obtain ⟨content, unwritten⟩ := Prod.mk.inj same
  simp [writes, content, unwritten]

namespace Store

/-- A store is what a history says. -/
structure Recorded (events : List FileEvent) (store : Store) : Prop where
  order_eq : store.order = standing events
  writes_eq {path : String} {file : StoredFile} :
    store.file? path = some file → writesSince path events = file.writes

theorem recorded_new (limits : Limits) : (new limits).Recorded [] where
  order_eq := rfl
  writes_eq := fun found => by simp [new, file?] at found

namespace Recorded

variable {events : List FileEvent} {store : Store}
  (recorded : store.Recorded events)

include recorded

theorem take (consistent : store.Consistent) {path : String}
    {file : StoredFile} {smaller : Store}
    (taken : store.take path = some (file, smaller)) :
    smaller.Recorded (events ++ [.lost path]) where
  order_eq := by
    rw [consistent.order_take taken, standing_append_singleton,
      ← recorded.order_eq]
    simp [standing, FileEvent.settles]
  writes_eq := by
    intro other present found
    rw [file?_of_take taken] at found
    by_cases same : other = path
    · simp [same] at found
    · rw [if_neg same] at found
      simp [writesSince_append_singleton, FileEvent.contentAt?,
        recorded.writes_eq found]

theorem evict (consistent : store.Consistent) (victims : List String) :
    (Store.evict victims store).2.Recorded
      (events ++ (Store.evict victims store).1.files.map (.lost ·.path)) := by
  induction victims generalizing events store with
  | nil => simpa [Store.evict] using recorded
  | cons victim others ih =>
      cases taken : store.take victim with
      | none =>
          rw [evict_cons_of_absent (take_eq_none_iff.mp taken)]
          exact ih recorded consistent
      | some removed =>
          rcases removed with ⟨file, smaller⟩
          have without : Recorded (events ++ [.lost victim])
              { smaller with evictions := smaller.evictions + 1 } :=
            ⟨(recorded.take consistent taken).order_eq,
              (recorded.take consistent taken).writes_eq⟩
          have rest := ih without ((consistent.take taken).1.countEvictions _)
          rw [evict_cons_of_take taken]
          simpa using rest

theorem insert (consistent : store.Consistent) {path : String}
    (absent : store.file? path = none) (owner : Option ClientId) :
    (store.insert path (.created owner)).Recorded
      (events ++ [.created path]) where
  order_eq := by
    have unlisted : path ∉ store.order := by
      simp [consistent.mem_order_iff_exists, absent]
    have others : store.order.filter
        (fun other => !(FileEvent.created path).settles other) =
          store.order := by
      apply List.filter_eq_self.mpr
      intro other listed
      have different : other ≠ path := fun same => unlisted (same ▸ listed)
      simp [FileEvent.settles, different]
    rw [standing_append_singleton, ← recorded.order_eq, others]
    rfl
  writes_eq := by
    intro other present found
    rw [file?_insert] at found
    by_cases same : other = path
    · rw [if_pos same, Option.some.injEq] at found
      simp [writesSince_append_singleton, same, ← found, StoredFile.writes,
        StoredFile.created]
    · rw [if_neg same] at found
      have notHere : path ≠ other := fun equal => same equal.symm
      simp [writesSince_append_singleton, FileEvent.contentAt?, notHere,
        recorded.writes_eq found]

theorem written {path : String} {file : StoredFile}
    (found : store.file? path = some file) (unwritten : file.unwritten = true)
    (content : Bytes) :
    (store.written path file content).Recorded
      (events ++ [.written path content]) where
  order_eq := by
    rw [standing_append_singleton, ← recorded.order_eq]
    simp [Store.written, update, standing, FileEvent.settles]
  writes_eq := by
    intro other present foundOther
    change (store.update path (file.fill content)).file? other = _
      at foundOther
    rw [file?_update_of_found found] at foundOther
    by_cases same : other = path
    · rw [if_pos same, Option.some.injEq] at foundOther
      have empty : writesSince path events = [] := by
        rw [recorded.writes_eq found, StoredFile.writes, if_pos unwritten]
      simp [writesSince_append_singleton, FileEvent.contentAt?, same, empty,
        ← foundOther, StoredFile.writes, StoredFile.fill]
    · rw [if_neg same] at foundOther
      simp [writesSince_append_singleton, FileEvent.contentAt?, same,
        recorded.writes_eq foundOther]

/-- Locks are no part of the history of files. -/
theorem of_sameButLocks {after : Store} (same : SameButLocks store after) :
    after.Recorded events where
  order_eq := same.order_eq.trans recorded.order_eq
  writes_eq := by
    intro path file found
    obtain ⟨old, foundOld, parts⟩ := same.file?_of_after found
    rw [recorded.writes_eq foundOld, StoredFile.writes_eq_of_unlockedPart parts]

/-- What an operation answers is what it did. -/
theorem perform (consistent : store.Consistent)
    (operation : StoreOperation) :
    (store.perform operation).2.Recorded
      (events ++ operation.events (store.perform operation).1) := by
  cases only : operation.onlyLocks with
  | true =>
      have untold : operation.events (store.perform operation).1 = [] := by
        cases operation with
        | create | write | remove => cases only
        | _ => rfl
      rw [untold, List.append_nil]
      exact recorded.of_sameButLocks (sameButLocks_perform store only)
  | false =>
      cases operation with
      | create path client lock =>
          rcases create_cases store path client lock with
            ⟨error, goes⟩ | ⟨absent, -, goes⟩ |
              ⟨victims, absent, -, -, planned, goes⟩
          · simpa [Store.perform, goes, StoreOperation.events] using recorded
          · rw [Store.perform, goes]
            exact recorded.insert consistent absent _
          · have stillAbsent :
                (Store.evict victims store).2.file? path = none := by
              simp [file?_evict, absent]
            have created := (recorded.evict consistent victims).insert
              (consistent.evict_planned planned).1 stillAbsent
              (if lock then some client else none)
            rw [Store.perform, goes]
            simpa [StoreOperation.events] using created
      | write path client content =>
          rcases write_cases store path client content with
            ⟨error, goes⟩ |
              ⟨file, victims, found, -, unwritten, -, -, makes, goes⟩
          · simpa [Store.perform, goes, StoreOperation.events] using recorded
          · have still :
                (Store.evict victims store).2.file? path = some file := by
              rw [file?_evict, if_neg (not_mem_of_makesRoom makes), found]
            have filled := (recorded.evict consistent victims).written still
              unwritten content
            rw [Store.perform, goes]
            simpa [StoreOperation.events] using filled
      | remove path client =>
          rcases remove_cases store path client with
            ⟨error, goes⟩ | ⟨file, smaller, -, -, taken, goes⟩
          · simpa [Store.perform, goes, StoreOperation.events] using recorded
          · rw [Store.perform, goes]
            exact recorded.take consistent taken
      | _ => cases only

/-- Every run goes on with the history of its store. -/
theorem run (sound : store.Sound) (operations : List StoreOperation) :
    (store.run operations).Recorded
      (events ++ store.history operations) := by
  induction operations generalizing events store with
  | nil => simpa [Store.run, Store.history] using recorded
  | cons operation later ih =>
      have rest := ih (recorded.perform sound.consistent operation)
        (sound.perform operation)
      simpa [Store.run, Store.history, answers] using rest

/-- What is in a file is what was written to it. -/
theorem stands (consistent : store.Consistent) {path : String}
    {file : StoredFile} (found : store.file? path = some file) :
    Stands events path file.content := by
  have listed : path ∈ store.order :=
    (consistent.mem_order_iff_exists path).mpr ⟨file, found⟩
  refine ⟨recorded.order_eq ▸ listed, ?_⟩
  rw [recorded.writes_eq found, StoredFile.writes]
  cases unwritten : file.unwritten with
  | true => exact Or.inl ⟨rfl, (consistent.unwritten_iff found).mp unwritten⟩
  | false => exact Or.inr rfl

end Recorded

/-- A store is what its history says.  In every state of every run the files
are those that were created and not lost since, in the order of their latest
creation.  Each was written at most once since then, and what is read of it,
alone or among many, or handed out when it is expelled, is what was written
then, or empty if nothing was. -/
theorem is_what_its_history_says (limits : Limits)
    (operations : List StoreOperation) :
    let store := (new limits).run operations
    let events := (new limits).history operations
    store.paths = standing events ∧
      (∀ path ∈ store.paths, (writesSince path events).length ≤ 1) ∧
      (∀ path client content, store.read path client = .ok content →
        Stands events path content) ∧
      (∀ count client, ∀ entry ∈ store.readMany count client,
        Stands events entry.1 entry.2) ∧
      ∀ operation, ∀ evicted ∈ (store.perform operation).1.evictedFiles,
        Stands events evicted.path evicted.content := by
  intro store events
  have sound : store.Sound := (sound_new limits).run operations
  have recorded : store.Recorded events :=
    (recorded_new limits).run (sound_new limits) operations
  have stands {path : String} {file : StoredFile}
      (found : store.file? path = some file) :=
    recorded.stands sound.consistent found
  refine ⟨recorded.order_eq, ?_, ?_, ?_, ?_⟩
  · intro path listed
    obtain ⟨file, found⟩ :=
      (sound.consistent.mem_order_iff_exists path).mp listed
    rcases (stands found).2 with ⟨unwritten, -⟩ | once
    · simp [unwritten]
    · simp [once]
  · intro path client content answer
    obtain ⟨file, found, rfl⟩ := content_of_read answer
    exact stands found
  · intro count client entry listed
    obtain ⟨file, found, content⟩ := content_of_readMany listed
    exact content ▸ stands found
  · intro operation evicted handed
    obtain ⟨file, found, content⟩ :=
      content_of_evicted sound.consistent handed
    exact content ▸ stands found

end Store

end FileDepot
