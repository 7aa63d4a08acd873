import FileDepot.Proofs.Store.Eviction
import FileDepot.Store.Files

/-!
# Creating, writing and removing, case by case

An operation on files either fails and leaves the store as it was, or does
exactly what is said here.  Whatever is proved about these operations is
proved from their cases.  What is read is what was stored.
-/

namespace FileDepot

namespace Store

/-- How room is made for content: there is enough, or the policy has the given
victims evicted, none of which is the file that is written. -/
def MakesRoom (store : Store) (path : String) (client : ClientId)
    (content : Bytes) (victims : List String) : Prop :=
  (store.byteCount + content.length ≤ store.limits.maxBytes ∧ victims = []) ∨
    (store.limits.maxBytes < store.byteCount + content.length ∧
      store.limits.policy.onByteSize = true ∧
      store.planVictims client (some path)
        { bytes :=
            store.byteCount + content.length - store.limits.maxBytes } =
        some victims)

/-- A store whose file at a path was written and counted. -/
def written (store : Store) (path : String) (file : StoredFile)
    (content : Bytes) : Store :=
  { store.update path (file.fill content) with
    byteCount := store.byteCount + content.length
    mostBytes := max store.mostBytes (store.byteCount + content.length) }

theorem create_cases (store : Store) (path : String) (client : ClientId)
    (lock : Bool) :
    (∃ error, store.create path client lock = (.error error, store)) ∨
    (store.file? path = none ∧ store.fileCount < store.limits.maxFiles ∧
      store.create path client lock =
        (.ok {},
          store.insert path (.created (if lock then some client else none)))) ∨
    ∃ victims, store.file? path = none ∧
      store.limits.maxFiles ≤ store.fileCount ∧
      store.limits.policy.onFileCount = true ∧
      store.planVictims client none
        { files := store.fileCount + 1 - store.limits.maxFiles } =
        some victims ∧
      store.create path client lock =
        (.ok (evict victims store).1,
          (evict victims store).2.insert path
            (.created (if lock then some client else none))) := by
  cases known : store.table.contains path with
  | true => exact Or.inl ⟨.fileExists path, by simp [create, known]⟩
  | false =>
      have absent := store.contains_eq_false_iff.mp known
      by_cases room : store.fileCount < store.limits.maxFiles
      · exact Or.inr (Or.inl ⟨absent, room, by simp [create, known, room]⟩)
      · cases policy : store.limits.policy.onFileCount with
        | false =>
            exact Or.inl ⟨.storageFull, by simp [create, known, room, policy]⟩
        | true =>
            cases planned : store.planVictims client none
                { files := store.fileCount + 1 - store.limits.maxFiles } with
            | none =>
                exact Or.inl ⟨.storageFull,
                  by simp [create, known, room, policy, planned]⟩
            | some victims =>
                refine Or.inr (Or.inr ⟨victims, absent, Nat.le_of_not_lt room,
                  rfl, rfl, ?_⟩)
                simp [create, known, room, policy, planned]

/-- Content that was made room for is written, since its file is spared. -/
theorem fillAfter_of_found {store : Store} {path : String}
    {file : StoredFile} {victims : List String} (content : Bytes)
    (found : store.file? path = some file) (spared : path ∉ victims) :
    store.fillAfter victims path content =
      (.ok (evict victims store).1,
        (evict victims store).2.written path file content) := by
  have still : (evict victims store).2.file? path = some file := by
    rw [file?_evict, if_neg spared, found]
  simp [fillAfter, fill, still, written, Except.map]

theorem not_mem_of_makesRoom {store : Store} {path : String}
    {client : ClientId} {content : Bytes} {victims : List String}
    (makes : store.MakesRoom path client content victims) :
    path ∉ victims := by
  rcases makes with ⟨-, rfl⟩ | ⟨-, -, planned⟩
  · simp
  · intro member
    exact (chooseVictims_eligible planned member).1 rfl

theorem write_cases (store : Store) (path : String) (client : ClientId)
    (content : Bytes) :
    (∃ error, store.write path client content = (.error error, store)) ∨
    ∃ file victims, store.file? path = some file ∧ content ≠ [] ∧
      file.unwritten = true ∧ file.owner = some client ∧
      content.length ≤ store.limits.maxBytes ∧
      store.MakesRoom path client content victims ∧
      store.write path client content =
        (.ok (evict victims store).1,
          (evict victims store).2.written path file content) := by
  cases found : store.file? path with
  | none => exact Or.inl ⟨.notFound path, by simp [write, found]⟩
  | some file =>
      by_cases empty : content = []
      · exact Or.inl ⟨.missingBody, by simp [write, found, empty]⟩
      have nonempty : content.isEmpty = false := by simp [empty]
      cases unwritten : file.unwritten with
      | false =>
          exact Or.inl ⟨.fileExists path,
            by simp [write, found, nonempty, unwritten]⟩
      | true =>
          by_cases owned : file.owner = some client
          case neg =>
            exact Or.inl ⟨.notLockOwner path,
              by simp [write, found, nonempty, unwritten, owned]⟩
          by_cases fits : content.length ≤ store.limits.maxBytes
          case neg =>
            exact Or.inl ⟨.fileTooBig content.length, by
              simp [write, found, nonempty, unwritten, owned,
                Nat.lt_of_not_le fits]⟩
          have notTooBig : ¬store.limits.maxBytes < content.length := by omega
          have succeeds {victims : List String}
              (makes : store.MakesRoom path client content victims)
              (goes : store.write path client content =
                store.fillAfter victims path content) :
              ∃ written victims, some file = some written ∧ content ≠ [] ∧
                written.unwritten = true ∧ written.owner = some client ∧
                content.length ≤ store.limits.maxBytes ∧
                store.MakesRoom path client content victims ∧
                store.write path client content =
                  (.ok (evict victims store).1,
                    (evict victims store).2.written path written content) :=
            ⟨file, victims, rfl, empty, unwritten, owned, fits, makes,
              goes.trans (fillAfter_of_found content found
                (not_mem_of_makesRoom makes))⟩
          by_cases room :
              store.byteCount + content.length ≤ store.limits.maxBytes
          · refine Or.inr (succeeds (Or.inl ⟨room, rfl⟩) ?_)
            simp [write, found, nonempty, unwritten, owned, notTooBig, room]
          · cases policy : store.limits.policy.onByteSize with
            | false =>
                exact Or.inl ⟨.fileTooBig content.length, by
                  simp [write, found, nonempty, unwritten, owned, notTooBig,
                    room, policy]⟩
            | true =>
                cases planned : store.planVictims client (some path)
                    { bytes := store.byteCount + content.length -
                        store.limits.maxBytes } with
                | none =>
                    exact Or.inl ⟨.storageFull, by
                      simp [write, found, nonempty, unwritten, owned,
                        notTooBig, room, policy, planned]⟩
                | some victims =>
                    refine Or.inr (succeeds (Or.inr
                      ⟨Nat.lt_of_not_le room, policy, planned⟩) ?_)
                    simp [write, found, nonempty, unwritten, owned, notTooBig,
                      room, policy, planned]

theorem remove_cases (store : Store) (path : String) (client : ClientId) :
    (∃ error, store.remove path client = (.error error, store)) ∨
    ∃ file smaller, store.file? path = some file ∧
      file.owner = some client ∧ store.take path = some (file, smaller) ∧
      store.remove path client = (.ok (orphansOf path file), smaller) := by
  cases found : store.file? path with
  | none => exact Or.inl ⟨.notFound path, by simp [remove, found]⟩
  | some file =>
      by_cases owned : file.owner = some client
      · obtain ⟨smaller, taken⟩ : ∃ smaller,
            store.take path = some (file, smaller) :=
          ⟨_, take_eq_some_iff.mpr ⟨found, rfl⟩⟩
        exact Or.inr ⟨file, smaller, rfl, owned, taken,
          by simp [remove, found, owned, taken]⟩
      · exact Or.inl ⟨.notLockOwner path, by simp [remove, found, owned]⟩

theorem content_of_read {store : Store} {path : String} {client : ClientId}
    {content : Bytes} (answer : store.read path client = .ok content) :
    ∃ file, store.file? path = some file ∧ file.content = content := by
  cases found : store.file? path with
  | none => simp [read, found] at answer
  | some file =>
      refine ⟨file, rfl, ?_⟩
      cases locked : file.lockedByOther client with
      | true => simp [read, found, locked] at answer
      | false => simpa [read, found, locked] using answer

theorem content_of_readMany {store : Store} {count : Int} {client : ClientId}
    {read : String × Bytes} (listed : read ∈ store.readMany count client) :
    ∃ file, store.file? read.1 = some file ∧ file.content = read.2 := by
  have among : read ∈ store.readAll client := by
    unfold readMany at listed
    split at listed
    · exact listed
    · exact List.mem_of_mem_take listed
  obtain ⟨entry, kept, rfl⟩ := List.mem_map.mp among
  obtain ⟨path, -, found⟩ :=
    List.mem_filterMap.mp (List.mem_filter.mp kept).1
  obtain ⟨file, present, rfl⟩ := Option.map_eq_some_iff.mp found
  exact ⟨file, present, rfl⟩

theorem file?_of_readMany {store : Store} {count : Int} {client : ClientId}
    {read : String × Bytes} (listed : read ∈ store.readMany count client) :
    store.file? read.1 ≠ none := by
  obtain ⟨file, present, -⟩ := content_of_readMany listed
  simp [present]

end Store

end FileDepot
