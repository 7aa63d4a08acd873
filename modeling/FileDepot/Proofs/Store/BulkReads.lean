import FileDepot.Proofs.Store.Accounting

/-!
# Reading many files and reading each

Many files are read along the order in which they were created, one file is
read from the table.  The two agree: what is read in bulk is what the same
client reads path by path, less the files that were never written.
-/

namespace FileDepot

namespace Store

/-- What reading the file at a path adds to a bulk: its content, if the client
may read it and it was ever written. -/
def readWritten (store : Store) (client : ClientId) (path : String) :
    Option (String × Bytes) :=
  match store.info path, store.read path client with
  | some info, .ok content =>
      if info.unwritten then none else some (path, content)
  | _, _ => none

/-- Everything that a client reads path by path, oldest file first. -/
def readEach (store : Store) (client : ClientId) : List (String × Bytes) :=
  store.paths.filterMap (store.readWritten client)

theorem readWritten_eq_some_iff {store : Store} {client : ClientId}
    {path : String} {entry : String × Bytes} :
    store.readWritten client path = some entry ↔
      entry.1 = path ∧ store.read path client = .ok entry.2 ∧
        (store.info path).map FileInfo.unwritten = some false := by
  rcases entry with ⟨other, content⟩
  unfold readWritten
  cases store.info path with
  | none => simp
  | some seen =>
      cases store.read path client with
      | error error => simp
      | ok present =>
          cases written : seen.unwritten with
          | true => simp [written]
          | false =>
              simp only [Option.some.injEq, Prod.mk.injEq, Except.ok.injEq,
                Option.map_some, written, Bool.false_eq_true, if_false,
                and_true]
              exact and_congr_left' eq_comm

theorem file?_of_read {store : Store} {path : String} {client : ClientId}
    {content : Bytes} (answer : store.read path client = .ok content) :
    ∃ file, store.file? path = some file :=
  (content_of_read answer).imp fun _ => And.left

/-- The bulk, which passes the files over that are locked or unwritten, holds
what each of them comes to when it is read. -/
theorem readAll_eq_readEach (store : Store) (client : ClientId) :
    store.readAll client = store.readEach client := by
  unfold readAll files readEach
  rw [List.filter_filterMap, List.map_filterMap]
  apply List.filterMap_congr
  intro path _
  unfold readWritten info Store.read
  cases found : store.file? path with
  | none => rfl
  | some file =>
      cases locked : file.lockedByOther client with
      | true => simp [locked]
      | false =>
          cases unwritten : file.unwritten with
          | true => simp [locked, unwritten]
          | false => simp [locked, unwritten]

theorem map_fst_readEach_sublist (store : Store) (client : ClientId) :
    ((store.readEach client).map Prod.fst).Sublist store.paths := by
  unfold readEach
  induction store.paths with
  | nil => exact .slnil
  | cons path younger ih =>
      cases adds : store.readWritten client path with
      | none =>
          rw [List.filterMap_cons_none adds]
          exact ih.cons path
      | some entry =>
          have named := (readWritten_eq_some_iff.mp adds).1
          rw [List.filterMap_cons_some adds, List.map_cons, named]
          exact ih.cons_cons path

/-- Where order and table agree, every file of the table has its turn. -/
theorem Consistent.mem_readEach_iff {store : Store}
    (consistent : store.Consistent) {client : ClientId} {path : String}
    {content : Bytes} :
    (path, content) ∈ store.readEach client ↔
      store.read path client = .ok content ∧
        (store.info path).map FileInfo.unwritten = some false := by
  unfold readEach
  rw [List.mem_filterMap]
  constructor
  · rintro ⟨other, -, adds⟩
    obtain ⟨rfl, readable⟩ := readWritten_eq_some_iff.mp adds
    exact readable
  · intro readable
    have listed : path ∈ store.paths :=
      (consistent.mem_order_iff_exists path).mpr (file?_of_read readable.1)
    exact ⟨path, listed, readWritten_eq_some_iff.mpr ⟨rfl, readable⟩⟩

/-- In every run of a store, what a client reads in bulk is what it reads path
by path, oldest file first, less the files that were never written: all of it
if the count is not positive, and else as many entries from the front as the
count says and as there are.  So every file of the store that the client may
read and that was written is in the full bulk, once and with its content, and
nothing else is; a smaller count gives a prefix of what a larger one gives.
Reading changes nothing. -/
theorem bulk_and_single_reads_agree (limits : Limits)
    (operations : List StoreOperation) (client : ClientId) :
    let store := (new limits).run operations
    let each := store.readEach client
    (∀ count : Int, store.readMany count client =
      if count ≤ 0 then each else each.take (min count.toNat each.length)) ∧
    (∀ path content, (path, content) ∈ each ↔
      store.read path client = .ok content ∧
        (store.info path).map FileInfo.unwritten = some false) ∧
    (each.map Prod.fst).Sublist store.paths ∧
    (each.map Prod.fst).Nodup ∧
    (∀ fewer more : Int, 0 < fewer → fewer ≤ more →
      store.readMany fewer client <+: store.readMany more client) ∧
    (∀ count, (store.perform (.readMany count client)).2 = store) ∧
    ∀ path, (store.perform (.read path client)).2 = store := by
  intro store each
  have sound : store.Sound := (sound_new limits).run operations
  have sublist := store.map_fst_readEach_sublist client
  have counted (count : Int) (positive : 0 < count) :
      store.readMany count client = each.take count.toNat := by
    rw [readMany, if_neg (Int.not_le.mpr positive), readAll_eq_readEach]
  refine ⟨?_, ?_, sublist, ?_, ?_, fun _ => rfl, fun _ => rfl⟩
  · intro count
    split
    · rename_i unlimited
      rw [readMany, if_pos unlimited, readAll_eq_readEach]
    · rename_i limited
      rw [counted count (Int.not_le.mp limited), ← List.take_eq_take_min]
  · exact fun _ _ => sound.consistent.mem_readEach_iff
  · exact sublist.nodup sound.consistent.order_nodup
  · intro fewer more positive ordered
    rw [counted fewer positive, counted more (by omega)]
    exact List.take_prefix_take_left (Int.toNat_le_toNat ordered)

/-- Of four files one is locked by another client and one was never written;
the other two are read. -/
theorem two_of_four_are_read :
    let store := (new {}).run
      [.create "a" 1 true, .write "a" 1 [1], .unlock "a" 1,
        .create "b" 1 true, .write "b" 1 [2], .create "c" 2 true,
        .create "d" 2 true, .write "d" 2 [4]]
    store.readMany 0 2 = [("a", [1]), ("d", [4])] ∧
      store.read "b" 2 = .error (.lockedByOther "b") ∧
      store.read "c" 2 = .ok [] ∧
      store.readMany 1 2 = [("a", [1])] ∧
      store.readMany 1 2 <+: store.readMany 7 2 := by
  intro store
  obtain ⟨-, -, -, -, prefixes, -⟩ := bulk_and_single_reads_agree {} _ 2
  exact ⟨by decide +kernel, by rfl, by rfl, by decide +kernel,
    prefixes 1 7 (by decide) (by decide)⟩

end Store

end FileDepot
