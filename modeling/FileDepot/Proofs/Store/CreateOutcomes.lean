import FileDepot.Proofs.Store.VictimChoice

/-!
# How creating turns out

A file is created unless there is one at its path or there is no place for
it.  Only a store that holds as many files as it may has to make a place, and
it does so by expelling one file: the oldest that nobody but the creator has
locked.
-/

namespace FileDepot

namespace Store

/-- Why a creation is refused, if it is. -/
def createRefusal? (store : Store) (path : String) (client : ClientId) :
    Option Error :=
  if (store.file? path).isSome then some (.fileExists path)
  else if store.paths.length < store.limits.maxFiles then none
  else if store.limits.policy.onFileCount = false then some .storageFull
  else if store.paths.all (store.heldFrom client) then some .storageFull
  else none

/-- How a place is made for one more file: there is one, or the oldest file
goes that nobody but the creator has locked. -/
def MakesPlace (store : Store) (client : ClientId) (victims : List String) :
    Prop :=
  (store.paths.length < store.limits.maxFiles ∧ victims = []) ∨
    (store.limits.maxFiles ≤ store.paths.length ∧
      ∃ oldest, store.paths.find? (store.expendable client) = some oldest ∧
        victims = [oldest])

theorem MakesPlace.sublist {store : Store} {client : ClientId}
    {victims : List String} (makes : store.MakesPlace client victims) :
    victims.Sublist store.paths := by
  rcases makes with ⟨-, rfl⟩ | ⟨-, oldest, first, rfl⟩
  · exact List.nil_sublist _
  · exact List.singleton_sublist.mpr (List.mem_of_find?_eq_some first)

theorem Consistent.fileCount_eq_length {store : Store}
    (consistent : store.Consistent) :
    store.fileCount = store.paths.length := by
  rw [consistent.fileCount_eq, paths, consistent.order_perm_keys.length_eq,
    Index.keys, List.length_map, Index.size]

/-- A creation either is refused, for the reason told, or makes a place and
adds the new file. -/
theorem Sound.create_outcome {store : Store} (sound : store.Sound)
    (path : String) (client : ClientId) (lock : Bool) :
    (∃ error, store.createRefusal? path client = some error ∧
      store.create path client lock = (.error error, store)) ∨
    ∃ victims, store.createRefusal? path client = none ∧
      store.file? path = none ∧ store.MakesPlace client victims ∧
      store.create path client lock =
        (.ok (evict victims store).1,
          (evict victims store).2.insert path
            (.created (if lock then some client else none))) := by
  have counted := sound.consistent.fileCount_eq_length
  cases found : store.file? path with
  | some file =>
      have known : store.table.contains path = true :=
        store.contains_iff.mpr ⟨file, found⟩
      exact Or.inl ⟨.fileExists path, by simp [createRefusal?, found],
        by simp [Store.create, known]⟩
  | none =>
      have known := store.contains_eq_false_iff.mpr found
      by_cases room : store.paths.length < store.limits.maxFiles
      case pos =>
        exact Or.inr ⟨[], by simp [createRefusal?, found, room], rfl,
          Or.inl ⟨room, rfl⟩,
          by simp [Store.create, known, counted, room, evict]⟩
      cases policy : store.limits.policy.onFileCount with
      | false =>
          exact Or.inl ⟨.storageFull,
            by simp [createRefusal?, found, room, policy],
            by simp [Store.create, known, counted, room, policy]⟩
      | true =>
          -- A store is never fuller than full, so one file has to go.
          have excess : store.fileCount + 1 - store.limits.maxFiles = 1 := by
            have within := sound.within.fileCount_le
            omega
          have full : ¬store.fileCount < store.limits.maxFiles :=
            counted ▸ room
          have planned : store.planVictims client none { files := 1 } =
              (store.paths.find? (store.expendable client)).map
                fun victim => [victim] :=
            chooseVictims_one store.order
          cases first : store.paths.find? (store.expendable client) with
          | none =>
              have held : store.paths.all (store.heldFrom client) = true := by
                rw [List.all_eq_true]
                intro other stored
                have kept := List.find?_eq_none.mp first other stored
                simpa [sound.consistent.expendable_eq stored] using kept
              exact Or.inl ⟨.storageFull,
                by simp only [createRefusal?, found, room, policy, held]; rfl,
                by simp [Store.create, known, full, policy, excess, planned,
                  first]⟩
          | some oldest =>
              have stored := List.mem_of_find?_eq_some first
              have unheld : store.heldFrom client oldest = false := by
                simpa [sound.consistent.expendable_eq stored] using
                  List.find?_some first
              have notAll :
                  store.paths.all (store.heldFrom client) = false :=
                List.all_eq_false.mpr ⟨oldest, stored, by simp [unheld]⟩
              exact Or.inr ⟨[oldest],
                by simp [createRefusal?, found, room, policy, notAll], rfl,
                Or.inr ⟨Nat.le_of_not_lt room, oldest, first, rfl⟩,
                by simp [Store.create, known, full, policy, excess, planned,
                  first]⟩

theorem Sound.createRefusal?_of_noPlaces {store : Store} (sound : store.Sound)
    (noPlaces : store.limits.maxFiles = 0) (path : String)
    (client : ClientId) :
    store.createRefusal? path client = some .storageFull := by
  have counted := sound.consistent.fileCount_eq_length
  have within := sound.within.fileCount_le
  have noFiles : store.paths = [] :=
    List.eq_nil_of_length_eq_zero (by omega)
  have absent : store.file? path = none := by
    rw [Option.eq_none_iff_forall_ne_some]
    intro file found
    have stored :=
      (sound.consistent.mem_order_iff_exists path).mpr ⟨file, found⟩
    rw [← paths, noFiles] at stored
    cases stored
  simp [createRefusal?, absent, noFiles, noPlaces]

/-- Every creation is refused for the first reason that applies, and then
changes nothing, or it succeeds.  A creation that succeeds has expelled no
file if there was a place, and otherwise the oldest one that nobody but the
creator had locked, and handed it out with its content and with those who
waited for it.  The new file is empty and the youngest, locked by its creator
if asked, and everything else is as it was.  No store without places ever
takes a file. -/
theorem outcome_of_every_create (limits : Limits)
    (operations : List StoreOperation) (path : String) (client : ClientId)
    (lock : Bool) :
    let store := (new limits).run operations
    let after := (store.create path client lock).2
    (match store.createRefusal? path client with
    | some error => store.create path client lock = (.error error, store)
    | none => ∃ victims, store.MakesPlace client victims ∧
        (store.create path client lock).1 = .ok (store.handedOut victims) ∧
        after.file? path = some
          { content := []
            unwritten := true
            owner := if lock then some client else none
            waiters := [] } ∧
        (∀ other, other ≠ path → after.file? other =
          if other ∈ victims then none else store.file? other) ∧
        after.paths =
          (store.paths.filter fun other => other ∉ victims) ++ [path]) ∧
    (limits.maxFiles = 0 →
      store.createRefusal? path client = some .storageFull) := by
  intro store after
  have sound : store.Sound := (sound_new limits).run operations
  have sameLimits : store.limits = limits := limits_run operations (new limits)
  refine ⟨?_, fun noPlaces =>
    sound.createRefusal?_of_noPlaces (sameLimits ▸ noPlaces) path client⟩
  rcases sound.create_outcome path client lock with
    ⟨error, refused, goes⟩ | ⟨victims, allowed, absent, makes, goes⟩
  · rw [refused]
    exact goes
  · rw [allowed]
    have nodup := sound.consistent.order_nodup.sublist makes.sublist
    refine ⟨victims, makes, ?_, ?_, ?_, ?_⟩
    · rw [goes, evict_fst nodup]
    · simp only [after, goes]
      rw [file?_insert, if_pos rfl]
      rfl
    · intro other different
      simp only [after, goes]
      rw [file?_insert, if_neg different, file?_evict]
    · simp only [after, goes]
      exact congrArg (· ++ [path]) (sound.consistent.order_evict victims)

/-- The older of two files is locked, so the younger one goes, and with it the
client that waited for it. -/
example :
    let store := (new { maxFiles := 2 }).run
      [.create "a" 1 true, .create "b" 2 true, .lock "b" 3, .unlock "b" 2]
    (store.create "c" 2 false).1 =
        .ok { files := [⟨"b", []⟩], orphans := [⟨3, "b"⟩] } ∧
      (store.create "c" 2 false).2.paths = ["a", "c"] := by
  decide

end Store

end FileDepot
