import FileDepot.Proofs.Store.VictimChoice

/-!
# How writing turns out

A write is refused for one of seven reasons, in a fixed order of precedence,
and otherwise succeeds.  Content that does not fit beside the other files
expels the oldest files that free bytes, no more of them than it takes.  If
the policy makes room for bytes, such a write is refused only where the files
that others have locked leave no room for the content.
-/

namespace FileDepot

namespace Store

/-- The files that may be expelled to write the one at a path, oldest
first. -/
def makesWayFor (store : Store) (path : String) (client : ClientId) :
    List String :=
  store.order.filter (store.freesBytes client path)

/-- How many bytes are wanting to write so much content. -/
def shortfallOf (store : Store) (content : Bytes) : Nat :=
  store.byteCount + content.length - store.limits.maxBytes

/-- Why a write is refused, if it is. -/
def writeRefusal? (store : Store) (path : String) (client : ClientId)
    (content : Bytes) : Option Error :=
  match store.file? path with
  | none => some (.notFound path)
  | some file =>
      if content = [] then some .missingBody
      else if file.unwritten = false then some (.fileExists path)
      else if file.owner ≠ some client then some (.notLockOwner path)
      else if store.limits.maxBytes < content.length then
        some (.fileTooBig content.length)
      else if store.byteCount + content.length ≤ store.limits.maxBytes then
        none
      else if store.limits.policy.onByteSize = false then
        some (.fileTooBig content.length)
      else if store.bytesAt (store.makesWayFor path client) <
          store.shortfallOf content then
        some .storageFull
      else
        none

/-- A write either is refused, for the reason told, or makes room and
writes. -/
theorem write_outcome (store : Store) (path : String) (client : ClientId)
    (content : Bytes) :
    (∃ error, store.writeRefusal? path client content = some error ∧
      store.write path client content = (.error error, store)) ∨
    ∃ file victims, store.writeRefusal? path client content = none ∧
      store.file? path = some file ∧ path ∉ victims ∧
      store.ShortestStart (store.shortfallOf content)
        (store.makesWayFor path client) victims ∧
      store.write path client content =
        (.ok (evict victims store).1,
          (evict victims store).2.written path file content) := by
  cases found : store.file? path with
  | none =>
      exact Or.inl ⟨.notFound path, by simp [writeRefusal?, found],
        by simp [write, found]⟩
  | some file =>
      by_cases empty : content = []
      case pos =>
        exact Or.inl ⟨.missingBody, by simp [writeRefusal?, found, empty],
          by simp [write, found, empty]⟩
      cases unwritten : file.unwritten with
      | false =>
          exact Or.inl ⟨.fileExists path,
            by simp [writeRefusal?, found, empty, unwritten],
            by simp [write, found, empty, unwritten]⟩
      | true =>
          by_cases owned : file.owner = some client
          case neg =>
            exact Or.inl ⟨.notLockOwner path,
              by simp [writeRefusal?, found, empty, unwritten, owned],
              by simp [write, found, empty, unwritten, owned]⟩
          by_cases big : store.limits.maxBytes < content.length
          case pos =>
            exact Or.inl ⟨.fileTooBig content.length,
              by simp [writeRefusal?, found, empty, unwritten, owned, big],
              by simp [write, found, empty, unwritten, owned, big]⟩
          -- The request itself is in order now: the content fits, or the limit
          -- allows no eviction, or victims are sought.
          by_cases room :
              store.byteCount + content.length ≤ store.limits.maxBytes
          case pos =>
            have nothingWanted : store.shortfallOf content = 0 :=
              Nat.sub_eq_zero_of_le room
            refine Or.inr ⟨file, [],
              by simp [writeRefusal?, found, empty, unwritten, owned, big,
                room], rfl, List.not_mem_nil,
              nothingWanted ▸ .nothing _, ?_⟩
            rw [← fillAfter_of_found content found List.not_mem_nil]
            simp [write, found, empty, unwritten, owned, big, room]
          cases policy : store.limits.policy.onByteSize with
          | false =>
              exact Or.inl ⟨.fileTooBig content.length,
                by simp [writeRefusal?, found, empty, unwritten, owned, big,
                  room, policy],
                by simp [write, found, empty, unwritten, owned, big, room,
                  policy]⟩
          | true =>
              rcases chooseVictims_bytes client path store.order
                  (store.shortfallOf content) with
                ⟨few, failed⟩ | ⟨victims, chosen, shortest⟩
              · have unplanned : store.planVictims client (some path)
                    { bytes := store.byteCount + content.length -
                        store.limits.maxBytes } = none := failed
                exact Or.inl ⟨.storageFull,
                  by simp [writeRefusal?, found, empty, unwritten, owned,
                    big, room, policy, makesWayFor, few],
                  by simp [write, found, empty, unwritten, owned, big, room,
                    policy, unplanned]⟩
              · have planned : store.planVictims client (some path)
                    { bytes := store.byteCount + content.length -
                        store.limits.maxBytes } = some victims := chosen
                have spared : path ∉ victims := fun member =>
                  (chooseVictims_eligible chosen member).1 rfl
                refine Or.inr ⟨file, victims, ?_, rfl, spared, shortest, ?_⟩
                · have enough := shortest.bytesAt_paths
                  simp [writeRefusal?, found, empty, unwritten, owned, big,
                    room, policy, makesWayFor, Nat.not_lt.mpr enough]
                · rw [← fillAfter_of_found content found spared]
                  simp [write, found, empty, unwritten, owned, big, room,
                    policy, planned]

theorem Consistent.bytesAt_order_eq {store : Store}
    (consistent : store.Consistent) :
    store.bytesAt store.order = store.byteCount := by
  obtain ⟨kept, -, weighed⟩ := consistent.evict consistent.order_nodup
    fun path member => (consistent.mem_order_iff_exists path).mp member
  have emptied : (Store.evict store.order store).2.table.keys = [] := by
    have listed := kept.order_perm_keys
    rw [consistent.order_evict, List.filter_eq_nil_iff.mpr (by simp)] at listed
    exact listed.nil_eq.symm
  have nothingLeft : (Store.evict store.order store).2.byteCount = 0 := by
    rw [kept.byteCount_eq, Index.total, List.map_eq_nil_iff.mp emptied]
    rfl
  omega

/-- A file with bytes that is not spared would be freed, unless somebody else
holds its lock. -/
theorem freed_or_held {store : Store} (client : ClientId) (path : String)
    {spared : String} (unwritten : store.sizeAt spared = 0) :
    (store.sizeAt path = 0 ∧ store.freesBytes client spared path = false) ∨
    (store.freesBytes client spared path = true ∧
      store.heldFrom client path = false) ∨
    (store.freesBytes client spared path = false ∧
      store.heldFrom client path = true) := by
  by_cases empty : store.sizeAt path = 0
  · exact Or.inl ⟨empty, by simp [freesBytes, empty]⟩
  have different : path ≠ spared := fun same => empty (same ▸ unwritten)
  right
  cases found : store.file? path with
  | none => simp [sizeAt, found] at empty
  | some file =>
      cases locked : file.lockedByOther client <;>
        simp [freesBytes, heldFrom, expendable, found, locked, empty,
          different]

theorem bytesAt_filter_cons (store : Store) (keep : String → Bool)
    (path : String) (others : List String) :
    store.bytesAt ((path :: others).filter keep) =
      (if keep path then store.sizeAt path else 0) +
        store.bytesAt (others.filter keep) := by
  cases kept : keep path with
  | true => simp [kept, bytesAt]
  | false => simp [kept]

theorem bytesAt_freed_held {store : Store} (client : ClientId)
    {spared : String} (unwritten : store.sizeAt spared = 0)
    (paths : List String) :
    store.bytesAt paths =
      store.bytesAt (paths.filter (store.freesBytes client spared)) +
        store.bytesAt (paths.filter (store.heldFrom client)) := by
  induction paths with
  | nil => rfl
  | cons path others ih =>
      rw [bytesAt_filter_cons, bytesAt_filter_cons, bytesAt, ih]
      rcases freed_or_held client path unwritten with
        ⟨empty, kept⟩ | ⟨freed, unheld⟩ | ⟨kept, held⟩
      · rw [kept, empty]
        simp
      · simp only [freed, unheld, if_true, Bool.false_eq_true, if_false]
        omega
      · simp only [kept, held, if_true, Bool.false_eq_true, if_false]
        omega

/-- Where the policy makes room for bytes, a write that is allowed otherwise
is refused just if what others hold leaves no room for the content. -/
theorem Consistent.shortfall_iff {store : Store}
    (consistent : store.Consistent) {path : String} (client : ClientId)
    (content : Bytes) (unwritten : store.sizeAt path = 0) :
    (store.limits.maxBytes < store.byteCount + content.length ∧
        store.bytesAt (store.makesWayFor path client) <
          store.shortfallOf content) ↔
      store.limits.maxBytes <
        store.bytesAt (store.paths.filter (store.heldFrom client)) +
          content.length := by
  have parts := bytesAt_freed_held client unwritten store.order
  rw [consistent.bytesAt_order_eq] at parts
  simp only [makesWayFor, shortfallOf, paths]
  omega

/-- For want of room a write is refused only under a policy that would make
some, and just if what others hold leaves none. -/
theorem Consistent.storageFull_iff {store : Store}
    (consistent : store.Consistent) (path : String) (client : ClientId)
    (content : Bytes) :
    store.writeRefusal? path client content = some .storageFull ↔
      (∃ file, store.file? path = some file ∧ file.unwritten = true ∧
        file.owner = some client) ∧
      content ≠ [] ∧ content.length ≤ store.limits.maxBytes ∧
      store.limits.policy.onByteSize = true ∧
      store.limits.maxBytes <
        store.bytesAt (store.paths.filter (store.heldFrom client)) +
          content.length := by
  cases found : store.file? path with
  | none => simp [writeRefusal?, found]
  | some file =>
      by_cases empty : content = []
      · simp [writeRefusal?, found, empty]
      cases unwritten : file.unwritten with
      | false => simp [writeRefusal?, found, empty, unwritten]
      | true =>
          by_cases owned : file.owner = some client
          case neg => simp [writeRefusal?, found, empty, unwritten, owned]
          by_cases big : store.limits.maxBytes < content.length
          case pos =>
            simp [writeRefusal?, found, empty, unwritten, owned, big,
              Nat.not_le.mpr big]
          have fits := Nat.le_of_not_lt big
          have noBytes : store.sizeAt path = 0 := by
            simp [sizeAt, found, consistent.size_eq_zero found unwritten]
          have wanting := consistent.shortfall_iff client content noBytes
          by_cases room :
              store.byteCount + content.length ≤ store.limits.maxBytes
          case pos =>
            simp only [Nat.not_lt.mpr room, false_and, false_iff] at wanting
            simp [writeRefusal?, found, empty, unwritten, owned, big, room,
              wanting]
          rw [Nat.not_le] at room
          simp only [room, true_and] at wanting
          cases policy : store.limits.policy.onByteSize with
          | false =>
              simp [writeRefusal?, found, empty, unwritten, owned, big,
                Nat.not_le.mpr room, policy]
          | true =>
              simp [writeRefusal?, found, empty, unwritten, owned, big,
                Nat.not_le.mpr room, policy, wanting, fits]

/-- Every write is refused for the first reason that applies, and then changes
nothing, or it succeeds.  A write that succeeds has expelled, of the files
that free bytes, the fewest oldest ones that make room for the content, and
handed them out with their contents and with those who waited for them.  The
file then holds the content under the lock that it had, and everything else is
as it was.  So where the policy makes room for bytes, room is wanting only if
the files that others hold leave none. -/
theorem outcome_of_every_write (limits : Limits)
    (operations : List StoreOperation) (path : String) (client : ClientId)
    (content : Bytes) :
    let store := (new limits).run operations
    let after := (store.write path client content).2
    (match store.writeRefusal? path client content with
    | some error => store.write path client content = (.error error, store)
    | none => ∃ file victims, store.file? path = some file ∧
        store.ShortestStart (store.shortfallOf content)
          (store.makesWayFor path client) victims ∧
        (store.byteCount + content.length ≤ limits.maxBytes →
          victims = []) ∧
        (store.write path client content).1 =
          .ok (store.handedOut victims) ∧
        after.file? path = some { file with content, unwritten := false } ∧
        (∀ other, other ≠ path → after.file? other =
          if other ∈ victims then none else store.file? other) ∧
        after.paths = store.paths.filter fun other => other ∉ victims) ∧
    ((store.write path client content).1 = .error .storageFull ↔
      (∃ file, store.file? path = some file ∧ file.unwritten = true ∧
        file.owner = some client) ∧
      content ≠ [] ∧ content.length ≤ limits.maxBytes ∧
      limits.policy.onByteSize = true ∧
      limits.maxBytes <
        store.bytesAt (store.paths.filter (store.heldFrom client)) +
          content.length) := by
  intro store after
  have sound : store.Sound := (sound_new limits).run operations
  have sameLimits : store.limits = limits := limits_run operations (new limits)
  have wanting := sound.consistent.storageFull_iff path client content
  rw [sameLimits] at wanting
  rcases store.write_outcome path client content with
    ⟨error, refused, goes⟩ | ⟨file, victims, allowed, found, spared, shortest, goes⟩
  · rw [refused] at wanting ⊢
    refine ⟨goes, ?_⟩
    rw [goes, ← wanting]
    simp
  · rw [allowed] at wanting ⊢
    have listed : victims.Sublist store.order :=
      shortest.begins.sublist.trans List.filter_sublist
    have nodup := sound.consistent.order_nodup.sublist listed
    have finds := file?_written_evict content found spared
    refine ⟨⟨file, victims, found, shortest, ?_, ?_, ?_, ?_, ?_⟩, ?_⟩
    · intro room
      rw [← sameLimits] at room
      have nothingWanted : store.shortfallOf content = 0 :=
        Nat.sub_eq_zero_of_le room
      exact (nothingWanted ▸ shortest).unique (.nothing _)
    · rw [goes, evict_fst nodup]
    · simp only [after, goes]
      rw [finds, if_pos rfl]
      rfl
    · intro other different
      simp only [after, goes]
      rw [finds, if_neg different]
    · simp only [after, goes]
      exact sound.consistent.order_evict victims
    · rw [goes, ← wanting]
      simp

/-- Of four bytes three are taken by two files that may go and one by a file
that may not; two more bytes cost the older of the two its place. -/
example :
    let store := (new { maxBytes := 4 }).run
      [.create "a" 1 true, .write "a" 1 [7], .create "b" 2 true,
        .write "b" 2 [8], .unlock "b" 2, .create "c" 2 true,
        .write "c" 2 [9, 9], .unlock "c" 2, .lock "b" 3, .lock "b" 4,
        .unlock "b" 3, .create "d" 5 true]
    (store.write "d" 5 [6]).1 =
        .ok { files := [⟨"b", [8]⟩], orphans := [⟨4, "b"⟩] } ∧
      (store.write "d" 5 [6, 6, 6, 6]).1 = .error .storageFull := by
  decide

end Store

end FileDepot
