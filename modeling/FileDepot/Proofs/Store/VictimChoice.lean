import FileDepot.Proofs.Store.HeldLocks

/-!
# Which files are chosen

To make room for one more file, the oldest file goes that nobody else has
locked.  To make room for bytes, the oldest files go that have any and that
nobody else has locked, no more of them than it takes.  Either choice fails
only if all such files together are too few or too small.  The files chosen
are handed out in their order.
-/

namespace FileDepot

namespace Store

/-- Whether a file could be expelled at the request of a client: nobody else
holds its lock. -/
def expendable (store : Store) (client : ClientId) (path : String) : Bool :=
  match store.file? path with
  | none => false
  | some file => !file.lockedByOther client

/-- Whether somebody else holds the lock of the file at a path. -/
def heldFrom (store : Store) (client : ClientId) (path : String) : Bool :=
  match store.file? path with
  | none => false
  | some file => file.lockedByOther client

/-- Whether expelling a file would free bytes for a client who writes another
one. -/
def freesBytes (store : Store) (client : ClientId) (spared path : String) :
    Bool :=
  path ≠ spared && store.expendable client path && store.sizeAt path ≠ 0

/-- The first of some paths, no more than it takes, so that their files have
so many bytes together. -/
structure ShortestStart (store : Store) (bytes : Nat)
    (paths start : List String) : Prop where
  begins : start <+: paths
  enough : bytes ≤ store.bytesAt start
  least (other : List String) :
    other <+: paths → bytes ≤ store.bytesAt other → start <+: other

theorem bytesAt_append (store : Store) (first second : List String) :
    store.bytesAt (first ++ second) =
      store.bytesAt first + store.bytesAt second := by
  induction first with
  | nil => simp [bytesAt]
  | cons path others ih =>
      simp only [List.cons_append, bytesAt, ih]
      omega

namespace ShortestStart

variable {store : Store}

theorem nothing (paths : List String) : store.ShortestStart 0 paths [] where
  begins := List.nil_prefix
  enough := Nat.zero_le _
  least _ _ _ := List.nil_prefix

theorem cons {path : String} {bytes : Nat} {paths start : List String}
    (short : 0 < bytes)
    (rest : store.ShortestStart (bytes - store.sizeAt path) paths start) :
    store.ShortestStart bytes (path :: paths) (path :: start) where
  begins := List.cons_prefix_cons.mpr ⟨rfl, rest.begins⟩
  enough := by
    have enough := rest.enough
    simp only [bytesAt]
    omega
  least := by
    intro other begins enough
    rcases List.prefix_cons_iff.mp begins with rfl | ⟨later, rfl, begun⟩
    · simp only [bytesAt] at enough
      omega
    · simp only [bytesAt] at enough
      exact List.cons_prefix_cons.mpr
        ⟨rfl, rest.least later begun (by omega)⟩

theorem bytesAt_paths {bytes : Nat} {paths start : List String}
    (shortest : store.ShortestStart bytes paths start) :
    bytes ≤ store.bytesAt paths := by
  obtain ⟨rest, rfl⟩ := shortest.begins
  have enough := shortest.enough
  rw [bytesAt_append]
  omega

theorem unique {bytes : Nat} {paths first second : List String}
    (one : store.ShortestStart bytes paths first)
    (other : store.ShortestStart bytes paths second) : first = second :=
  (one.least second other.begins other.enough).eq_of_length_le
    (other.least first one.begins one.enough).length_le

end ShortestStart

/-- A stored file could be expelled unless somebody else holds its lock. -/
theorem Consistent.expendable_eq {store : Store}
    (consistent : store.Consistent) {client : ClientId} {path : String}
    (stored : path ∈ store.paths) :
    store.expendable client path = !store.heldFrom client path := by
  obtain ⟨file, found⟩ := (consistent.mem_order_iff_exists path).mp stored
  simp [expendable, heldFrom, found]

section Choice

variable {store : Store} {client : ClientId}

theorem chooseVictims_of_met {spared : Option String} (paths : List String)
    {need : Shortfall} (met : need.met = true) :
    store.chooseVictims client spared paths need = some [] := by
  cases paths with
  | nil => simp [chooseVictims, met]
  | cons path younger => simp [chooseVictims, met]

theorem chooseVictims_one (paths : List String) :
    store.chooseVictims client none paths { files := 1 } =
      (paths.find? (store.expendable client)).map fun path => [path] := by
  induction paths with
  | nil => rfl
  | cons path younger ih =>
      have short : ({ files := 1 } : Shortfall).met = false := rfl
      cases found : store.file? path with
      | none =>
          have kept : store.expendable client path = false := by
            simp [expendable, found]
          simp [chooseVictims, short, found, kept, ih]
      | some file =>
          cases locked : file.lockedByOther client with
          | true =>
              have kept : store.expendable client path = false := by
                simp [expendable, found, locked]
              simp [chooseVictims, short, found, passesOver, locked, kept, ih]
          | false =>
              have goes : store.expendable client path = true := by
                simp [expendable, found, locked]
              have met : (({ files := 1 } : Shortfall).less file).met =
                  true := by
                simp [Shortfall.less, Shortfall.met]
              simp [chooseVictims, short, found, passesOver, locked, goes,
                chooseVictims_of_met younger met]

theorem passesOver_eq (client : ClientId) {path : String} {file : StoredFile}
    (found : store.file? path = some file) (spared : String) (bytes : Nat) :
    passesOver (some spared) client { bytes } path file =
      !store.freesBytes client spared path := by
  simp [passesOver, freesBytes, expendable, sizeAt, found, Bool.not_and,
    eq_comm]

/-- A choice for bytes passes over what frees none. -/
theorem chooseVictims_of_idle {spared path : String}
    (idle : store.freesBytes client spared path = false)
    (younger : List String) {bytes : Nat} (short : 0 < bytes) :
    store.chooseVictims client (some spared) (path :: younger) { bytes } =
      store.chooseVictims client (some spared) younger { bytes } := by
  have unmet : ({ bytes } : Shortfall).met = false := by
    simp [Shortfall.met, Nat.ne_of_gt short]
  cases found : store.file? path with
  | none => simp [chooseVictims, unmet, found]
  | some file =>
      have passed := passesOver_eq client found spared bytes
      simp [chooseVictims, unmet, found, passed, idle]

theorem chooseVictims_of_frees {spared path : String}
    (frees : store.freesBytes client spared path = true)
    (younger : List String) {bytes : Nat} (short : 0 < bytes) :
    store.chooseVictims client (some spared) (path :: younger) { bytes } =
      (store.chooseVictims client (some spared) younger
        { bytes := bytes - store.sizeAt path }).map (path :: ·) := by
  have unmet : ({ bytes } : Shortfall).met = false := by
    simp [Shortfall.met, Nat.ne_of_gt short]
  cases found : store.file? path with
  | none => simp [freesBytes, expendable, found] at frees
  | some file =>
      have passed := passesOver_eq client found spared bytes
      simp [chooseVictims, unmet, found, passed, frees, Shortfall.less,
        sizeAt]

/-- Bytes are wanted: those that free some are chosen in turn until they have
as many, and the choice fails if all together have fewer. -/
theorem chooseVictims_bytes (client : ClientId) (spared : String)
    (paths : List String) (bytes : Nat) :
    (store.bytesAt (paths.filter (store.freesBytes client spared)) < bytes ∧
      store.chooseVictims client (some spared) paths { bytes } = none) ∨
    ∃ victims,
      store.chooseVictims client (some spared) paths { bytes } =
        some victims ∧
      store.ShortestStart bytes
        (paths.filter (store.freesBytes client spared)) victims := by
  induction paths generalizing bytes with
  | nil =>
      rcases Nat.eq_zero_or_pos bytes with rfl | short
      · exact Or.inr ⟨[], rfl, .nothing _⟩
      · left
        simp [bytesAt, chooseVictims, Shortfall.met, short, Nat.ne_of_gt short]
  | cons path younger ih =>
      rcases Nat.eq_zero_or_pos bytes with rfl | short
      · exact Or.inr ⟨[], chooseVictims_of_met _ rfl, .nothing _⟩
      cases frees : store.freesBytes client spared path with
      | false =>
          rw [List.filter_cons_of_neg (by simp [frees]),
            chooseVictims_of_idle frees younger short]
          exact ih bytes
      | true =>
          rw [List.filter_cons_of_pos frees,
            chooseVictims_of_frees frees younger short]
          rcases ih (bytes - store.sizeAt path) with
            ⟨few, failed⟩ | ⟨rest, chosen, shortest⟩
          · left
            rw [failed]
            simp only [bytesAt, Option.map_none, and_true]
            omega
          · right
            rw [chosen]
            exact ⟨path :: rest, rfl, .cons short shortest⟩

end Choice

/-- What an eviction hands out: the files with their contents, and the clients
that waited for them, in the order of the files and of their queues. -/
def handedOut (store : Store) (victims : List String) : Evicted where
  files := victims.filterMap store.evictedAt?
  orphans := victims.flatMap store.orphansAt

theorem evict_fst {victims : List String} (nodup : victims.Nodup)
    (store : Store) : (evict victims store).1 = store.handedOut victims := by
  have files := files_evict nodup store
  have orphans := orphans_evict nodup store
  cases answer : (evict victims store).1 with
  | mk handed waiting =>
      rw [answer] at files orphans
      simp only at files orphans
      rw [handedOut, files, orphans]

end Store

end FileDepot
