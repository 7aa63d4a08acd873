import FileDepot.Proofs.Store.FileOperations

/-!
# Refused operations

An operation that fails leaves the store as it was.  It fails for a reason that
lies with the request: no operation finds the store in a state that it was not
meant to be in.
-/

namespace FileDepot

/-- Whether a status turns a request down, for a reason that the client can be
told of. -/
def Status.isRefusal : Status → Bool
  | badRequest | notFound | unauthorized | missingBody | fileTooBig
  | fileExists => true
  | success | internalError | filesExpelled | lockPending => false

theorem Status.isRefusal_spec {status : Status}
    (refusal : status.isRefusal = true) :
    status ≠ .success ∧ status ≠ .internalError ∧ status ≠ .filesExpelled ∧
      status ≠ .lockPending := by
  cases status with
  | success | internalError | filesExpelled | lockPending => cases refusal
  | _ => simp

namespace Store

/-- An operation failed for a reason that lies with the request, and changed
nothing. -/
def Refuses (before : Store) (error : Error) (after : Store) : Prop :=
  after = before ∧ error.status.isRefusal = true

section Operations

variable {store after : Store} {path : String} {client : ClientId}
  {error : Error}

theorem refuses_create {lock : Bool}
    (fails : store.create path client lock = (.error error, after)) :
    store.Refuses error after := by
  unfold create at fails
  dsimp only at fails
  split at fails
  · cases fails
    exact ⟨rfl, rfl⟩
  split at fails
  · cases fails
  split at fails
  · split at fails
    · cases fails
      exact ⟨rfl, rfl⟩
    · cases fails
  · cases fails
    exact ⟨rfl, rfl⟩

theorem refuses_open {lock : Bool}
    (fails : store.open path client lock = (.error error, after)) :
    store.Refuses error after := by
  unfold Store.open at fails
  split at fails
  · cases fails
    exact ⟨rfl, rfl⟩
  · split at fails <;> cases fails

/-- Writing cannot fail once room was made: the file that is written is not
among those that were expelled. -/
theorem fillAfter_not_error {file : StoredFile} {content : Bytes}
    {victims : List String} (found : store.file? path = some file)
    (makes : store.MakesRoom path client content victims) :
    store.fillAfter victims path content ≠ (.error error, after) := by
  rw [fillAfter_of_found content found (not_mem_of_makesRoom makes)]
  intro impossible
  cases impossible

theorem refuses_write {content : Bytes}
    (fails : store.write path client content = (.error error, after)) :
    store.Refuses error after := by
  unfold write at fails
  split at fails
  · cases fails
    exact ⟨rfl, rfl⟩
  rename_i file found
  split at fails
  · cases fails
    exact ⟨rfl, rfl⟩
  split at fails
  · cases fails
    exact ⟨rfl, rfl⟩
  split at fails
  · cases fails
    exact ⟨rfl, rfl⟩
  split at fails
  · cases fails
    exact ⟨rfl, rfl⟩
  split at fails
  · rename_i room
    have makes : store.MakesRoom path client content [] :=
      Or.inl ⟨room, rfl⟩
    exact absurd fails (fillAfter_not_error found makes)
  rename_i full
  split at fails
  · rename_i policy
    dsimp only at fails
    split at fails
    · cases fails
      exact ⟨rfl, rfl⟩
    · rename_i victims planned
      have makes : store.MakesRoom path client content victims :=
        Or.inr ⟨Nat.lt_of_not_le full, policy, planned⟩
      exact absurd fails (fillAfter_not_error found makes)
  · cases fails
    exact ⟨rfl, rfl⟩

theorem refuses_read (fails : store.read path client = .error error) :
    store.Refuses error store := by
  unfold Store.read at fails
  split at fails
  · cases fails
    exact ⟨rfl, rfl⟩
  · split at fails <;> cases fails
    exact ⟨rfl, rfl⟩

/-- Removing cannot fail once the file was found and its lock was seen to be
held. -/
theorem refuses_remove
    (fails : store.remove path client = (.error error, after)) :
    store.Refuses error after := by
  unfold remove at fails
  split at fails
  · cases fails
    exact ⟨rfl, rfl⟩
  rename_i file found
  split at fails
  · cases fails
    exact ⟨rfl, rfl⟩
  split at fails
  · rename_i missing
    rw [take_eq_none_iff, found] at missing
    cases missing
  · cases fails

theorem refuses_lock
    (fails : store.lock path client = (.error error, after)) :
    store.Refuses error after := by
  unfold Store.lock at fails
  split at fails
  · cases fails
    exact ⟨rfl, rfl⟩
  · cases fails

theorem refuses_unlock
    (fails : store.unlock path client = (.error error, after)) :
    store.Refuses error after := by
  unfold Store.unlock at fails
  split at fails
  · cases fails
    exact ⟨rfl, rfl⟩
  · split at fails <;> cases fails
    exact ⟨rfl, rfl⟩

end Operations

end Store

end FileDepot
