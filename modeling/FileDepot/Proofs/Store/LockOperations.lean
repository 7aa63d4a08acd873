import FileDepot.Proofs.Store.Operations
import FileDepot.Proofs.Store.Tables

/-!
# Operations on locks

Asking for locks, giving them up and handing them on leave everything but
locks as it was.
-/

namespace FileDepot

namespace Store

theorem open_cases (store : Store) (path : String) (client : ClientId)
    (lock : Bool) :
    (∃ outcome, store.open path client lock = (outcome, store)) ∨
    ∃ file, store.file? path = some file ∧ lock = true ∧
      store.open path client lock =
        (.ok (some (file.lock client).1),
          store.update path (file.lock client).2) := by
  cases found : store.file? path with
  | none => exact Or.inl ⟨.error (.notFound path), by simp [Store.open, found]⟩
  | some file =>
      cases lock with
      | false => exact Or.inl ⟨.ok none, by simp [Store.open, found]⟩
      | true => exact Or.inr ⟨file, rfl, rfl, by simp [Store.open, found]⟩

theorem lock_cases (store : Store) (path : String) (client : ClientId) :
    (∃ error, store.lock path client = (.error error, store)) ∨
    ∃ file, store.file? path = some file ∧
      store.lock path client =
        (.ok (file.lock client).1, store.update path (file.lock client).2) := by
  cases found : store.file? path with
  | none => exact Or.inl ⟨.notFound path, by simp [Store.lock, found]⟩
  | some file => exact Or.inr ⟨file, rfl, by simp [Store.lock, found]⟩

theorem unlock_cases (store : Store) (path : String) (client : ClientId) :
    (∃ error, store.unlock path client = (.error error, store)) ∨
    ∃ file, store.file? path = some file ∧ file.owner = some client ∧
      store.unlock path client =
        (.ok (), store.update path (file.release client)) := by
  cases found : store.file? path with
  | none => exact Or.inl ⟨.notFound path, by simp [Store.unlock, found]⟩
  | some file =>
      by_cases held : file.owner = some client
      · exact Or.inr ⟨file, rfl, held, by simp [Store.unlock, found, held]⟩
      · exact Or.inl ⟨.notLockOwner path, by simp [Store.unlock, found, held]⟩

theorem close_cases (store : Store) (path : String) (client : ClientId) :
    (store.file? path = none ∧ store.close path client = (false, store)) ∨
    ∃ file, store.file? path = some file ∧
      store.close path client =
        (decide (file.owner = some client),
          store.update path ((file.withdraw client).release client)) := by
  cases found : store.file? path with
  | none => exact Or.inl ⟨rfl, by simp [Store.close, found]⟩
  | some file => exact Or.inr ⟨file, rfl, by simp [Store.close, found]⟩

theorem sameButLocks_open (store : Store) (path : String) (client : ClientId)
    (lock : Bool) : SameButLocks store (store.open path client lock).2 := by
  rcases open_cases store path client lock with
    ⟨outcome, goes⟩ | ⟨file, found, -, goes⟩
  · rw [goes]
    exact .refl store
  · rw [goes]
    exact .update found (file.unlockedPart_lock client)

theorem sameButLocks_lock (store : Store) (path : String)
    (client : ClientId) : SameButLocks store (store.lock path client).2 := by
  rcases lock_cases store path client with
    ⟨error, goes⟩ | ⟨file, found, goes⟩
  · rw [goes]
    exact .refl store
  · rw [goes]
    exact .update found (file.unlockedPart_lock client)

theorem sameButLocks_unlock (store : Store) (path : String)
    (client : ClientId) :
    SameButLocks store (store.unlock path client).2 := by
  rcases unlock_cases store path client with
    ⟨error, goes⟩ | ⟨file, found, -, goes⟩
  · rw [goes]
    exact .refl store
  · rw [goes]
    exact .update found (file.unlockedPart_release client)

theorem sameButLocks_close (store : Store) (path : String)
    (client : ClientId) : SameButLocks store (store.close path client).2 := by
  rcases close_cases store path client with
    ⟨-, goes⟩ | ⟨file, found, goes⟩
  · rw [goes]
    exact .refl store
  · rw [goes]
    exact .update found (by simp)

theorem sameButLocks_releaseClient (store : Store) (client : ClientId) :
    SameButLocks store (store.releaseClient client).2 :=
  .mapValues fun file => by simp

theorem grantAlong_cons (path : String) (younger : List String)
    (store : Store) :
    ((store.file? path).bind StoredFile.grantNext = none ∧
      grantAlong (path :: younger) store = grantAlong younger store) ∨
    ∃ file client granted, store.file? path = some file ∧
      file.grantNext = some (client, granted) ∧
      grantAlong (path :: younger) store =
        ({ client, path } ::
            (grantAlong younger (store.update path granted)).1,
          (grantAlong younger (store.update path granted)).2) := by
  cases next : (store.file? path).bind StoredFile.grantNext with
  | none =>
      left
      rw [grantAlong, next]
      exact ⟨rfl, rfl⟩
  | some handed =>
      rcases handed with ⟨client, granted⟩
      right
      obtain ⟨file, found, grants⟩ := Option.bind_eq_some_iff.mp next
      refine ⟨file, client, granted, found, grants, ?_⟩
      rw [grantAlong, next]

theorem sameButLocks_grantAlong (paths : List String) (store : Store) :
    SameButLocks store (grantAlong paths store).2 := by
  induction paths generalizing store with
  | nil => exact .refl store
  | cons path younger ih =>
      rcases grantAlong_cons path younger store with
        ⟨-, skipped⟩ | ⟨file, client, granted, found, handed, taken⟩
      · rw [skipped]
        exact ih store
      · rw [taken]
        have here : SameButLocks store (store.update path granted) :=
          .update found (StoredFile.unlockedPart_grantNext handed)
        exact here.trans (ih (store.update path granted))

theorem sameButLocks_grantWaiting (store : Store) :
    SameButLocks store store.grantWaiting.2 :=
  sameButLocks_grantAlong store.order store

theorem sameButLocks_perform (store : Store) {operation : StoreOperation}
    (only : operation.onlyLocks = true) :
    SameButLocks store (store.perform operation).2 := by
  cases operation with
  | create | write | remove => cases only
  | «open» path client lock => exact sameButLocks_open store path client lock
  | read | readMany => exact .refl store
  | lock path client => exact sameButLocks_lock store path client
  | unlock path client => exact sameButLocks_unlock store path client
  | close path client => exact sameButLocks_close store path client
  | releaseClient client => exact sameButLocks_releaseClient store client
  | grantWaiting => exact sameButLocks_grantWaiting store

theorem orphans_of_onlyLocks (store : Store) {operation : StoreOperation}
    (only : operation.onlyLocks = true) :
    (store.perform operation).1.orphans = [] := by
  cases operation with
  | create | write | remove => cases only
  | _ => rfl

end Store

end FileDepot
