import FileDepot.Hub

/-!
# The lock manager

The lock manager hands free locks to waiting clients and tells each of them
with a success that carries the path.  A client that cannot be told loses the
lock again, and the scan is repeated so that the next one gets it.  Every
round takes clients out of queues for good, so the rounds come to an end.
-/

namespace FileDepot

namespace Store

/-- The number of places in all waiting queues. -/
def waiterCount (store : Store) : Nat :=
  store.table.total fun file => file.waiters.length

theorem waiterCount_update {store : Store} {path : String}
    {old : StoredFile} (new : StoredFile)
    (found : store.file? path = some old) :
    (store.update path new).waiterCount + old.waiters.length =
      store.waiterCount + new.waiters.length :=
  store.table.total_modify path new old (fun file => file.waiters.length) found

theorem waiterCount_grantAlong (paths : List String) (store : Store) :
    (grantAlong paths store).2.waiterCount + (grantAlong paths store).1.length =
      store.waiterCount := by
  induction paths generalizing store with
  | nil => simp [grantAlong]
  | cons path younger ih =>
      cases found : store.file? path with
      | none => simpa [grantAlong, found] using ih store
      | some file =>
          cases next : file.grantNext with
          | none => simpa [grantAlong, found, next] using ih store
          | some handed =>
              rcases handed with ⟨client, granted⟩
              have shorter : granted.waiters.length + 1 = file.waiters.length := by
                unfold StoredFile.grantNext at next
                split at next
                · rename_i head tail waiting
                  simp only [Option.some.injEq, Prod.mk.injEq] at next
                  simp [← next.2, waiting]
                · cases next
              have updated := waiterCount_update granted found
              have later := ih (store.update path granted)
              simp only [grantAlong, found, Option.bind_some, next,
                List.length_cons]
              omega

theorem waiterCount_unlock (store : Store) (path : String)
    (client : ClientId) :
    (store.unlock path client).2.waiterCount = store.waiterCount := by
  unfold unlock
  split
  · rfl
  · rename_i file found
    split
    · have updated := waiterCount_update (file.release client) found
      have kept : (file.release client).waiters = file.waiters := by
        unfold StoredFile.release
        split <;> rfl
      rw [kept] at updated
      simp only
      omega
    · rfl

end Store

/-- How the grants of one round were received. -/
structure Delivery where
  delivered : Nat := 0
  undelivered : Nat := 0
  deriving DecidableEq, Repr

namespace Hub

theorem push_store (hub : Hub) (client : ClientId) (responses : List Response) :
    (hub.push client responses).2.store = hub.store := by
  unfold push
  split <;> rfl

theorem send_store (hub : Hub) (client : ClientId) (response : Response) :
    (hub.send client response).2.store = hub.store := by
  unfold send
  split
  · rfl
  · split
    · rfl
    · exact push_store hub client [response]

/-- Tells a client of its lock, or takes the lock back from a client that
cannot be told. -/
def deliver (hub : Hub) (grant : LockGrant) : Bool × Hub :=
  match hub.send grant.client { status := .success, path := grant.path } with
  | (.ok _, told) => (true, told)
  | (.error _, same) =>
      (false, { same with store := (same.store.unlock grant.path grant.client).2 })

/-- Delivers grants one after the other. -/
def deliverAll : List LockGrant → Hub → Delivery × Hub
  | [], hub => ({}, hub)
  | grant :: others, hub =>
      let (told, next) := hub.deliver grant
      let (rest, after) := deliverAll others next
      (if told then
        { rest with delivered := rest.delivered + 1 }
      else
        { rest with undelivered := rest.undelivered + 1 }, after)

theorem waiterCount_deliver (hub : Hub) (grant : LockGrant) :
    (hub.deliver grant).2.store.waiterCount = hub.store.waiterCount := by
  have kept := send_store hub grant.client
    { status := .success, path := grant.path }
  unfold deliver
  split
  · rename_i sent
    rw [sent] at kept
    exact congrArg Store.waiterCount kept
  · rename_i sent
    rw [sent] at kept
    simp only [Store.waiterCount_unlock]
    exact congrArg Store.waiterCount kept

theorem waiterCount_deliverAll (grants : List LockGrant) (hub : Hub) :
    (hub.deliverAll grants).2.store.waiterCount = hub.store.waiterCount := by
  induction grants generalizing hub with
  | nil => rfl
  | cons grant others ih =>
      simp only [deliverAll]
      rw [ih, waiterCount_deliver]

/-- Hands out every free lock that somebody waits for, and counts the clients
that were told. -/
def grantAll (hub : Hub) : Nat × Hub :=
  let round := hub.store.grantWaiting
  if _stop : round.1.isEmpty then
    (0, { hub with store := round.2 })
  else
    let delivery := { hub with store := round.2 }.deliverAll round.1
    if delivery.1.undelivered = 0 then
      (delivery.1.delivered, delivery.2)
    else
      let rest := grantAll delivery.2
      (delivery.1.delivered + rest.1, rest.2)
termination_by hub.store.waiterCount
decreasing_by
  have counted := Store.waiterCount_grantAlong hub.store.order hub.store
  have someGrant : 0 < hub.store.grantWaiting.1.length := by
    cases grants : hub.store.grantWaiting.1 with
    | nil => simp [round, grants] at _stop
    | cons grant others => simp
  rw [waiterCount_deliverAll]
  simp only [Store.grantWaiting] at someGrant ⊢
  omega

end Hub

end FileDepot
