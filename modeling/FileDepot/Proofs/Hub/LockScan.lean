import FileDepot.LockManager
import FileDepot.Proofs.Hub.Outboxes
import FileDepot.Proofs.Store.Settling

/-!
# The lock scan

The scan gives every lock that is free to the first waiting client that can be
told, and drops those ahead of it from the queue.  One round of grants settles
the files whose first waiting client can be told, and makes one offer
elsewhere; the rounds end when nobody is left that could not be told.
-/

namespace FileDepot

namespace Store

/-- The grant that the scan makes at a path. -/
def nextGrant? (store : Store) (path : String) : Option LockGrant :=
  ((store.file? path).bind StoredFile.grantNext).map fun handed =>
    { client := handed.1, path }

theorem nextGrant?_eq_some_iff {store : Store} {path : String}
    {grant : LockGrant} :
    store.nextGrant? path = some grant ↔ grant.path = path ∧
      ∃ file granted, store.file? path = some file ∧
        file.grantNext = some (grant.client, granted) := by
  rcases grant with ⟨client, target⟩
  simp only [nextGrant?, Option.map_eq_some_iff, Option.bind_eq_some_iff,
    LockGrant.mk.injEq]
  constructor
  · rintro ⟨⟨next, granted⟩, ⟨file, found, handed⟩, rfl, rfl⟩
    exact ⟨rfl, file, granted, found, handed⟩
  · rintro ⟨rfl, file, granted, found, handed⟩
    exact ⟨(client, granted), ⟨file, found, handed⟩, rfl, rfl⟩

/-- The scan makes its grants in the order of the files. -/
theorem grantAlong_grants {paths : List String} (nodup : paths.Nodup)
    (store : Store) :
    (grantAlong paths store).1 = paths.filterMap store.nextGrant? := by
  induction paths generalizing store with
  | nil => rfl
  | cons path younger ih =>
      rw [List.nodup_cons] at nodup
      rcases grantAlong_cons path younger store with
        ⟨nothing, goes⟩ | ⟨file, client, granted, found, handed, goes⟩
      · have skipped : store.nextGrant? path = none := by
          rw [nextGrant?, nothing]
          rfl
        rw [goes, ih nodup.2, List.filterMap_cons_none skipped]
      · have made : store.nextGrant? path = some { client, path } :=
          nextGrant?_eq_some_iff.mpr ⟨rfl, file, granted, found, handed⟩
        have elsewhere : ∀ other ∈ younger,
            (store.update path granted).nextGrant? other =
              store.nextGrant? other := by
          intro other listed
          have different : other ≠ path := fun same => nodup.1 (same ▸ listed)
          rw [nextGrant?, file?_update_of_found found, if_neg different,
            nextGrant?]
        rw [goes, List.filterMap_cons_some made, ih nodup.2,
          List.filterMap_congr elsewhere]

namespace Consistent

variable {store : Store} (consistent : store.Consistent)

include consistent

theorem mem_grantWaiting_iff {grant : LockGrant} :
    grant ∈ store.grantWaiting.1 ↔
      ∃ file granted, store.file? grant.path = some file ∧
        file.grantNext = some (grant.client, granted) := by
  rw [grantWaiting, grantAlong_grants consistent.order_nodup,
    List.mem_filterMap]
  constructor
  · rintro ⟨path, -, made⟩
    obtain ⟨rfl, handed⟩ := nextGrant?_eq_some_iff.mp made
    exact handed
  · rintro ⟨file, granted, found, handed⟩
    exact ⟨grant.path,
      (consistent.mem_order_iff_exists grant.path).mpr ⟨file, found⟩,
      nextGrant?_eq_some_iff.mpr ⟨rfl, file, granted, found, handed⟩⟩

theorem nodup_grantWaiting : store.grantWaiting.1.Nodup := by
  rw [grantWaiting, grantAlong_grants consistent.order_nodup]
  refine consistent.order_nodup.filterMap ?_
  intro first second grant fromFirst fromSecond
  exact (nextGrant?_eq_some_iff.mp fromFirst).1.symm.trans
    (nextGrant?_eq_some_iff.mp fromSecond).1

theorem holds_of_granted {client : ClientId} {path : String}
    (granted : { client, path } ∈ store.grantWaiting.1) :
    store.Awaits client path ∧ store.grantWaiting.2.Holds client path := by
  obtain ⟨file, after, found, handed⟩ :=
    consistent.mem_grantWaiting_iff.mp granted
  have settled := consistent.file?_grantWaiting path
  rw [found, Option.map_some, StoredFile.handOn_of_some handed] at settled
  obtain ⟨rest, -, waiting, rfl⟩ :=
    StoredFile.grantNext_eq_some_iff.mp handed
  exact ⟨⟨file, found, by simp [waiting]⟩, ⟨_, settled, rfl⟩⟩

/-- Whoever is handed no lock goes on waiting for it. -/
theorem awaits_of_ungranted {client : ClientId} {path : String}
    (awaits : store.Awaits client path)
    (ungranted : { client, path } ∉ store.grantWaiting.1) :
    store.grantWaiting.2.Awaits client path := by
  obtain ⟨file, found, waits⟩ := awaits
  have settled := consistent.file?_grantWaiting path
  rw [found, Option.map_some] at settled
  refine ⟨_, settled, ?_⟩
  cases handed : file.grantNext with
  | none =>
      rw [StoredFile.handOn_of_none handed]
      exact waits
  | some result =>
      rcases result with ⟨next, granted⟩
      rw [StoredFile.handOn_of_some handed]
      have different : client ≠ next := by
        rintro rfl
        exact ungranted (consistent.mem_grantWaiting_iff.mpr
          ⟨file, granted, found, handed⟩)
      obtain ⟨rest, -, waiting, rfl⟩ :=
        StoredFile.grantNext_eq_some_iff.mp handed
      rw [waiting] at waits
      exact (List.mem_cons.mp waits).resolve_left different

end Consistent

theorem file?_unlock (store : Store) (path other : String)
    (client : ClientId) :
    (store.unlock path client).2.file? other =
      (store.file? other).map fun file =>
        if other = path then file.release client else file := by
  by_cases same : other = path
  · subst same
    cases found : store.file? other with
    | none => simp [unlock, found]
    | some file =>
        by_cases held : file.owner = some client
        · simp [unlock, found, held, file?_update]
        · simp [unlock, found, held, StoredFile.release_of_not_held]
  · rcases store.unlock_cases path client with
      ⟨error, goes⟩ | ⟨file, found, -, goes⟩
    · simp [goes, same]
    · simp [goes, same, file?_update]

end Store

namespace Hub

/-- The notice that a client got a lock that it waited for. -/
def grantNotice (path : String) : Response where
  status := .success
  path := path

/-- The notices of grants that reach a client. -/
def newsTo (hub : Hub) (grants : List LockGrant) (client : ClientId) :
    List Response :=
  if hub.contactable client then
    (grants.filter fun grant => grant.client = client).map fun grant =>
      grantNotice grant.path
  else
    []

@[simp] theorem newsTo_nil (hub : Hub) : hub.newsTo [] = fun _ => [] := by
  funext client
  simp [newsTo]

theorem newsTo_append (hub : Hub) (first second : List LockGrant)
    (client : ClientId) :
    hub.newsTo (first ++ second) client =
      hub.newsTo first client ++ hub.newsTo second client := by
  unfold newsTo
  split <;> simp

theorem newsTo_congr {first second : Hub}
    (same : first.contactable = second.contactable) :
    first.newsTo = second.newsTo := by
  funext grants client
  rw [newsTo, same, newsTo]

theorem Extends.withStore {before after : Hub}
    {added : ClientId → List Response} (extended : Extends before added after)
    (store : Store) :
    Extends { before with store } added { after with store } :=
  ⟨rfl, extended.registry, extended.lockTrigger, extended.outboxClosed?,
    extended.queued⟩

theorem deliver_of_sent {hub told : Hub} {grant : LockGrant}
    (sent : hub.send grant.client (grantNotice grant.path) = (.ok (), told)) :
    hub.deliver grant = (true, told) := by
  unfold deliver
  unfold grantNotice at sent
  rw [sent]

theorem deliver_of_failed {hub same : Hub} {grant : LockGrant} {error : Error}
    (failed : hub.send grant.client (grantNotice grant.path) =
      (.error error, same)) :
    hub.deliver grant =
      (false,
        { same with
          store := (same.store.unlock grant.path grant.client).2 }) := by
  unfold deliver
  unfold grantNotice at failed
  rw [failed]

/-- A client that can be told gets the notice of its grant, and any other
loses the lock again. -/
theorem deliver_cases (hub : Hub) (grant : LockGrant) :
    (hub.deliver grant).1 = hub.contactable grant.client ∧
    (hub.deliver grant).2.store =
      (if hub.contactable grant.client then hub.store
      else (hub.store.unlock grant.path grant.client).2) ∧
    Extends { hub with store := (hub.deliver grant).2.store }
      (hub.newsTo [grant]) (hub.deliver grant).2 := by
  cases able : hub.contactable grant.client with
  | true =>
      obtain ⟨sent, extended⟩ :=
        send_contactable able (grantNotice grant.path)
      rw [deliver_of_sent (Prod.ext sent rfl)]
      have added : hub.newsTo [grant] =
          onlyFor grant.client [grantNotice grant.path] := by
        funext client
        by_cases same : client = grant.client
        · subst same
          simp [newsTo, onlyFor, able]
        · simp [newsTo, onlyFor, same, Ne.symm same]
      rw [added]
      exact ⟨rfl, extended.store, extended.withStore _⟩
  | false =>
      obtain ⟨⟨error, failed⟩, extended⟩ :=
        send_uncontactable able (grantNotice grant.path)
      rw [deliver_of_failed (Prod.ext failed rfl)]
      have added : hub.newsTo [grant] = fun _ => [] := by
        funext client
        by_cases same : grant.client = client
        · subst same
          simp [newsTo, able]
        · simp [newsTo, same]
      rw [added, extended.store]
      exact ⟨rfl, rfl, extended.withStore _⟩

theorem contactable_deliver (hub : Hub) (grant : LockGrant) :
    (hub.deliver grant).2.contactable = hub.contactable :=
  (hub.deliver_cases grant).2.2.contactable_eq

theorem extends_deliverAll (grants : List LockGrant) (hub : Hub) :
    Extends { hub with store := (hub.deliverAll grants).2.store }
      (hub.newsTo grants) (hub.deliverAll grants).2 := by
  induction grants generalizing hub with
  | nil =>
      rw [newsTo_nil]
      exact .refl hub
  | cons grant others ih =>
      obtain ⟨-, -, first⟩ := hub.deliver_cases grant
      have later := ih (hub.deliver grant).2
      have both := (first.withStore
        ((hub.deliver grant).2.deliverAll others).2.store).trans later
      have added : (fun client => hub.newsTo [grant] client ++
          (hub.deliver grant).2.newsTo others client) =
            hub.newsTo (grant :: others) := by
        funext client
        rw [newsTo_congr (hub.contactable_deliver grant)]
        exact (hub.newsTo_append [grant] others client).symm
      exact added ▸ both

theorem deliverAll_counts (grants : List LockGrant) (hub : Hub) :
    (hub.deliverAll grants).1.delivered =
        grants.countP (fun grant => hub.contactable grant.client) ∧
      (hub.deliverAll grants).1.undelivered =
        grants.countP (fun grant => !hub.contactable grant.client) := by
  induction grants generalizing hub with
  | nil => exact ⟨rfl, rfl⟩
  | cons grant others ih =>
      have told := (hub.deliver_cases grant).1
      have later := ih (hub.deliver grant).2
      rw [contactable_deliver] at later
      simp only [deliverAll, told, List.countP_cons]
      cases able : hub.contactable grant.client with
      | true => simpa [able] using later
      | false => simpa [able] using later

theorem file?_deliverAll (grants : List LockGrant) (hub : Hub)
    (path : String) :
    (hub.deliverAll grants).2.store.file? path =
      (hub.store.file? path).map
        (StoredFile.takeBack hub.contactable path grants) := by
  induction grants generalizing hub with
  | nil => simp [deliverAll, StoredFile.takeBack]
  | cons grant others ih =>
      have kept := (hub.deliver_cases grant).2.1
      change ((hub.deliver grant).2.deliverAll others).2.store.file? path = _
      rw [ih, contactable_deliver, kept]
      cases able : hub.contactable grant.client with
      | true => simp [StoredFile.takeBack, able]
      | false =>
          simp only [Bool.false_eq_true, if_false, Store.file?_unlock,
            Option.map_map, Function.comp_def, StoredFile.takeBack, able,
            and_true, eq_comm]

theorem sameButLocks_deliver (hub : Hub) (grant : LockGrant) :
    hub.store.SameButLocks (hub.deliver grant).2.store := by
  have kept := (hub.deliver_cases grant).2.1
  rw [kept]
  split
  · exact .refl hub.store
  · exact Store.sameButLocks_unlock hub.store grant.path grant.client

theorem sameButLocks_deliverAll (grants : List LockGrant) (hub : Hub) :
    hub.store.SameButLocks (hub.deliverAll grants).2.store := by
  induction grants generalizing hub with
  | nil => exact .refl hub.store
  | cons grant others ih =>
      exact (hub.sameButLocks_deliver grant).trans
        (ih (hub.deliver grant).2)

def round (hub : Hub) : Delivery × Hub :=
  { hub with store := hub.store.grantWaiting.2 }.deliverAll
    hub.store.grantWaiting.1

theorem extends_round (hub : Hub) :
    Extends { hub with store := hub.round.2.store }
      (hub.newsTo hub.store.grantWaiting.1) hub.round.2 :=
  extends_deliverAll hub.store.grantWaiting.1
    { hub with store := hub.store.grantWaiting.2 }

theorem contactable_round (hub : Hub) :
    hub.round.2.contactable = hub.contactable :=
  hub.extends_round.contactable_eq

theorem sameButLocks_round (hub : Hub) :
    hub.store.SameButLocks hub.round.2.store :=
  hub.store.sameButLocks_grantWaiting.trans
    (sameButLocks_deliverAll hub.store.grantWaiting.1
      { hub with store := hub.store.grantWaiting.2 })

theorem undelivered_round_eq_zero_iff (hub : Hub) :
    hub.round.1.undelivered = 0 ↔
      ∀ grant ∈ hub.store.grantWaiting.1,
        hub.contactable grant.client = true := by
  rw [round, (deliverAll_counts _ _).2, List.countP_eq_zero]
  simp only [Bool.not_eq_true', Bool.not_eq_false]
  rfl

/-- A round makes one offer for every lock that is free and awaited. -/
theorem file?_round {hub : Hub} (consistent : hub.store.Consistent)
    (path : String) :
    hub.round.2.store.file? path =
      (hub.store.file? path).map (StoredFile.offer hub.contactable) := by
  rw [round, file?_deliverAll]
  change (hub.store.grantWaiting.2.file? path).map
    (StoredFile.takeBack hub.contactable path hub.store.grantWaiting.1) = _
  rw [consistent.file?_grantWaiting, Option.map_map]
  cases found : hub.store.file? path with
  | none => rfl
  | some file =>
      simp only [Option.map_some, Function.comp_apply, Option.some.injEq]
      have granted (grant : LockGrant)
          (listed : grant ∈ hub.store.grantWaiting.1)
          (here : grant.path = path) :
          ∃ result, file.grantNext = some (grant.client, result) := by
        obtain ⟨other, result, present, handed⟩ :=
          consistent.mem_grantWaiting_iff.mp listed
        rw [here, found, Option.some.injEq] at present
        exact ⟨result, present ▸ handed⟩
      rcases file.grantNext_cases with
        ⟨nothing, -⟩ | ⟨next, rest, -, -, handed⟩
      · rw [StoredFile.handOn_of_none nothing, StoredFile.offer, nothing]
        apply StoredFile.takeBack_of_other_owner
        intro grant listed here
        obtain ⟨result, handed⟩ := granted grant listed here
        simp [nothing] at handed
      · simp only [StoredFile.handOn_of_some handed, StoredFile.offer, handed]
        cases able : hub.contactable next with
        | true =>
            rw [if_pos rfl]
            apply StoredFile.takeBack_of_other_owner
            intro grant listed here untold
            obtain ⟨result, same⟩ := granted grant listed here
            simp only [handed, Option.some.injEq, Prod.mk.injEq] at same
            simp [← same.1, able] at untold
        | false =>
            rw [if_neg Bool.false_ne_true]
            apply StoredFile.takeBack_of_granted rfl _ able
            exact consistent.mem_grantWaiting_iff.mpr
              ⟨file, _, found, handed⟩

theorem waiterCount_round (hub : Hub) :
    hub.round.2.store.waiterCount + hub.store.grantWaiting.1.length =
      hub.store.waiterCount := by
  have counted := Store.waiterCount_grantAlong hub.store.order hub.store
  rw [round, waiterCount_deliverAll]
  exact counted

theorem waiterCount_round_lt {hub : Hub}
    (untold : hub.round.1.undelivered ≠ 0) :
    hub.round.2.store.waiterCount < hub.store.waiterCount := by
  have counted := hub.waiterCount_round
  have someGrant : hub.store.grantWaiting.1.length ≠ 0 := by
    intro none
    apply untold
    rw [undelivered_round_eq_zero_iff, List.eq_nil_of_length_eq_zero none]
    simp
  omega

/-- Every grant that the scan makes, in all its rounds. -/
def offers (hub : Hub) : List LockGrant :=
  if hub.round.1.undelivered = 0 then
    hub.store.grantWaiting.1
  else
    hub.store.grantWaiting.1 ++ offers hub.round.2
termination_by hub.store.waiterCount
decreasing_by exact waiterCount_round_lt (by assumption)

theorem grantAll_eq (hub : Hub) :
    hub.grantAll =
      if hub.round.1.undelivered = 0 then
        (hub.round.1.delivered, hub.round.2)
      else
        (hub.round.1.delivered + hub.round.2.grantAll.1,
          hub.round.2.grantAll.2) := by
  rw [grantAll]
  split
  · rename_i stop
    have none : hub.store.grantWaiting.1 = [] := List.isEmpty_iff.mp stop
    simp [round, none, deliverAll]
  · rfl

theorem extends_grantAll (hub : Hub) :
    Extends { hub with store := hub.grantAll.2.store }
      (hub.newsTo hub.offers) hub.grantAll.2 := by
  induction hub using offers.induct with
  | case1 hub told =>
      rw [grantAll_eq, if_pos told, offers, if_pos told]
      exact hub.extends_round
  | case2 hub untold ih =>
      rw [grantAll_eq, if_neg untold, offers, if_neg untold]
      have both := (hub.extends_round.withStore
        hub.round.2.grantAll.2.store).trans ih
      have added : (fun client =>
          hub.newsTo hub.store.grantWaiting.1 client ++
            hub.round.2.newsTo hub.round.2.offers client) =
          hub.newsTo (hub.store.grantWaiting.1 ++ hub.round.2.offers) := by
        funext client
        rw [newsTo_congr hub.contactable_round]
        exact (hub.newsTo_append _ _ client).symm
      exact added ▸ both

theorem sameButLocks_grantAll (hub : Hub) :
    hub.store.SameButLocks hub.grantAll.2.store := by
  induction hub using offers.induct with
  | case1 hub told =>
      rw [grantAll_eq, if_pos told]
      exact hub.sameButLocks_round
  | case2 hub untold ih =>
      rw [grantAll_eq, if_neg untold]
      exact hub.sameButLocks_round.trans ih

theorem file?_grantAll {hub : Hub} (consistent : hub.store.Consistent)
    (path : String) :
    hub.grantAll.2.store.file? path =
      (hub.store.file? path).map (StoredFile.settle hub.contactable) := by
  induction hub using offers.induct with
  | case1 hub told =>
      rw [grantAll_eq, if_pos told, file?_round consistent]
      cases found : hub.store.file? path with
      | none => rfl
      | some file =>
          have able : ∀ client granted,
              file.grantNext = some (client, granted) →
                hub.contactable client = true := by
            intro client granted handed
            exact hub.undelivered_round_eq_zero_iff.mp told { client, path }
              (consistent.mem_grantWaiting_iff.mpr
                ⟨file, granted, found, handed⟩)
          exact congrArg some (StoredFile.settle_of_told able).1.symm
  | case2 hub untold ih =>
      rw [grantAll_eq, if_neg untold,
        ih (consistent.of_sameButLocks hub.sameButLocks_round),
        file?_round consistent, Option.map_map, hub.contactable_round]
      congr 1
      funext file
      exact file.settle_offer

/-- The scan offers every lock that is free to those whose turn comes. -/
theorem mem_offers_iff {hub : Hub} (consistent : hub.store.Consistent)
    (grant : LockGrant) :
    grant ∈ hub.offers ↔
      ∃ file, hub.store.file? grant.path = some file ∧
        grant.client ∈ file.offered hub.contactable := by
  induction hub using offers.induct with
  | case1 hub told =>
      rw [offers, if_pos told, consistent.mem_grantWaiting_iff]
      have able {file granted : StoredFile} {client : ClientId}
          (found : hub.store.file? grant.path = some file)
          (handed : file.grantNext = some (client, granted)) :
          hub.contactable client = true :=
        hub.undelivered_round_eq_zero_iff.mp told
          { client, path := grant.path }
          (consistent.mem_grantWaiting_iff.mpr
            ⟨file, granted, found, handed⟩)
      constructor
      · rintro ⟨file, granted, found, handed⟩
        exact ⟨file, found,
          StoredFile.mem_offered_iff.mpr (Or.inl ⟨granted, handed⟩)⟩
      · rintro ⟨file, found, offered⟩
        rcases StoredFile.mem_offered_iff.mp offered with
          ⟨granted, handed⟩ | later
        · exact ⟨file, granted, found, handed⟩
        · have done := (StoredFile.settle_of_told
            fun client granted => able found).2
          simp [done] at later
  | case2 hub untold ih =>
      have later := ih (consistent.of_sameButLocks hub.sameButLocks_round)
      rw [hub.contactable_round, file?_round consistent] at later
      rw [offers, if_neg untold, List.mem_append,
        consistent.mem_grantWaiting_iff, later]
      constructor
      · rintro (⟨file, granted, found, handed⟩ | ⟨after, here, offered⟩)
        · exact ⟨file, found,
            StoredFile.mem_offered_iff.mpr (Or.inl ⟨granted, handed⟩)⟩
        · obtain ⟨file, found, rfl⟩ := Option.map_eq_some_iff.mp here
          exact ⟨file, found,
            StoredFile.mem_offered_iff.mpr (Or.inr offered)⟩
      · rintro ⟨file, found, offered⟩
        rcases StoredFile.mem_offered_iff.mp offered with
          ⟨granted, handed⟩ | later
        · exact Or.inl ⟨file, granted, found, handed⟩
        · exact Or.inr ⟨_, Option.map_eq_some_iff.mpr ⟨file, found, rfl⟩,
            later⟩

theorem nodup_offers {hub : Hub} (consistent : hub.store.Consistent)
    (inOrder : hub.store.QueuesInOrder) : hub.offers.Nodup := by
  induction hub using offers.induct with
  | case1 hub told =>
      rw [offers, if_pos told]
      exact consistent.nodup_grantWaiting
  | case2 hub untold ih =>
      have consistentLater :=
        consistent.of_sameButLocks hub.sameButLocks_round
      have inOrderLater : hub.round.2.store.QueuesInOrder := by
        intro path after here
        rw [file?_round consistent] at here
        obtain ⟨file, found, rfl⟩ := Option.map_eq_some_iff.mp here
        exact (inOrder path file found).offer
      rw [offers, if_neg untold, List.nodup_append]
      refine ⟨consistent.nodup_grantWaiting,
        ih consistentLater inOrderLater, ?_⟩
      intro first made second offered same
      subst same
      obtain ⟨file, granted, found, handed⟩ :=
        consistent.mem_grantWaiting_iff.mp made
      obtain ⟨after, foundLater, again⟩ :=
        (mem_offers_iff consistentLater first).mp offered
      rw [file?_round consistent, found, Option.map_some,
        Option.some.injEq] at foundLater
      subst foundLater
      rw [hub.contactable_round] at again
      exact StoredFile.not_offered_again (inOrder _ file found) handed again

end Hub

end FileDepot
