import FileDepot.Proofs.Hub.LockScan
import FileDepot.Proofs.Store.HeldLocks
import Mathlib.Data.List.TakeWhile

/-!
# What a lock scan comes to

The scan ends after no more rounds than clients wait.  It hands every lock
that is free to the first waiting client that can be told, passing over those
ahead of it, and tells every new owner once for each of its files: the files
for which fewest clients were passed over come first, and among those the
oldest.
-/

namespace FileDepot

namespace StoredFile

variable {told : ClientId → Bool}

/-- The client to whom the scan hands the lock of a file. -/
def heir? (told : ClientId → Bool) (file : StoredFile) : Option ClientId :=
  if file.owner = none then file.waiters.find? told else none

/-- How many waiting clients stand ahead of the first that can be told. -/
def passedOver (told : ClientId → Bool) (file : StoredFile) : Nat :=
  (file.waiters.takeWhile fun client => !told client).length

theorem passOn_eq (queue : List ClientId) :
    passOn told queue =
      (queue.find? told, (queue.dropWhile fun client => !told client).tail) := by
  induction queue with
  | nil => rfl
  | cons next rest ih =>
      cases able : told next with
      | true => simp [passOn, able]
      | false => simp [passOn, able, ih]

/-- A file after the scan: a lock that is free and awaited has the first
client that can be told as its owner, and those behind it in the queue. -/
theorem settle_eq (file : StoredFile) :
    file.settle told =
      if file.owner = none ∧ file.waiters ≠ [] then
        { file with
          owner := file.waiters.find? told
          waiters :=
            (file.waiters.dropWhile fun client => !told client).tail }
      else
        file := by
  rcases file with ⟨content, unwritten, owner, waiters⟩
  cases owner with
  | some holder => simp [settle]
  | none =>
      cases waiters with
      | nil => simp [settle, passOn]
      | cons next rest => simp [settle, passOn_eq]

theorem not_stranded_settle (file : StoredFile) :
    ¬ (file.settle told).Stranded := by
  rintro ⟨free, waiting⟩
  rw [settle_eq] at free waiting
  split at free
  · rename_i settled
    rw [if_pos settled] at waiting
    have untold := List.find?_eq_none.mp free
    apply waiting
    rw [List.dropWhile_eq_nil_iff.mpr (by simpa using untold)]
    rfl
  · rename_i settled
    rw [if_neg settled] at waiting
    exact settled ⟨free, waiting⟩

theorem heir?_eq_some_iff {file : StoredFile} {client : ClientId} :
    file.heir? told = some client ↔
      client ∈ file.offered told ∧ told client = true := by
  unfold heir? offered
  cases file.owner with
  | some holder => simp
  | none =>
      rw [if_pos rfl, ← passOn_fst_eq_some_iff, passOn_eq]

/-- The lock of a file is handed over in the first round if nobody has to be
passed over. -/
theorem passedOver_of_told {file granted : StoredFile} {client : ClientId}
    (handed : file.grantNext = some (client, granted))
    (able : told client = true) : file.passedOver told = 0 := by
  obtain ⟨rest, -, waiting, -⟩ := grantNext_eq_some_iff.mp handed
  simp [passedOver, waiting, able]

/-- Each round passes over one client where there is an heir left. -/
theorem passedOver_offer {file : StoredFile} {client : ClientId}
    (heir : (file.offer told).heir? told = some client) :
    file.passedOver told = (file.offer told).passedOver told + 1 := by
  rcases file.grantNext_cases with
    ⟨nothing, idle⟩ | ⟨next, rest, free, waiting, handed⟩
  · rw [offer, nothing] at heir
    by_cases free : file.owner = none
    · simp [heir?, free, idle free] at heir
    · simp [heir?, free] at heir
  · cases able : told next with
    | true => simp [offer, handed, able, heir?] at heir
    | false => simp [offer, handed, able, release, passedOver, waiting]

end StoredFile

namespace Hub

/-- The client to whom the scan hands the lock of the file at a path. -/
def heir? (hub : Hub) (path : String) : Option ClientId :=
  (hub.store.file? path).bind (StoredFile.heir? hub.contactable)

/-- How many clients the scan passes over at the file at a path before it
hands the lock over. -/
def passedOver (hub : Hub) (path : String) : Nat :=
  match hub.store.file? path with
  | none => 0
  | some file => file.passedOver hub.contactable

/-- The scan as a loop that is given up after so many rounds. -/
def scanFor : Nat → Hub → Option (Nat × Hub)
  | 0, _ => none
  | rounds + 1, hub =>
      if hub.round.1.undelivered = 0 then
        some (hub.round.1.delivered, hub.round.2)
      else
        (scanFor rounds hub.round.2).map fun rest =>
          (hub.round.1.delivered + rest.1, rest.2)

/-- The scan takes no more rounds than there are places in the queues, and one
in which everybody is told. -/
theorem scanFor_eq {hub : Hub} {rounds : Nat}
    (enough : hub.store.waiterCount < rounds) :
    scanFor rounds hub = some hub.grantAll := by
  induction hub using offers.induct generalizing rounds with
  | case1 hub told =>
      cases rounds with
      | zero => exact absurd enough (Nat.not_lt_zero _)
      | succ fewer => rw [scanFor, if_pos told, grantAll_eq, if_pos told]
  | case2 hub untold ih =>
      cases rounds with
      | zero => exact absurd enough (Nat.not_lt_zero _)
      | succ fewer =>
          have less := waiterCount_round_lt untold
          have ended : scanFor fewer hub.round.2 = some hub.round.2.grantAll :=
            ih (by omega)
          rw [scanFor, if_neg untold, ended, hub.grantAll_eq, if_neg untold]
          rfl

/-- The grants of the scan that stand, in the order in which their clients
were told. -/
def handovers (hub : Hub) : List LockGrant :=
  hub.offers.filter fun grant => hub.contactable grant.client

theorem mem_handovers_iff {hub : Hub} (consistent : hub.store.Consistent)
    (grant : LockGrant) :
    grant ∈ hub.handovers ↔ hub.heir? grant.path = some grant.client := by
  rw [handovers, List.mem_filter, mem_offers_iff consistent, heir?,
    Option.bind_eq_some_iff]
  simp only [StoredFile.heir?_eq_some_iff]
  constructor
  · rintro ⟨⟨file, found, offered⟩, able⟩
    exact ⟨file, found, offered, able⟩
  · rintro ⟨file, found, offered, able⟩
    exact ⟨⟨file, found, offered⟩, able⟩

theorem length_handovers (hub : Hub) :
    hub.grantAll.1 = hub.handovers.length := by
  have first (hub : Hub) : hub.round.1.delivered =
      hub.store.grantWaiting.1.countP
        fun grant => hub.contactable grant.client :=
    (deliverAll_counts _ _).1
  rw [handovers, ← List.countP_eq_length_filter]
  induction hub using offers.induct with
  | case1 hub told =>
      rw [grantAll_eq, if_pos told, offers, if_pos told]
      exact first hub
  | case2 hub untold ih =>
      rw [hub.contactable_round] at ih
      rw [grantAll_eq, if_neg untold, offers, if_neg untold,
        List.countP_append, ← ih, ← first]

/-- The files whose locks are handed over come in this order: those where
fewer clients are passed over, and the older ones among equals. -/
def HandedBefore (hub : Hub) (first second : String) : Prop :=
  hub.passedOver first < hub.passedOver second ∨
    (hub.passedOver first = hub.passedOver second ∧
      hub.store.Precedes first second)

theorem pairwise_grantWaiting {store : Store}
    (consistent : store.Consistent) :
    store.grantWaiting.1.Pairwise fun first second =>
      store.Precedes first.path second.path := by
  rw [Store.grantWaiting, Store.grantAlong_grants consistent.order_nodup,
    List.pairwise_filterMap]
  refine List.pairwise_iff_forall_sublist.mpr ?_
  intro first second before grant made other madeOther
  rw [(Store.nextGrant?_eq_some_iff.mp made).1,
    (Store.nextGrant?_eq_some_iff.mp madeOther).1]
  exact before

theorem passedOver_of_granted {hub : Hub}
    (consistent : hub.store.Consistent) {grant : LockGrant}
    (made : grant ∈ hub.store.grantWaiting.1)
    (able : hub.contactable grant.client = true) :
    hub.passedOver grant.path = 0 := by
  obtain ⟨file, granted, found, handed⟩ :=
    consistent.mem_grantWaiting_iff.mp made
  simp only [passedOver, found]
  exact StoredFile.passedOver_of_told handed able

/-- Where a lock is handed over after the first round, that round passed over
one client. -/
theorem passedOver_round {hub : Hub} (consistent : hub.store.Consistent)
    {path : String} {client : ClientId}
    (heir : hub.round.2.heir? path = some client) :
    hub.passedOver path = hub.round.2.passedOver path + 1 := by
  obtain ⟨after, here, later⟩ := Option.bind_eq_some_iff.mp heir
  rw [hub.contactable_round] at later
  simp only [passedOver, here]
  rw [file?_round consistent] at here
  obtain ⟨file, found, rfl⟩ := Option.map_eq_some_iff.mp here
  simp only [found, hub.contactable_round]
  exact StoredFile.passedOver_offer later

theorem pairwise_handovers {hub : Hub} (consistent : hub.store.Consistent) :
    hub.handovers.Pairwise fun first second =>
      hub.HandedBefore first.path second.path := by
  -- Grants that stand at once are made in the order of the files.
  have atOnce {hub : Hub} (consistent : hub.store.Consistent) :
      (hub.store.grantWaiting.1.filter fun grant =>
        hub.contactable grant.client).Pairwise fun first second =>
          hub.HandedBefore first.path second.path := by
    refine ((pairwise_grantWaiting consistent).filter _).imp_of_mem ?_
    intro first second firstMade secondMade before
    obtain ⟨firstMade, firstAble⟩ := List.mem_filter.mp firstMade
    obtain ⟨secondMade, secondAble⟩ := List.mem_filter.mp secondMade
    exact Or.inr
      ⟨(passedOver_of_granted consistent firstMade firstAble).trans
        (passedOver_of_granted consistent secondMade secondAble).symm, before⟩
  induction hub using offers.induct with
  | case1 hub told =>
      rw [handovers, offers, if_pos told]
      exact atOnce consistent
  | case2 hub untold ih =>
      have consistentLater :=
        consistent.of_sameButLocks hub.sameButLocks_round
      have rest := ih consistentLater
      have split : hub.handovers =
          (hub.store.grantWaiting.1.filter fun grant =>
            hub.contactable grant.client) ++ hub.round.2.handovers := by
        rw [handovers, offers, if_neg untold, List.filter_append, handovers,
          hub.contactable_round]
      have later {grant : LockGrant} (made : grant ∈ hub.round.2.handovers) :
          hub.passedOver grant.path =
            hub.round.2.passedOver grant.path + 1 :=
        passedOver_round consistent
          ((mem_handovers_iff consistentLater grant).mp made)
      rw [split, List.pairwise_append]
      refine ⟨atOnce consistent, rest.imp_of_mem ?_, ?_⟩
      · intro first second firstMade secondMade before
        rw [HandedBefore, later firstMade, later secondMade]
        rcases before with fewer | ⟨equal, before⟩
        · exact Or.inl (Nat.succ_lt_succ fewer)
        · rw [Store.Precedes, hub.sameButLocks_round.order_eq] at before
          exact Or.inr ⟨congrArg (· + 1) equal, before⟩
      · intro first firstMade second secondMade
        obtain ⟨firstMade, able⟩ := List.mem_filter.mp firstMade
        rw [HandedBefore, later secondMade,
          passedOver_of_granted consistent firstMade able]
        exact Or.inl (Nat.succ_pos _)

theorem nodup_handovers {hub : Hub} (consistent : hub.store.Consistent) :
    (hub.handovers.map LockGrant.path).Nodup := by
  rw [List.Nodup, List.pairwise_map]
  refine (pairwise_handovers consistent).imp ?_
  rintro first second (fewer | ⟨-, before⟩) same
  · rw [same] at fewer
    exact Nat.lt_irrefl _ fewer
  · rw [same] at before
    have twice := consistent.order_nodup.sublist before
    simp at twice

/-- The news of a scan are those of the locks handed over. -/
theorem newsTo_offers {hub : Hub} (consistent : hub.store.Consistent)
    (client : ClientId) :
    hub.newsTo hub.offers client =
      ((hub.handovers.map LockGrant.path).filter fun path =>
        hub.heir? path = some client).map grantNotice := by
  have own : (hub.handovers.filter fun grant =>
        hub.heir? grant.path = some client) =
      hub.handovers.filter fun grant => grant.client = client := by
    apply List.filter_congr
    intro grant made
    simp [(mem_handovers_iff consistent grant).mp made]
  have heard : (hub.handovers.filter fun grant => grant.client = client) =
      if hub.contactable client then
        hub.offers.filter fun grant => grant.client = client
      else [] := by
    rw [handovers, List.filter_filter]
    cases able : hub.contactable client with
    | true =>
        apply List.filter_congr
        intro grant _
        by_cases same : grant.client = client
        · simp [same, able]
        · simp [same]
    | false =>
        rw [if_neg Bool.false_ne_true, List.filter_eq_nil_iff]
        intro grant _
        by_cases same : grant.client = client
        · simp [same, able]
        · simp [same]
  rw [List.filter_map, List.map_map, newsTo]
  change _ = (hub.handovers.filter fun grant =>
    hub.heir? grant.path = some client).map fun grant =>
      grantNotice grant.path
  rw [own, heard]
  split <;> rfl

/-- The scan ends, in no more rounds than there are places in the queues and
one.  It leaves a file alone that is locked or that nobody waits for, and
hands the lock of every other file to the first client that can be told, with
those behind it left in the queue; if nobody can be told, the lock is free and
the queue is empty.  Every new owner is told once for each of its files, and
nobody is told anything else: where fewer clients are passed over comes first,
and the older file among equals.  Nothing but locks changes in the store, and
no lock is free although somebody waits for it. -/
theorem scan_hands_every_lock_on {hub : Hub}
    (consistent : hub.store.Consistent) :
    let after := hub.grantAll.2
    (∀ rounds, hub.store.waiterCount < rounds →
      scanFor rounds hub = some hub.grantAll) ∧
    (∀ path, after.store.file? path = (hub.store.file? path).map fun file =>
      if file.owner = none ∧ file.waiters ≠ [] then
        { file with
          owner := file.waiters.find? hub.contactable
          waiters := (file.waiters.dropWhile fun client =>
            !hub.contactable client).tail }
      else
        file) ∧
    (∃ handed : List String,
      (∀ path, path ∈ handed ↔ (hub.heir? path).isSome) ∧
      handed.Nodup ∧ handed.Pairwise hub.HandedBefore ∧
      hub.grantAll.1 = handed.length ∧
      ∀ client, after.queued client = hub.queued client ++
        (handed.filter fun path => hub.heir? path = some client).map
          grantNotice) ∧
    (after.registry = hub.registry ∧ after.lockTrigger = hub.lockTrigger ∧
      after.outboxClosed? = hub.outboxClosed?) ∧
    hub.store.SameButLocks after.store ∧ ¬ after.store.HasStranded := by
  intro after
  have extended := hub.extends_grantAll
  have settled := file?_grantAll consistent
  refine ⟨fun rounds => scanFor_eq, ?_, ?_, ?_, hub.sameButLocks_grantAll, ?_⟩
  · intro path
    simp only [after, settled]
    congr 1
    funext file
    exact file.settle_eq
  · refine ⟨hub.handovers.map LockGrant.path, ?_,
      nodup_handovers consistent,
      List.pairwise_map.mpr (pairwise_handovers consistent),
      by rw [hub.length_handovers, List.length_map], ?_⟩
    · intro path
      rw [List.mem_map, Option.isSome_iff_exists]
      constructor
      · rintro ⟨grant, made, rfl⟩
        exact ⟨grant.client, (mem_handovers_iff consistent grant).mp made⟩
      · rintro ⟨client, heir⟩
        exact ⟨{ client, path }, (mem_handovers_iff consistent _).mpr heir, rfl⟩
    · intro client
      rw [extended.queued, newsTo_offers consistent]
      rfl
  · exact ⟨extended.registry, extended.lockTrigger,
      funext extended.outboxClosed?⟩
  · rintro ⟨path, file, found, stranded⟩
    simp only [after, settled] at found
    obtain ⟨before, -, rfl⟩ := Option.map_eq_some_iff.mp found
    exact before.not_stranded_settle stranded

/-- Client 1 is not in session and the outbox of client 3 is closed, so client
2, who waits behind both of them for the older file, gets it after the younger
one, for which nobody is passed over.  The lock of the third file, for which
only client 1 waits, stays free. -/
theorem last_in_queue_is_told_last :
    let hub : Hub :=
      closeOutbox
        { store := (Store.new {}).run
            [.create "a" 4 true, .lock "a" 1, .lock "a" 3, .lock "a" 2,
              .create "b" 4 true, .lock "b" 2, .lock "b" 3,
              .create "c" 4 true, .lock "c" 1, .releaseClient 4]
          registry := (({} : Registry).register 2).register 3
          outboxes := (Index.empty.insert 2 {}).insert 3 {} } 3
    hub.store.Consistent ∧ hub.store.waiterCount = 6 ∧
      hub.grantAll.1 = 2 ∧
      hub.grantAll.2.queued 2 = [grantNotice "b", grantNotice "a"] ∧
      hub.grantAll.2.store.file? "a" = some { owner := some 2 } ∧
      hub.grantAll.2.store.file? "b" =
        some { owner := some 2, waiters := [3] } ∧
      hub.grantAll.2.store.file? "c" = some {} := by
  intro hub
  have consistent : hub.store.Consistent :=
    ((Store.sound_new {}).run _).consistent
  obtain ⟨ends, settles, -⟩ := scan_hands_every_lock_on consistent
  have ended : scanFor 7 hub = some hub.grantAll := ends 7 (by decide)
  have told : (scanFor 7 hub).map (fun scan => (scan.1, scan.2.queued 2)) =
      some (2, [grantNotice "b", grantNotice "a"]) := by
    decide
  rw [ended, Option.map_some, Option.some.injEq, Prod.mk.injEq] at told
  refine ⟨consistent, by decide, told.1, told.2, ?_, ?_, ?_⟩
  · rw [settles]
    decide
  · rw [settles]
    decide
  · rw [settles]
    decide

end Hub

end FileDepot
