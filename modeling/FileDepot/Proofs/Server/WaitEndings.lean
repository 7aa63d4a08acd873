import FileDepot.Proofs.Server.Attendance

/-!
# How a wait ends

A client stops waiting for a file because it got the lock, because it could
not be told of it, because the file is gone, or because it went itself.  It is
told once in the first and the third case, and nobody is told anything else.
-/

namespace FileDepot

/-- What a server does in one go. -/
inductive ServerStep
  /-- A worker serves one request. -/
  | serve (client : ClientId) (incoming : Source)
  /-- A worker disconnects a client. -/
  | disconnect (client : ClientId)
  /-- The lock manager hands out every free lock. -/
  | scan

/-- How a client comes to wait for a file no longer. -/
inductive WaitEnding
  | granted
  | unreachable
  | fileGone
  | withdrawn
  deriving DecidableEq, Repr

namespace Floor

def take (floor : Floor) : ServerStep → Floor
  | .serve client incoming => floor.serve client incoming
  | .disconnect client => (floor.release client).forget client
  | .scan => { floor with hub := floor.hub.grantAll.2 }

/-- The reply that a step queues for a client, if the step serves a request of
that client and its outbox is open. -/
def replied (floor : Floor) (step : ServerStep) (client : ClientId) :
    List Response :=
  match step with
  | .serve requester incoming =>
      match floor.seats.find? requester with
      | some ⟨connection, .inUse⟩ =>
          floor.hub.repliesTo requester
            (floor.hub.answers { connection with incoming }) client
      | _ => []
  | _ => []

/-- A step serves a client's own request to close a file. -/
def Closes (floor : Floor) (step : ServerStep) (client : ClientId)
    (path : String) : Prop :=
  ∃ incoming connection request,
    step = .serve client incoming ∧
    floor.seats.find? client = some ⟨connection, .inUse⟩ ∧
    floor.hub.reads { connection with incoming } = .ok request ∧
    request.operation = .closeFile ∧ request.path = path

/-- A step ends a client's wait for a file in the given way, with these news
for the client. -/
def EndsBy (floor : Floor) (step : ServerStep) (news : List Response)
    (client : ClientId) (path : String) : WaitEnding → Prop
  | .granted =>
      step = .scan ∧
      (∃ file, (floor.take step).hub.store.file? path = some file ∧
        file.owner = some client) ∧
      news.count (Hub.grantNotice path) = 1
  | .unreachable =>
      step = .scan ∧ { client, path } ∈ floor.hub.offers ∧
      (floor.hub.registry.contains client = false ∨
        floor.hub.outboxClosed? client = some true)
  | .fileGone =>
      floor.hub.store.file? path ≠ none ∧
      (floor.take step).hub.store.file? path = none ∧
      (floor.hub.registry.contains client = true →
        floor.hub.outboxClosed? client = some false →
        news.count (Hub.goneNotice path) = 1)
  | .withdrawn => floor.Closes step client path ∨ step = .disconnect client

/-- What a step does to those who wait, and what it tells whom. -/
structure EndsWaits (floor : Floor) (step : ServerStep)
    (news : ClientId → List Response) : Prop where
  /-- Behind the reply to the requester come the news, and nothing else. -/
  queued : ∀ client, (floor.take step).hub.queued client =
    floor.hub.queued client ++ floor.replied step client ++ news client
  /-- Whoever waits no longer has one reason for it. -/
  ends : ∀ client path, floor.hub.store.Awaits client path →
    ¬ (floor.take step).hub.store.Awaits client path →
    ∃! ending, floor.EndsBy step (news client) client path ending
  /-- Nobody is told anything twice, or without being registered and having an
  open outbox. -/
  once : ∀ client, (news client).Nodup
  reached : ∀ client, news client ≠ [] →
    floor.hub.registry.contains client = true ∧
      floor.hub.outboxClosed? client = some false
  /-- All news are of a wait that has ended. -/
  told : ∀ client response, response ∈ news client →
    ∃ path, floor.hub.store.Awaits client path ∧
      ¬ (floor.take step).hub.store.Awaits client path ∧
      ((response = Hub.grantNotice path ∧
          floor.EndsBy step (news client) client path .granted) ∨
        (response = Hub.goneNotice path ∧
          floor.EndsBy step (news client) client path .fileGone))

end Floor

theorem nodup_notices {Item : Type} {items : List Item} {keep : Item → Bool}
    {notice : Item → Response} (nodup : items.Nodup)
    (different : ∀ first second, keep first = true → keep second = true →
      notice first = notice second → first = second) :
    ((items.filter keep).map notice).Nodup := by
  refine (nodup.filter keep).map_on ?_
  intro first inFirst second inSecond
  exact different first second (List.mem_filter.mp inFirst).2
    (List.mem_filter.mp inSecond).2

namespace Floor

namespace Attended

variable {floor : Floor} (attended : floor.Attended)

include attended

theorem contactable_iff (client : ClientId) :
    floor.hub.contactable client = true ↔
      floor.hub.registry.contains client = true ∧
        floor.hub.outboxClosed? client = some false := by
  rw [Hub.contactable_iff]
  simp [Registry.reaches, attended.reached]

/-- Who cannot be told is not registered or has a closed outbox. -/
theorem unreachable {client : ClientId}
    (unable : floor.hub.contactable client = false) :
    floor.hub.registry.contains client = false ∨
      floor.hub.outboxClosed? client = some true := by
  cases registered : floor.hub.registry.contains client with
  | false => exact Or.inl rfl
  | true =>
      obtain ⟨seat, seated, -⟩ := (attended.registered client).mp registered
      obtain ⟨closed, present⟩ := attended.outbox client seat seated
      cases closed with
      | true => exact Or.inr present
      | false =>
          have able := (attended.contactable_iff client).mpr
            ⟨registered, present⟩
          rw [unable] at able
          cases able

theorem nodup_newsTo (client : ClientId) :
    (floor.hub.newsTo floor.hub.offers client).Nodup := by
  unfold Hub.newsTo
  split
  · apply nodup_notices
      (Hub.nodup_offers attended.sound.consistent attended.inOrder)
    rintro ⟨first, target⟩ ⟨second, other⟩ named alsoNamed same
    obtain rfl : first = client := of_decide_eq_true named
    obtain rfl : second = first := of_decide_eq_true alsoNamed
    rw [show target = other from congrArg Response.path same]
  · exact List.nodup_nil

theorem count_grantNotice {client : ClientId} {path : String}
    (able : floor.hub.contactable client = true)
    (offered : { client, path } ∈ floor.hub.offers) :
    (floor.hub.newsTo floor.hub.offers client).count
      (Hub.grantNotice path) = 1 := by
  apply List.count_eq_one_of_mem (attended.nodup_newsTo client)
  rw [Hub.newsTo, if_pos able]
  exact List.mem_map.mpr ⟨{ client, path },
    List.mem_filter.mpr ⟨offered, decide_eq_true rfl⟩, rfl⟩

theorem file?_scan (path : String) :
    (floor.take .scan).hub.store.file? path =
      (floor.hub.store.file? path).map
        (StoredFile.settle floor.hub.contactable) :=
  Hub.file?_grantAll attended.sound.consistent path

end Attended

section Disconnect

variable (floor : Floor) (client : ClientId)

theorem store_disconnect :
    (floor.take (.disconnect client)).hub.store = floor.hub.store ∨
      (floor.take (.disconnect client)).hub.store =
        (floor.hub.store.perform (.releaseClient client)).2 := by
  have forgotten (other : Floor) :
      (other.forget client).hub.store = other.hub.store := by
    rcases other.forget_cases client with
      same | ⟨connection, locks, -, goes⟩
    · rw [same]
    · rw [goes]
      dsimp only
      split <;> rfl
  change ((floor.release client).forget client).hub.store = _ ∨
    ((floor.release client).forget client).hub.store = _
  rw [forgotten]
  rcases floor.release_cases client with
    same | ⟨connection, stage, -, -, goes⟩
  · exact Or.inl (by rw [same])
  · exact Or.inr (by rw [goes]; rfl)

theorem queued_disconnect (other : ClientId) :
    (floor.take (.disconnect client)).hub.queued other =
      floor.hub.queued other := by
  have forgotten (some : Floor) :
      (some.forget client).hub.queued other = some.hub.queued other := by
    rcases some.forget_cases client with
      same | ⟨connection, locks, -, goes⟩
    · rw [same]
    · rw [goes]
      dsimp only
      split <;> exact Hub.queued_closeOutbox _ client other
  change ((floor.release client).forget client).hub.queued other = _
  rw [forgotten]
  rcases floor.release_cases client with
    same | ⟨connection, stage, -, -, goes⟩
  · rw [same]
  · rw [goes]
    rfl

theorem file?_disconnect (path : String) :
    (floor.take (.disconnect client)).hub.store.file? path = none ↔
      floor.hub.store.file? path = none := by
  rcases floor.store_disconnect client with same | released
  · rw [same]
  · rw [released]
    have only : (StoreOperation.releaseClient client).onlyLocks = true := rfl
    exact Store.file?_eq_none_iff_of_onlyLocks only path

end Disconnect

theorem take_serve_cases (floor : Floor) (client : ClientId)
    (incoming : Source) :
    (floor.take (.serve client incoming) = floor ∧
      ∀ other, floor.replied (.serve client incoming) other = []) ∨
    ∃ connection, floor.seats.find? client = some ⟨connection, .inUse⟩ ∧
      (floor.take (.serve client incoming)).hub =
        (floor.hub.serveOne { connection with incoming }).2.2 ∧
      ∀ other, floor.replied (.serve client incoming) other =
        floor.hub.repliesTo client
          (floor.hub.answers { connection with incoming }) other := by
  cases seated : floor.seats.find? client with
  | none =>
      left
      simp [take, serve, replied, seated]
  | some seat =>
      rcases seat with ⟨connection, _ | _ | locks⟩
      · right
        refine ⟨connection, rfl, ?_, ?_⟩
        · simp only [take, serve, seated]
        · simp [replied, seated]
      · left
        simp [take, serve, replied, seated]
      · left
        simp [take, serve, replied, seated]

theorem not_gone_of_withdrawn {floor : Floor} {step : ServerStep} {client : ClientId}
    {path : String}
    (withdrawn : floor.Closes step client path ∨ step = .disconnect client)
    (present : floor.hub.store.file? path ≠ none) :
    (floor.take step).hub.store.file? path ≠ none := by
  rcases withdrawn with
    ⟨incoming, connection, request, rfl, seated, read, closing, rfl⟩ | rfl
  · have goes : (floor.take (.serve client incoming)).hub =
        (floor.hub.serveOne { connection with incoming }).2.2 := by
      simp only [take, serve, seated]
    rw [goes]
    cases floor.hub.serves_serveOne { connection with incoming } with
    | opened _ _ extended => exact extended.store ▸ present
    | quiet _ extended => exact extended.store ▸ present
    | carried operation asked _ _ extended =>
        have closes : operation = .close request.path connection.client := by
          simp only [Hub.asked?, read, Request.asks?, closing,
            Option.some.injEq] at asked
          exact asked.symm
        subst closes
        rw [extended.store]
        intro gone
        exact present ((Store.file?_eq_none_iff_of_onlyLocks rfl _).mp gone)
  · intro gone
    exact present ((floor.file?_disconnect client path).mp gone)

namespace Attended

variable {floor : Floor} (attended : floor.Attended)

include attended

/-- No wait ends in two ways. -/
theorem endsBy_unique {step : ServerStep} {news : List Response}
    {client : ClientId} {path : String} {first second : WaitEnding}
    (byFirst : floor.EndsBy step news client path first)
    (bySecond : floor.EndsBy step news client path second) :
    first = second := by
  -- Only a scan grants or finds a waiter unreachable, and it removes no file
  -- and withdraws nobody. That leaves two pairs to tell apart.
  have notTold
      (granted : floor.EndsBy step news client path .granted)
      (unreachable : floor.EndsBy step news client path .unreachable) :
      False := by
    obtain ⟨rfl, ⟨after, settled, held⟩, -⟩ := granted
    obtain ⟨-, listed, unable⟩ := unreachable
    obtain ⟨file, found, offered⟩ :=
      (Hub.mem_offers_iff attended.sound.consistent _).mp listed
    rw [attended.file?_scan, found, Option.map_some,
      Option.some.injEq] at settled
    subst settled
    obtain ⟨registered, isOpen⟩ := (attended.contactable_iff client).mp
      ((StoredFile.owner_settle_of_offered offered).mp held)
    simp [registered, isOpen] at unable
  have notGone
      (scan : step = .scan)
      (gone : floor.EndsBy step news client path .fileGone) : False := by
    subst scan
    obtain ⟨present, absent, -⟩ := gone
    rw [attended.file?_scan, Option.map_eq_none_iff] at absent
    exact present absent
  have notScan
      (scan : step = .scan)
      (withdrawn : floor.EndsBy step news client path .withdrawn) :
      False := by
    subst scan
    rcases withdrawn with ⟨_, _, _, impossible, -⟩ | impossible
    · cases impossible
    · cases impossible
  have notBoth
      (gone : floor.EndsBy step news client path .fileGone)
      (withdrawn : floor.EndsBy step news client path .withdrawn) : False :=
    not_gone_of_withdrawn withdrawn gone.1 gone.2.1
  cases first with
  | granted =>
      cases second with
      | granted => rfl
      | unreachable => exact (notTold byFirst bySecond).elim
      | fileGone => exact (notGone byFirst.1 bySecond).elim
      | withdrawn => exact (notScan byFirst.1 bySecond).elim
  | unreachable =>
      cases second with
      | granted => exact (notTold bySecond byFirst).elim
      | unreachable => rfl
      | fileGone => exact (notGone byFirst.1 bySecond).elim
      | withdrawn => exact (notScan byFirst.1 bySecond).elim
  | fileGone =>
      cases second with
      | granted => exact (notGone bySecond.1 byFirst).elim
      | unreachable => exact (notGone bySecond.1 byFirst).elim
      | fileGone => rfl
      | withdrawn => exact (notBoth byFirst bySecond).elim
  | withdrawn =>
      cases second with
      | granted => exact (notScan bySecond.1 byFirst).elim
      | unreachable => exact (notScan bySecond.1 byFirst).elim
      | fileGone => exact (notBoth bySecond byFirst).elim
      | withdrawn => rfl

theorem existsUnique_ending {step : ServerStep} {news : List Response}
    {client : ClientId} {path : String} (ending : WaitEnding)
    (ends : floor.EndsBy step news client path ending) :
    ∃! ending, floor.EndsBy step news client path ending :=
  ⟨ending, ends, fun _ byOther => attended.endsBy_unique byOther ends⟩

theorem endsWaits_scan :
    floor.EndsWaits .scan (floor.hub.newsTo floor.hub.offers) := by
  have offers (grant : LockGrant) :=
    Hub.mem_offers_iff attended.sound.consistent grant
  have settled {path : String} {file : StoredFile}
      (found : floor.hub.store.file? path = some file) :
      (floor.take .scan).hub.store.file? path =
        some (file.settle floor.hub.contactable) := by
    rw [attended.file?_scan, found, Option.map_some]
  have granted {client : ClientId} {path : String} {file : StoredFile}
      (found : floor.hub.store.file? path = some file)
      (offered : client ∈ file.offered floor.hub.contactable)
      (able : floor.hub.contactable client = true) :
      floor.EndsBy .scan (floor.hub.newsTo floor.hub.offers client) client
        path .granted :=
    ⟨rfl, ⟨_, settled found,
      (StoredFile.owner_settle_of_offered offered).mpr able⟩,
      attended.count_grantNotice able
        ((offers ⟨client, path⟩).mpr ⟨file, found, offered⟩)⟩
  constructor
  · intro client
    have queued := (floor.hub.extends_grantAll).queued client
    simp only [replied, List.append_nil]
    exact queued
  · rintro client path ⟨file, found, waits⟩ ended
    have offered : client ∈ file.offered floor.hub.contactable :=
      StoredFile.offered_of_left waits fun still =>
        ended ⟨_, settled found, still⟩
    cases able : floor.hub.contactable client with
    | true =>
        exact attended.existsUnique_ending .granted
          (granted found offered able)
    | false =>
        exact attended.existsUnique_ending .unreachable
          ⟨rfl, (offers ⟨client, path⟩).mpr ⟨file, found, offered⟩,
            attended.unreachable able⟩
  · exact attended.nodup_newsTo
  · intro client some
    apply (attended.contactable_iff client).mp
    by_contra unable
    exact some (if_neg unable)
  · intro client response news
    unfold Hub.newsTo at news
    split at news
    · rename_i able
      obtain ⟨⟨other, path⟩, listed, rfl⟩ := List.mem_map.mp news
      obtain ⟨offeredTo, named⟩ := List.mem_filter.mp listed
      obtain rfl : other = client := of_decide_eq_true named
      obtain ⟨file, found, offered⟩ := (offers ⟨other, path⟩).mp offeredTo
      refine ⟨path, ⟨file, found,
        (StoredFile.offered_sublist file).subset offered⟩, ?_,
        Or.inl ⟨rfl, granted found offered able⟩⟩
      rintro ⟨after, present, still⟩
      rw [settled found, Option.some.injEq] at present
      subst present
      exact StoredFile.not_mem_settle_of_offered
        (attended.inOrder path file found) offered still
    · cases news

theorem endsWaits_disconnect (client : ClientId) :
    floor.EndsWaits (.disconnect client) fun _ => [] := by
  constructor
  · intro other
    simp only [replied, List.append_nil]
    exact floor.queued_disconnect client other
  · intro other path awaited ended
    rcases floor.store_disconnect client with same | released
    · rw [same] at ended
      exact absurd awaited ended
    · rw [released] at ended
      have gone : floor.hub.store.file? path ≠ none := by
        obtain ⟨file, found, -⟩ := awaited
        simp [found]
      rcases Store.wait_ends attended.sound.consistent
          (.releaseClient client) awaited ended with
        absent | closes | leaves | scans
      · rw [← released, file?_disconnect] at absent
        exact absurd absent gone
      · cases closes
      · cases leaves
        exact attended.existsUnique_ending .withdrawn (Or.inr rfl)
      · cases scans
  · exact fun _ => List.nodup_nil
  · exact fun _ some => absurd rfl some
  · intro other response news
    cases news

theorem nodup_noticesTo (operation : StoreOperation) (client : ClientId) :
    (floor.hub.noticesTo (floor.hub.store.perform operation).1.orphans
      client).Nodup := by
  unfold Hub.noticesTo
  split
  · apply nodup_notices (Store.nodup_orphans attended.sound.consistent
      (fun path file found => (attended.inOrder path file found).nodup)
      operation)
    rintro ⟨first, target⟩ ⟨second, other⟩ named alsoNamed same
    obtain rfl : first = client := of_decide_eq_true named
    obtain rfl : second = first := of_decide_eq_true alsoNamed
    rw [show target = other from congrArg Response.path same]
  · exact List.nodup_nil

theorem count_goneNotice (operation : StoreOperation) {client : ClientId}
    {path : String} (able : floor.hub.contactable client = true)
    (orphaned :
      { client, path } ∈ (floor.hub.store.perform operation).1.orphans) :
    (floor.hub.noticesTo (floor.hub.store.perform operation).1.orphans
      client).count (Hub.goneNotice path) = 1 := by
  apply List.count_eq_one_of_mem (attended.nodup_noticesTo operation client)
  rw [Hub.noticesTo, if_pos able]
  exact List.mem_map.mpr ⟨{ client, path },
    List.mem_filter.mpr ⟨orphaned, decide_eq_true rfl⟩, rfl⟩

/-- An operation ends the waits for the files that it costs, and its client's
own wait for a file that it closes. -/
theorem endsWaits_carried {client : ClientId} {incoming : Source}
    {connection : Connection} {operation : StoreOperation}
    (seated : floor.seats.find? client = some ⟨connection, .inUse⟩)
    (asked : floor.hub.asked? { connection with incoming } = some operation)
    (store : (floor.take (.serve client incoming)).hub.store =
      (floor.hub.store.perform operation).2)
    (queued : ∀ other,
      (floor.take (.serve client incoming)).hub.queued other =
        floor.hub.queued other ++
          floor.replied (.serve client incoming) other ++
          floor.hub.noticesTo
            (floor.hub.store.perform operation).1.orphans other) :
    floor.EndsWaits (.serve client incoming)
      (floor.hub.noticesTo
        (floor.hub.store.perform operation).1.orphans) := by
  have consistent := attended.sound.consistent
  have named : connection.client = client := attended.named client _ seated
  have orphans (orphan : Orphan) :=
    Store.mem_orphans_iff consistent operation orphan
  have gone {other : ClientId} {path : String}
      (awaited : floor.hub.store.Awaits other path)
      (absent : (floor.hub.store.perform operation).2.file? path = none) :
      floor.EndsBy (.serve client incoming)
        (floor.hub.noticesTo
          (floor.hub.store.perform operation).1.orphans other)
        other path .fileGone := by
    refine ⟨?_, by rw [store]; exact absent, ?_⟩
    · obtain ⟨file, found, -⟩ := awaited
      simp [found]
    · intro registered isOpen
      exact attended.count_goneNotice operation
        ((attended.contactable_iff other).mpr ⟨registered, isOpen⟩)
        ((orphans ⟨other, path⟩).mpr ⟨awaited, absent⟩)
  constructor
  · exact queued
  · intro other path awaited ended
    rw [store] at ended
    rcases Store.wait_ends consistent operation awaited ended with
      absent | leaving
    · exact attended.existsUnique_ending .fileGone (gone awaited absent)
    · unfold Hub.asked? at asked
      split at asked
      · rename_i request read
        obtain ⟨-, rfl, closing, path⟩ :=
          Request.closes_of_asks asked leaving
        refine attended.existsUnique_ending .withdrawn (Or.inl ?_)
        exact ⟨incoming, connection, request, by rw [named],
          by rw [named]; exact seated, read, closing, path⟩
      · cases asked
  · exact attended.nodup_noticesTo operation
  · intro other some
    apply (attended.contactable_iff other).mp
    by_contra unable
    exact some (if_neg unable)
  · intro other response news
    unfold Hub.noticesTo at news
    split at news
    · obtain ⟨⟨orphan, path⟩, listed, rfl⟩ := List.mem_map.mp news
      obtain ⟨orphaned, same⟩ := List.mem_filter.mp listed
      obtain rfl : orphan = other := of_decide_eq_true same
      obtain ⟨awaited, absent⟩ := (orphans ⟨orphan, path⟩).mp orphaned
      refine ⟨path, awaited, ?_, Or.inr ⟨rfl, gone awaited absent⟩⟩
      rintro ⟨file, found, -⟩
      rw [store, absent] at found
      cases found
    · cases news

theorem endsWaits_serve (client : ClientId) (incoming : Source) :
    ∃ news, floor.EndsWaits (.serve client incoming) news := by
  have consistent := attended.sound.consistent
  -- A step that leaves the store as it was ends no wait and has no news.
  have silent
      (same : (floor.take (.serve client incoming)).hub.store =
        floor.hub.store)
      (queued : ∀ other,
        (floor.take (.serve client incoming)).hub.queued other =
          floor.hub.queued other ++
            floor.replied (.serve client incoming) other) :
      floor.EndsWaits (.serve client incoming) fun _ => [] := by
    refine ⟨fun other => by rw [queued, List.append_nil], ?_,
      fun _ => List.nodup_nil, fun _ some => absurd rfl some, ?_⟩
    · intro other path awaited ended
      rw [same] at ended
      exact absurd awaited ended
    · intro other response news
      cases news
  rcases floor.take_serve_cases client incoming with
    ⟨same, unanswered⟩ | ⟨connection, seated, goes, answered⟩
  · refine ⟨_, silent (by rw [same]) ?_⟩
    intro other
    rw [same, unanswered, List.append_nil]
  have named : connection.client = client := attended.named client _ seated
  cases floor.hub.serves_serveOne { connection with incoming } with
  | opened unopened opened extended =>
      refine ⟨_, silent (by rw [goes]; exact extended.store) ?_⟩
      intro other
      rw [goes, answered, extended.queued, ← named]
      rfl
  | quiet same extended =>
      refine ⟨_, silent (by rw [goes]; exact extended.store) ?_⟩
      intro other
      rw [goes, answered, extended.queued, ← named]
  | carried operation asked active still extended =>
      refine ⟨_, attended.endsWaits_carried seated asked ?_ ?_⟩
      · rw [goes]
        exact extended.store
      · intro other
        rw [goes, answered, extended.queued, ← named, List.append_assoc]
        rfl

end Attended

/-- In every reachable state, a step ends a wait in exactly one way, and tells
nobody anything but the reply to the requester and, behind it, how a wait has
ended. -/
theorem waits_end_once (limits : Limits) (moves : List Move)
    (step : ServerStep) :
    ∃ news, ((new limits).run moves).EndsWaits step news := by
  have attended := attended_run limits moves
  cases step with
  | serve client incoming => exact attended.endsWaits_serve client incoming
  | disconnect client => exact ⟨_, attended.endsWaits_disconnect client⟩
  | scan => exact ⟨_, attended.endsWaits_scan⟩

/-- The first of two contesting clients removes the file. -/
def removal : ServerStep :=
  .serve 1 (.ofBytes (Request.frame { operation := .removeFile, path := "f" }))

/-- The contest, after which the first client gives the lock back. -/
def handBack : List Move :=
  contest.flatMap Turn.moves ++
    [.serve 1 (.ofBytes
      (Request.frame { operation := .unlockFile, path := "f" }))]

/-- The second client waits no longer, for one reason: the file is gone, or a
scan gives it the lock that was handed back. -/
theorem second_contestant_waits_no_longer :
    (∃ news : ClientId → List Response,
      ((new {}).run (contest.flatMap Turn.moves)).EndsWaits removal news ∧
      ∃! ending, ((new {}).run (contest.flatMap Turn.moves)).EndsBy removal
        (news 2) 2 "f" ending) ∧
    ∃ news : ClientId → List Response,
      ((new {}).run handBack).EndsWaits .scan news ∧
      ((new {}).run handBack).EndsBy .scan (news 2) 2 "f" .granted ∧
      ∃! ending, ((new {}).run handBack).EndsBy .scan (news 2) 2 "f"
        ending := by
  constructor
  · obtain ⟨news, endsWaits⟩ :=
      waits_end_once {} (contest.flatMap Turn.moves) removal
    have found : ((new {}).run
        (contest.flatMap Turn.moves)).hub.store.file? "f" =
          some { owner := some 1, waiters := [2] } := by
      decide +kernel
    have gone : (((new {}).run (contest.flatMap Turn.moves)).take
        removal).hub.store.file? "f" = none := by
      decide +kernel
    refine ⟨news, endsWaits, endsWaits.ends 2 "f" ⟨_, found, by simp⟩ ?_⟩
    rintro ⟨file, still, -⟩
    rw [gone] at still
    cases still
  · obtain ⟨news, endsWaits⟩ := waits_end_once {} handBack .scan
    have found : ((new {}).run handBack).hub.store.file? "f" =
        some { waiters := [2] } := by
      decide +kernel
    have given : (((new {}).run handBack).take .scan).hub.store.file? "f" =
        some { owner := some 2 } := by
      decide +kernel
    have told : news 2 = [Hub.grantNotice "f"] := by
      have queued : (((new {}).run handBack).take .scan).hub.queued 2 =
          ((new {}).run handBack).hub.queued 2 ++ [] ++
            [Hub.grantNotice "f"] := by
        decide +kernel
      exact List.append_cancel_left ((endsWaits.queued 2).symm.trans queued)
    refine ⟨news, endsWaits, ⟨rfl, ⟨_, given, rfl⟩, by simp [told]⟩,
      endsWaits.ends 2 "f" ⟨_, found, by simp⟩ ?_⟩
    rintro ⟨file, still, waits⟩
    rw [given] at still
    cases still
    cases waits

end Floor

end FileDepot
