import FileDepot.Proofs.Hub.LockScan

/-!
# The floor of the server

Connections, workers, writers and the lock manager take turns in any order.
A worker serves a request in one move, and disconnects a client in two.  The
lock manager takes a move for every wait, for every round of grants, for every
client that it tells, and for every lock that it takes back.
-/

namespace FileDepot

/-- How far the work on a connection has come. -/
inductive Stage
  | inUse
  /-- Its client was served for the last time. -/
  | ended
  /-- Its client has given up the locks that it held, so many of them. -/
  | released (locks : Nat)
  deriving DecidableEq, Repr

structure Seat where
  connection : Connection
  stage : Stage := .inUse
  deriving DecidableEq

/-- Where the lock manager stands in a run. -/
inductive ManagerPhase
  /-- Between two runs. -/
  | waiting
  /-- About to hand out the free locks. -/
  | granting
  /-- About to tell the clients of these grants, after so many in vain. -/
  | telling (grants : List LockGrant) (undelivered : Nat)
  /-- About to take a lock back from a client that could not be told. -/
  | undoing (grant : LockGrant) (others : List LockGrant) (undelivered : Nat)
  deriving DecidableEq, Repr

structure Floor where
  hub : Hub
  seats : Index ClientId Seat := .empty
  nextClient : ClientId := 1
  manager : ManagerPhase := .waiting

namespace Floor

/-- A server that nobody has connected to. -/
def new (limits : Limits) : Floor where
  hub := .new limits

/-- A connection is accepted. -/
def accept (floor : Floor) : Floor :=
  { floor with
    hub := floor.hub.openOutbox floor.nextClient
    seats := floor.seats.insert floor.nextClient
      { connection := { client := floor.nextClient } }
    nextClient := floor.nextClient + 1 }

/-- A worker serves what has arrived from a client. -/
def serve (client : ClientId) (incoming : Source) (floor : Floor) : Floor :=
  match floor.seats.find? client with
  | some ⟨connection, .inUse⟩ =>
      let (stays, kept, hub) := floor.hub.serveOne { connection with incoming }
      { floor with
        hub
        seats := floor.seats.insert client
          ⟨kept, if stays then .inUse else .ended⟩ }
  | _ => floor

/-- A worker gives up all locks of a client that it disconnects. -/
def release (client : ClientId) (floor : Floor) : Floor :=
  match floor.seats.find? client with
  | some ⟨connection, .inUse⟩ | some ⟨connection, .ended⟩ =>
      let (locks, store) := floor.hub.store.releaseClient client
      { floor with
        hub := { floor.hub with store }
        seats := floor.seats.insert client ⟨connection, .released locks⟩ }
  | _ => floor

/-- A worker forgets a client whose locks it has given up. -/
def forget (client : ClientId) (floor : Floor) : Floor :=
  match floor.seats.find? client with
  | some ⟨_, .released locks⟩ =>
      let forgotten :=
        { floor.hub with
          registry := floor.hub.registry.unregister client }.closeOutbox client
      { floor with
        hub := if 0 < locks then forgotten.fireLockTrigger else forgotten
        seats := floor.seats.erase client }
  | _ => floor

/-- The writer of a client's socket fails. -/
def closeOutbox (client : ClientId) (floor : Floor) : Floor :=
  { floor with hub := floor.hub.closeOutbox client }

/-- The writer of a client's socket takes a response. -/
def write (client : ClientId) (floor : Floor) : Floor :=
  { floor with
    hub := { floor.hub with
      outboxes := floor.hub.outboxes.modify client fun outbox =>
        { queue := outbox.queue.popDraining.2 } } }

/-- The lock manager takes its next step. -/
def manage (floor : Floor) : Floor :=
  match floor.manager with
  | .waiting =>
      { floor with
        hub := { floor.hub with lockTrigger := false }
        manager := .granting }
  | .granting =>
      let (grants, store) := floor.hub.store.grantWaiting
      { floor with
        hub := { floor.hub with store }
        manager := if grants.isEmpty then .waiting else .telling grants 0 }
  | .telling [] undelivered =>
      { floor with
        manager := if undelivered = 0 then .waiting else .granting }
  | .telling (grant :: others) undelivered =>
      match floor.hub.send grant.client
          { status := .success, path := grant.path } with
      | (.ok _, hub) =>
          { floor with hub, manager := .telling others undelivered }
      | (.error _, hub) =>
          { floor with hub, manager := .undoing grant others undelivered }
  | .undoing grant others undelivered =>
      { floor with
        hub := { floor.hub with
          store := (floor.hub.store.unlock grant.path grant.client).2 }
        manager := .telling others (undelivered + 1) }

end Floor

inductive Move
  | accept
  | serve (client : ClientId) (incoming : Source)
  | release (client : ClientId)
  | forget (client : ClientId)
  | closeOutbox (client : ClientId)
  | write (client : ClientId)
  | manage

/-- A move of the server in which a client is disconnected all at once. -/
inductive Turn
  | accept
  | serve (client : ClientId) (incoming : Source)
  | disconnect (client : ClientId)
  | closeOutbox (client : ClientId)
  | write (client : ClientId)
  | manage

/-- The moves that a turn is made of. -/
def Turn.moves : Turn → List Move
  | accept => [.accept]
  | serve client incoming => [.serve client incoming]
  | disconnect client => [.release client, .forget client]
  | closeOutbox client => [.closeOutbox client]
  | write client => [.write client]
  | manage => [.manage]

namespace Floor

def move (floor : Floor) : Move → Floor
  | .accept => floor.accept
  | .serve client incoming => floor.serve client incoming
  | .release client => floor.release client
  | .forget client => floor.forget client
  | .closeOutbox client => floor.closeOutbox client
  | .write client => floor.write client
  | .manage => floor.manage

def run : List Move → Floor → Floor
  | [], floor => floor
  | move :: later, floor => run later (floor.move move)

theorem run_append (first second : List Move) (floor : Floor) :
    floor.run (first ++ second) = (floor.run first).run second := by
  induction first generalizing floor with
  | nil => rfl
  | cons move later ih => exact ih (floor.move move)

/-- Two clients open their sessions, the first one creates a file under its
lock, and the second one waits for the lock. -/
def contest : List Turn :=
  let sends (client : ClientId) (request : Request) : Turn :=
    .serve client (.ofBytes request.frame)
  [.accept, sends 1 { operation := .openConnection },
    .accept, sends 2 { operation := .openConnection },
    sends 1 (.openFile "f" { create := true, lock := true }),
    sends 2 (.openFile "f" { lock := true })]

/-- What every move preserves holds after a run. -/
theorem run_preserves {invariant : Floor → Prop}
    (step : ∀ floor move, invariant floor → invariant (floor.move move))
    (moves : List Move) {floor : Floor} (start : invariant floor) :
    invariant (floor.run moves) := by
  induction moves generalizing floor with
  | nil => exact start
  | cons move later ih => exact ih (step floor move start)

section Write

variable (floor : Floor) (client other : ClientId)

theorem queued_write :
    (floor.write client).hub.queued other =
      if other = client then (floor.hub.queued other).tail
      else floor.hub.queued other := by
  simp only [write, Hub.queued, Hub.outbox?, Index.find?_modify]
  by_cases same : other = client
  · rw [if_pos same, if_pos same]
    cases floor.hub.outboxes.find? other with
    | none => rfl
    | some outbox =>
        rcases outbox with ⟨_ | ⟨response, later⟩, closed⟩ <;> rfl
  · rw [if_neg same, if_neg same]

theorem outboxClosed?_write :
    (floor.write client).hub.outboxClosed? other =
      floor.hub.outboxClosed? other := by
  simp only [write, Hub.outboxClosed?, Hub.outbox?, Index.find?_modify]
  by_cases same : other = client
  · rw [if_pos same]
    cases floor.hub.outboxes.find? other with
    | none => rfl
    | some outbox =>
        rcases outbox with ⟨_ | ⟨response, later⟩, closed⟩ <;> rfl
  · rw [if_neg same]

end Write

section Telling

variable {floor : Floor} {grant : LockGrant} {others : List LockGrant}
  {undelivered : Nat} {hub : Hub}
  (telling : floor.manager = .telling (grant :: others) undelivered)

include telling

theorem manage_told
    (sent : floor.hub.send grant.client (Hub.grantNotice grant.path) =
      (.ok (), hub)) :
    floor.manage =
      { floor with hub, manager := .telling others undelivered } := by
  unfold Hub.grantNotice at sent
  simp only [manage, telling, sent]

theorem manage_untold {error : Error}
    (failed : floor.hub.send grant.client (Hub.grantNotice grant.path) =
      (.error error, hub)) :
    floor.manage =
      { floor with hub, manager := .undoing grant others undelivered } := by
  unfold Hub.grantNotice at failed
  simp only [manage, telling, failed]

end Telling

section Cases

variable (client : ClientId) (floor : Floor)

theorem serve_cases (incoming : Source) :
    floor.serve client incoming = floor ∨
    ∃ connection, floor.seats.find? client = some ⟨connection, .inUse⟩ ∧
      floor.serve client incoming =
        { floor with
          hub := (floor.hub.serveOne { connection with incoming }).2.2
          seats := floor.seats.insert client
            ⟨(floor.hub.serveOne { connection with incoming }).2.1,
              if (floor.hub.serveOne { connection with incoming }).1 then
                .inUse
              else
                .ended⟩ } := by
  unfold serve
  split
  · rename_i connection seated
    exact Or.inr ⟨connection, seated, rfl⟩
  · exact Or.inl rfl

theorem release_cases :
    floor.release client = floor ∨
    ∃ connection stage, floor.seats.find? client = some ⟨connection, stage⟩ ∧
      (∀ locks, stage ≠ .released locks) ∧
      floor.release client =
        { floor with
          hub := { floor.hub with
            store := (floor.hub.store.releaseClient client).2 }
          seats := floor.seats.insert client
            ⟨connection,
              .released (floor.hub.store.releaseClient client).1⟩ } := by
  unfold release
  split
  · rename_i connection seated
    exact Or.inr ⟨connection, .inUse, seated, by simp, rfl⟩
  · rename_i connection seated
    exact Or.inr ⟨connection, .ended, seated, by simp, rfl⟩
  · exact Or.inl rfl

theorem forget_cases :
    floor.forget client = floor ∨
    ∃ connection locks,
      floor.seats.find? client = some ⟨connection, .released locks⟩ ∧
      floor.forget client =
        { floor with
          hub :=
            if 0 < locks then
              ({ floor.hub with
                registry :=
                  floor.hub.registry.unregister client }.closeOutbox
                    client).fireLockTrigger
            else
              { floor.hub with
                registry :=
                  floor.hub.registry.unregister client }.closeOutbox client
          seats := floor.seats.erase client } := by
  unfold forget
  split
  · rename_i connection locks seated
    exact Or.inr ⟨connection, locks, seated, rfl⟩
  · exact Or.inl rfl

/-- A step of the lock manager carries out at most one operation on the
store, on locks only, by which nobody takes a lock or queues for it but those
who waited. -/
theorem manage_cases :
    ∃ hub manager, floor.manage = { floor with hub, manager } ∧
      hub.registry = floor.hub.registry ∧
      (∀ client, hub.outboxClosed? client =
        floor.hub.outboxClosed? client) ∧
      (hub.store = floor.hub.store ∨
        ∃ operation, operation.seeker? = none ∧
          operation.onlyLocks = true ∧
          hub.store = (floor.hub.store.perform operation).2) := by
  cases phase : floor.manager with
  | waiting =>
      simp only [manage, phase]
      exact ⟨_, _, rfl, rfl, fun _ => rfl, Or.inl rfl⟩
  | granting =>
      simp only [manage, phase]
      exact ⟨_, _, rfl, rfl, fun _ => rfl,
        Or.inr ⟨.grantWaiting, rfl, rfl, rfl⟩⟩
  | undoing grant others undelivered =>
      simp only [manage, phase]
      exact ⟨_, _, rfl, rfl, fun _ => rfl,
        Or.inr ⟨.unlock grant.path grant.client, rfl, rfl, rfl⟩⟩
  | telling grants undelivered =>
      cases grants with
      | nil =>
          simp only [manage, phase]
          exact ⟨_, _, rfl, rfl, fun _ => rfl, Or.inl rfl⟩
      | cons grant others =>
          rcases floor.hub.send_cases grant.client
              (Hub.grantNotice grant.path) with
            ⟨hub, sent, -, extended⟩ | ⟨error, hub, failed, extended⟩
          · exact ⟨hub, _, manage_told phase sent, extended.registry,
              extended.outboxClosed?, Or.inl extended.store⟩
          · exact ⟨hub, _, manage_untold phase failed, extended.registry,
              extended.outboxClosed?, Or.inl extended.store⟩

end Cases

theorem release_of_unreleased {floor : Floor} {client : ClientId}
    {connection : Connection} {stage : Stage}
    (seated : floor.seats.find? client = some ⟨connection, stage⟩)
    (unreleased : ∀ locks, stage ≠ .released locks) :
    floor.release client =
      { floor with
        hub := { floor.hub with
          store := (floor.hub.store.releaseClient client).2 }
        seats := floor.seats.insert client
          ⟨connection,
            .released (floor.hub.store.releaseClient client).1⟩ } := by
  cases stage with
  | inUse => simp only [release, seated]
  | ended => simp only [release, seated]
  | released locks => exact absurd rfl (unreleased locks)

theorem release_of_released {floor : Floor} {client : ClientId}
    (released : ∀ connection stage,
      floor.seats.find? client = some ⟨connection, stage⟩ →
        ∃ locks, stage = .released locks) :
    floor.release client = floor := by
  rcases floor.release_cases client with
    same | ⟨connection, stage, seated, unreleased, -⟩
  · exact same
  · obtain ⟨locks, gaveUp⟩ := released connection stage seated
    exact absurd gaveUp (unreleased locks)

theorem forget_of_unreleased {floor : Floor} {client : ClientId}
    (unreleased : ∀ connection locks,
      floor.seats.find? client ≠ some ⟨connection, .released locks⟩) :
    floor.forget client = floor := by
  rcases floor.forget_cases client with
    same | ⟨connection, locks, seated, -⟩
  · exact same
  · exact absurd seated (unreleased connection locks)

/-- The two moves of a worker that disconnects a client come to
`Hub.disconnect`. -/
theorem forget_release {floor : Floor} {client : ClientId} {seat : Seat}
    (seated : floor.seats.find? client = some seat)
    (unreleased : ∀ locks, seat.stage ≠ .released locks) :
    (floor.release client).forget client =
      { floor with
        hub := floor.hub.disconnect client
        seats := floor.seats.erase client } := by
  rcases seat with ⟨connection, stage⟩
  have present : (floor.seats.insert client
      ⟨connection, .released (floor.hub.store.releaseClient client).1⟩).find?
        client = some ⟨connection,
          .released (floor.hub.store.releaseClient client).1⟩ := by
    rw [Index.find?_insert, if_pos rfl]
  rw [release_of_unreleased seated unreleased, forget]
  simp only [present]
  rw [floor.seats.insert_eq_modify _ seated, Index.erase_modify]
  rfl

/-- The lock manager gets from one state to another by moves of its own. -/
def ManagesTo (floor after : Floor) : Prop :=
  ∃ steps, floor.run (List.replicate steps .manage) = after

namespace ManagesTo

theorem refl (floor : Floor) : floor.ManagesTo floor :=
  ⟨0, rfl⟩

theorem step {floor after : Floor} (later : floor.manage.ManagesTo after) :
    floor.ManagesTo after := by
  obtain ⟨steps, goes⟩ := later
  exact ⟨steps + 1, goes⟩

theorem trans {first second third : Floor} (earlier : first.ManagesTo second)
    (later : second.ManagesTo third) : first.ManagesTo third := by
  obtain ⟨before, rfl⟩ := earlier
  obtain ⟨behind, rfl⟩ := later
  refine ⟨before + behind, ?_⟩
  rw [← List.replicate_append_replicate, run_append]

end ManagesTo

/-- Undisturbed, the lock manager tells the clients of a round as
`Hub.deliverAll` does. -/
theorem managesTo_telling (grants : List LockGrant) (floor : Floor)
    (undelivered : Nat) :
    ManagesTo { floor with manager := .telling grants undelivered }
      { floor with
        hub := (floor.hub.deliverAll grants).2
        manager := .telling []
          (undelivered + (floor.hub.deliverAll grants).1.undelivered) } := by
  induction grants generalizing floor undelivered with
  | nil => exact .refl _
  | cons grant others ih =>
      rcases sent : floor.hub.send grant.client
          (Hub.grantNotice grant.path) with ⟨error | done, next⟩
      · have delivered := Hub.deliver_of_failed sent
        have goes : manage { floor with
            manager := .telling (grant :: others) undelivered } = _ :=
          manage_untold rfl sent
        apply ManagesTo.step
        rw [goes]
        apply ManagesTo.step
        have later := ih { floor with hub := (floor.hub.deliver grant).2 }
          (undelivered + 1)
        simp only [delivered] at later
        simp only [Hub.deliverAll, delivered]
        rw [Nat.add_right_comm, Nat.add_assoc] at later
        exact later
      · have delivered := Hub.deliver_of_sent sent
        have goes : manage { floor with
            manager := .telling (grant :: others) undelivered } = _ :=
          manage_told rfl sent
        apply ManagesTo.step
        rw [goes]
        have later := ih { floor with hub := (floor.hub.deliver grant).2 }
          undelivered
        simp only [delivered] at later
        simp only [Hub.deliverAll, delivered]
        exact later

theorem managesTo_round (floor : Floor) (hub : Hub) :
    ManagesTo { floor with hub, manager := .granting }
      { floor with
        hub := hub.round.2
        manager :=
          if hub.round.1.undelivered = 0 then .waiting else .granting } := by
  apply ManagesTo.step
  cases grants : hub.store.grantWaiting.1 with
  | nil =>
      simp only [manage, grants, List.isEmpty_nil, if_true, Hub.round,
        Hub.deliverAll]
      exact .refl _
  | cons grant others =>
      have goes : { floor with hub, manager := .granting }.manage =
          { floor with
            hub := { hub with store := hub.store.grantWaiting.2 }
            manager := .telling (grant :: others) 0 } := by
        simp only [manage, grants, List.isEmpty_cons, Bool.false_eq_true,
          if_false]
      have telling := managesTo_telling (grant :: others)
        { floor with hub := { hub with store := hub.store.grantWaiting.2 } } 0
      rw [goes]
      refine telling.trans (ManagesTo.step ?_)
      rw [Nat.zero_add]
      simp only [manage, Hub.round, grants]
      exact .refl _

/-- Undisturbed, a run of the lock manager comes to `Hub.grantAll`. -/
theorem managesTo_grantAll (floor : Floor) (hub : Hub) :
    ManagesTo { floor with hub, manager := .granting }
      { floor with hub := hub.grantAll.2, manager := .waiting } := by
  induction hub using Hub.offers.induct with
  | case1 hub told =>
      have round := managesTo_round floor hub
      rw [if_pos told] at round
      rw [Hub.grantAll_eq, if_pos told]
      exact round
  | case2 hub untold ih =>
      have round := managesTo_round floor hub
      rw [if_neg untold] at round
      rw [Hub.grantAll_eq, if_neg untold]
      exact round.trans ih

end Floor

end FileDepot
