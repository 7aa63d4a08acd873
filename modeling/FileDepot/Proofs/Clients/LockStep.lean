import FileDepot.Proofs.Clients.Orderly

/-!
# Clients and server keep step

A worker that serves the request of a call leaves every client in step: the
one that asked has its reply on the way, and any other one loses at most the
file that it waits for.  So whatever a client reads in any run belongs to its
call.
-/

namespace FileDepot

namespace Hall

/-- A worker has served the request that a client sent for its call. -/
structure Served (before : Hall) (client : ClientId) (call : Call)
    (request : Request) (connection kept : Connection) (stays : Bool)
    (hub : Hub) (after : Hall) : Prop where
  asks : call.request? = some request
  blocks : call.blocks = true
  sendable : request.Sendable
  allRead : before.unread client = []
  free : ∀ path, ¬ before.Awaits client path
  nothingDue : before.due client = []
  seated : before.floor.seats.find? client = some ⟨connection, .inUse⟩
  named : connection.client = client
  isOpen : before.floor.hub.outboxClosed? client = some false
  serves : before.floor.hub.serveOne (connection.receiving request) =
    (stays, kept, hub)
  attended : after.floor.Attended
  goes : after =
    { before with
      floor := { before.floor with
        hub
        seats := before.floor.seats.insert client
          ⟨kept, if stays then .inUse else .ended⟩ }
      callers := Function.update before.callers client
        { call? := some (call, call.start)
          replied :=
            before.floor.hub.answers (connection.receiving request) } }

namespace Served

variable {hall after : Hall} {client : ClientId} {call : Call}
  {request : Request} {connection kept : Connection} {stays : Bool} {hub : Hub}
  (served : hall.Served client call request connection kept stays hub after)

include served

theorem store_eq : after.floor.hub.store = hub.store := by
  rw [served.goes]

theorem due_eq {other : ClientId} : after.due other = hall.due other := by
  rw [served.goes]
  rfl

theorem caller_client :
    after.callers client =
      { call? := some (call, call.start)
        replied := hall.floor.hub.answers (connection.receiving request) } := by
  rw [served.goes]
  simp

theorem inUse_client (stay : stays = true) : after.InUse client := by
  rw [served.goes, stay]
  exact ⟨kept, by simp [Index.find?_insert]⟩

theorem unread_of_queued {other : ClientId} {added : List Response}
    (queued : hub.queued other = hall.floor.hub.queued other ++ added) :
    after.unread other = hall.unread other ++ added := by
  rw [served.goes, Hall.unread, Hall.unread, List.append_assoc]
  exact congrArg _ queued

/-- The reply is all that the served client has to read. -/
theorem unread_client (consistent : hall.floor.hub.store.Consistent) :
    after.unread client =
      hall.floor.hub.answers (connection.receiving request) := by
  have named : (connection.receiving request).client = client := served.named
  have reply := Hub.repliesTo_self served.isOpen
    (hall.floor.hub.answers (connection.receiving request))
  obtain ⟨-, effects⟩ :=
    hall.floor.hub.serveOne_cases (connection.receiving request)
  rw [served.serves, named] at effects
  rcases effects with ⟨-, queued⟩ | ⟨operation, -, -, queued⟩
  · rw [served.unread_of_queued (queued client), served.allRead, reply,
      List.nil_append]
  · have unnoticed := Hub.noticesTo_of_kept consistent operation
      fun path awaits => absurd awaits (served.free path)
    rw [served.unread_of_queued (queued client), served.allRead, reply,
      unnoticed, List.append_nil, List.nil_append]

theorem lockPath?_of_awaits (consistent : hall.floor.hub.store.Consistent)
    {path : String} (awaits : after.Awaits client path) :
    call.lockPath? = some path := by
  rw [Awaits, served.store_eq, show hub = (hall.floor.hub.serveOne
    (connection.receiving request)).2.2 by rw [served.serves]] at awaits
  rcases Hub.awaits_of_serveOne consistent served.blocks served.asks
    served.sendable awaits with earlier | ⟨-, locks⟩
  · exact absurd earlier (served.free path)
  · exact locks

theorem answered (unnamed : hall.floor.hub.store.file? "" = none) :
    call.Answered client hall.floor.hub.store
      (hall.floor.hub.answers (connection.receiving request)) hub.store
      stays := by
  have answered := Hub.answered_serveOne served.blocks served.asks
    served.sendable (served.named ▸ served.isOpen) unnamed
  rw [served.serves, served.named] at answered
  exact answered

/-- Everybody else gets at most notices of files that are gone. -/
theorem beside_cases {other : ClientId} (different : other ≠ client) :
    (after.floor.hub.store = hall.floor.hub.store ∧
      after.unread other = hall.unread other) ∨
    ∃ operation : StoreOperation, operation.client? = some client ∧
      after.floor.hub.store = (hall.floor.hub.store.perform operation).2 ∧
      after.unread other = hall.unread other ++
        hall.floor.hub.noticesTo
          (hall.floor.hub.store.perform operation).1.orphans other := by
  have named : (connection.receiving request).client = client := served.named
  have noReply := hall.floor.hub.repliesTo_other different
    (hall.floor.hub.answers (connection.receiving request))
  obtain ⟨-, effects⟩ :=
    hall.floor.hub.serveOne_cases (connection.receiving request)
  rw [served.serves, named] at effects
  rcases effects with ⟨same, queued⟩ | ⟨operation, asks, performed, queued⟩
  · have unread := served.unread_of_queued (queued other)
    rw [noReply, List.append_nil] at unread
    exact Or.inl ⟨served.store_eq.trans same, unread⟩
  · have unread := served.unread_of_queued (queued other)
    rw [noReply, List.nil_append] at unread
    exact Or.inr ⟨operation, asks, served.store_eq.trans performed, unread⟩

end Served

namespace Orderly

variable {hall : Hall} (orderly : hall.Orderly)

include orderly

/-- A worker only ever serves a client that is in step and has asked. -/
theorem serve_cases (client : ClientId) :
    hall.serve client = hall ∨
    ∃ call request connection kept stays hub,
      hall.Served client call request connection kept stays hub
        (hall.serve client) := by
  have attended : (hall.serve client).floor.Attended := by
    unfold Hall.serve
    split
    · exact orderly.attended
    · exact orderly.attended.serve client _
  cases sent : (hall.callers client).sent? with
  | none => exact Or.inl (by simp only [Hall.serve, sent])
  | some request =>
      right
      cases orderly.inStep client with
      | idle between unsent => simp [unsent] at sent
      | answered during unsent => simp [unsent] at sent
      | waiting pending => simp [pending.unsent] at sent
      | @asking call same asks blocks sendable caller inUse allRead free
          nothingDue =>
          obtain rfl : same = request := by simpa [caller] using sent
          obtain ⟨connection, seated⟩ := inUse
          have named : connection.client = client :=
            orderly.attended.named client _ seated
          have isOpen := orderly.isOpen client _ seated
          rcases served :
            hall.floor.hub.serveOne (connection.receiving same) with
            ⟨stays, kept, hub⟩
          have replied : hall.floor.replied
              (.serve client (.ofBytes same.frame)) client =
                hall.floor.hub.answers (connection.receiving same) := by
            simp only [Floor.replied, seated]
            exact Hub.repliesTo_self isOpen _
          refine ⟨call, same, connection, kept, stays, hub, asks, blocks,
            sendable, allRead, free, nothingDue, seated, named, isOpen,
            served, attended, ?_⟩
          simp only [Hall.serve, replied, caller]
          simp only [Floor.serve, seated]
          rw [Connection.receiving] at served
          rw [served]

section Served

variable {client : ClientId} {call : Call} {request : Request}
  {connection kept : Connection} {stays : Bool} {hub : Hub} {after : Hall}
  (served : hall.Served client call request connection kept stays hub after)

include served

/-- The client whose request is served has its reply on the way, and waits for
the lock that it asked for if it was told to. -/
theorem inStep_served : after.InStep client := by
  have consistent := orderly.attended.sound.consistent
  have caller := served.caller_client
  have unread := served.unread_client consistent
  have store := served.store_eq
  have nothingDue : after.due client = [] :=
    served.due_eq.trans served.nothingDue
  have answered := served.answered orderly.unnamed
  cases answered with
  | finished outcome concludes expected unchanged locked =>
      refine .answered (by rw [caller]) (by rw [caller]) (unread ▸ concludes)
        expected (by rw [caller, unread]; rfl) ?_ ?_ nothingDue
      · intro answer path returned locks
        obtain ⟨holds, stay⟩ := locked answer path returned locks
        refine ⟨served.inUse_client stay, ?_⟩
        rw [Holds, store]
        exact holds
      · intro path awaits
        cases outcome with
        | error error =>
            rw [Awaits, store, unchanged error rfl] at awaits
            exact served.free path awaits
        | ok answer =>
            have locks := served.lockPath?_of_awaits consistent awaits
            have holds := (locked answer path rfl locks).1
            rw [← store] at holds
            exact served.attended.inOrder.not_awaits_of_holds holds awaits
  | pending path answer locks leads awaits stay =>
      refine .waiting ⟨by rw [caller], by rw [caller], locks,
        served.inUse_client stay, ⟨answer, leads⟩, by rw [caller]; rfl⟩
        (by rw [unread, List.append_nil]) (.queued ?_ ?_ nothingDue)
      · rw [Awaits, store]
        exact awaits
      · intro other alsoAwaits
        have same := served.lockPath?_of_awaits consistent alsoAwaits
        rw [locks, Option.some.injEq] at same
        exact same.symm

/-- Whoever else there is loses at most a file that it waits for. -/
theorem inStep_beside_served {other : ClientId} (different : other ≠ client) :
    after.InStep other := by
  have consistent := orderly.attended.sound.consistent
  have caller : after.callers other = hall.callers other := by
    rw [served.goes]
    simp [different]
  have inUse (inUse : hall.InUse other) : after.InUse other :=
    inUse.beside different (by rw [served.goes])
  have due : after.due other = hall.due other := served.due_eq
  rcases served.beside_cases different with
    ⟨store, unread⟩ | ⟨operation, asks, store, unread⟩
  · apply (orderly.inStep other).undisturbed
    exact .of_store caller unread due store inUse
  by_cases lost : ∃ path, hall.Awaits other path ∧
      (hall.floor.hub.store.perform operation).2.file? path = none
  · -- It waits for one file only, and is told that it is gone.
    obtain ⟨path, awaits, gone⟩ := lost
    obtain ⟨itsCall, awaiting, pending, only, nothingDue⟩ :=
      (orderly.inStep other).pending_of_awaits awaits
    obtain ⟨file, found, waits⟩ := id awaits
    have able := orderly.contactable ⟨path, file, found, Or.inr waits⟩
    rw [Hub.noticesTo_of_lost consistent operation orderly.attended.inOrder
      able awaits only gone] at unread
    refine .waiting (pending.of_caller caller (inUse pending.inUse)) unread
      (.gone ?_ (due.trans nothingDue))
    rintro elsewhere ⟨kept, present, waits⟩
    rw [store] at present
    have notAsking : operation.client? ≠ some other := by
      rw [asks]
      exact fun same => different (Option.some.inj same).symm
    obtain rfl := only elsewhere (Store.awaits_before consistent operation
      notAsking ⟨kept, present, waits⟩)
    simp [gone] at present
  · have stays (path : String) (awaits : hall.Awaits other path) :
        (hall.floor.hub.store.perform operation).2.file? path ≠ none :=
      fun gone => lost ⟨path, awaits, gone⟩
    rw [Hub.noticesTo_of_kept consistent operation stays,
      List.append_nil] at unread
    apply (orderly.inStep other).undisturbed
    exact .of_perform asks different consistent caller unread due store stays
      inUse

end Served

theorem serve (client : ClientId) : (hall.serve client).Orderly := by
  rcases orderly.serve_cases client with
    same | ⟨call, request, connection, kept, stays, hub, served⟩
  · rw [same]
    exact orderly
  have inStep (other : ClientId) : (hall.serve client).InStep other := by
    by_cases same : other = client
    · subst same
      exact orderly.inStep_served served
    · exact orderly.inStep_beside_served served same
  obtain ⟨closed, -⟩ :=
    hall.floor.hub.serveOne_cases (connection.receiving request)
  have unnamed := hall.floor.hub.unnamed_serveOne
    (connection.receiving request) orderly.attended.sound.consistent
    orderly.unnamed
  rw [served.serves] at closed unnamed
  refine ⟨served.attended, ?_, ?_, ?_, inStep⟩
  · rw [served.goes]
    exact orderly.isOpen_of_insert served.seated rfl closed
  · rw [served.goes]
    exact unnamed
  · rw [served.goes]
    exact orderly.delivers

theorem move (move : HallMove) : (hall.move move).Orderly := by
  cases move with
  | accept => exact orderly.accept
  | start client call => exact orderly.start client call
  | serve client => exact orderly.serve client
  | write client => exact orderly.write client
  | read client => exact orderly.read client
  | leave client => exact orderly.leave client
  | release client => exact orderly.release client
  | forget client => exact orderly.forget client
  | manage => exact orderly.manage

end Orderly

/-- Between two calls everything sent to a client has been read, and it waits
for no lock.  What it reads during a call is the next response of the reply,
or the news of the very lock that it waits for, and a call that returns with a
lock returns to the client that holds it. -/
theorem blocking_clients_keep_in_step (limits : Limits)
    (moves : List HallMove) (client : ClientId) :
    let hall := (new limits).run moves
    ((hall.callers client).call? = none →
      hall.unread client = [] ∧ ∀ path, ¬ hall.Awaits client path) ∧
    ∀ call awaiting response later,
      (hall.callers client).call? = some (call, awaiting) →
      hall.arrived client = response :: later →
      hall.Expected client call awaiting response ∧
      (∀ reason, awaiting.receive response ≠
        .finished (.error (.invalidState reason))) ∧
      ∀ answer path, awaiting.receive response = .finished (.ok answer) →
        call.lockPath? = some path → hall.Holds client path := by
  intro hall
  have orderly : hall.Orderly :=
    run_preserves (fun _ move orderly => orderly.move move) moves
      (orderly_new limits)
  have inStep := orderly.inStep client
  constructor
  · intro idle
    obtain ⟨-, allRead, free, -⟩ := inStep.of_idle idle
    exact ⟨allRead, free⟩
  · intro call awaiting response later during arrived
    have unread : hall.unread client =
        response :: (later ++ hall.floor.hub.queued client) := by
      rw [Hall.unread, arrived, List.cons_append]
    obtain ⟨expected, comes⟩ := inStep.reading during unread
    refine ⟨expected, ?_⟩
    rcases comes with
      ⟨next, goesOn, -⟩ | ⟨outcome, finishes, sound, locked, -⟩
    · rw [goesOn]
      constructor
      · intro reason impossible
        cases impossible
      · intro answer path impossible
        cases impossible
    · rw [finishes]
      constructor
      · intro reason same
        exact sound reason (Progress.finished.inj same)
      · intro answer path same locks
        exact locked answer path (Progress.finished.inj same) locks

/-- The first client has read all that was sent to it.  The news that reaches
the second one is of the lock that it waits for, and the lock is its own. -/
theorem handed_over_lock_is_held :
    ((new {}).run handover).unread 1 = [] ∧
      ((new {}).run handover).Expected 2 (.openFile "f" { lock := true })
        (.grant "f" (.evicted [])) (Hub.grantNotice "f") ∧
      ((new {}).run handover).Holds 2 "f" := by
  have idle : (((new {}).run handover).callers 1).call? = none := by
    decide +kernel
  have during : (((new {}).run handover).callers 2).call? =
      some (.openFile "f" { lock := true }, .grant "f" (.evicted [])) := by
    decide +kernel
  have arrived : ((new {}).run handover).arrived 2 =
      [Hub.grantNotice "f"] := by
    decide +kernel
  obtain ⟨between, -⟩ := blocking_clients_keep_in_step {} handover 1
  obtain ⟨-, reading⟩ := blocking_clients_keep_in_step {} handover 2
  obtain ⟨expected, -, locked⟩ := reading _ _ _ _ during arrived
  exact ⟨(between idle).1, expected, locked (.evicted []) "f" rfl rfl⟩

end Hall

end FileDepot
