import FileDepot.Proofs.Server.Floor
import FileDepot.Proofs.Server.Serving
import FileDepot.Server

/-!
# The whole house

The reception, the workers, the writers of the sockets and the lock manager at
work together, one step at a time and in any order.  The reception accepts
connections, queues those with input, takes back one returned connection at a
time and acts on requests to stop.  A worker pops a connection, serves one
request, and gives the connection back; or it gives up the locks of the
client, forgets the client, and reports it gone.  There may be any number of
workers.

The house keeps record of the connections that were accepted and of those that
the reception knows to be closed.  No step depends on these records.  Once the
reception has closed, nothing is followed any further; a reception that fails
to watch its sockets ends like one that is stopped at once.

Steps that nobody else disturbs come to those of `RunningServer`.
-/

namespace FileDepot

/-- How far a worker has come with a connection. -/
inductive Handling
  /-- A request of it is to be served. -/
  | taken
  /-- It was served and is to be given back. -/
  | kept
  /-- It was served for the last time. -/
  | ended
  /-- Its client has given up the locks that it held, so many of them. -/
  | released (locks : Nat)
  /-- Its client is forgotten, and is to be reported gone. -/
  | forgotten
  deriving DecidableEq, Repr

/-- A connection in the hands of a worker. -/
structure Charge where
  connection : Connection
  handling : Handling := .taken
  deriving DecidableEq

/-- Where an accepted connection can be. -/
inductive Custody
  | idle
  | queued
  | held (worker : Nat) (handling : Handling)
  /-- On its way back to the reception, still open or closed. -/
  | returning (stays : Bool)
  /-- The reception knows that it was closed. -/
  | drained
  deriving DecidableEq, Repr

namespace Custody

/-- The locks of the client have not been given up. -/
def keepsLocks : Custody → Bool
  | held _ (.released _) | held _ .forgotten | returning false | drained =>
      false
  | _ => true

/-- The client has not been forgotten. -/
def isKnown : Custody → Bool
  | held _ .forgotten | returning false | drained => false
  | _ => true

end Custody

def Returned.custody : Returned → ClientId × Custody
  | rearm connection => (connection.client, .returning true)
  | closed client => (client, .returning false)

structure House where
  hub : Hub
  manager : ManagerPhase := .waiting
  reception : Reception := {}
  /-- The workers that have a connection in hand. -/
  workers : Index Nat Charge := .empty
  /-- The connections that were accepted, in that order. -/
  accepted : List ClientId := []
  /-- The connections that the reception knows to be closed. -/
  drained : List ClientId := []
  /-- How the reception has closed, if it has. -/
  exit : Option ShutdownMode := none

/-- A step of somebody in the house. -/
inductive Activity
  | accept
  /-- A connection is let in but cannot be set up. -/
  | failSetUp
  | handOff (client : ClientId)
  | takeBack
  | react
  | requestShutdown (mode : ShutdownMode)
  /-- A worker takes its next step.  If it reads, this has arrived as well. -/
  | work (worker : Nat) (incoming : Source)
  | closeOutbox (client : ClientId)
  | write (client : ClientId)
  | manage

namespace House

/-- A house that nobody has connected to. -/
def new (limits : Limits) : House where
  hub := .new limits

/-- Where every accepted connection is. -/
def whereabouts (house : House) : List (ClientId × Custody) :=
  house.reception.idle.entries.map (fun entry => (entry.2.client, .idle)) ++
    house.reception.queue.items.map
      (fun connection => (connection.client, .queued)) ++
    house.workers.entries.map (fun entry =>
      (entry.2.connection.client, .held entry.1 entry.2.handling)) ++
    house.reception.returns.map Returned.custody ++
    house.drained.map fun client => (client, .drained)

def accept (house : House) : House :=
  match house.reception.accept with
  | (none, reception) => { house with reception }
  | (some client, reception) =>
      { house with
        reception
        hub := house.hub.openOutbox client
        accepted := house.accepted ++ [client] }

/-- The number of a connection that cannot be set up is not used again. -/
def failSetUp (house : House) : House :=
  if house.reception.accepting then
    { house with reception := { house.reception with
        nextClient := house.reception.nextClient + 1 } }
  else
    house

/-- The reception queues a connection on which something has arrived. -/
def handOff (client : ClientId) (house : House) : House :=
  { house with reception := house.reception.handOff client }

/-- The reception takes back the first connection that was returned. -/
def takeBack (house : House) : House :=
  match house.reception.returns with
  | [] => house
  | returned :: returns =>
      { house with
        reception := { house.reception with returns }.takeBack returned
        drained :=
          match returned with
          | .rearm _ => house.drained
          | .closed client => house.drained ++ [client] }

/-- The reception acts on a request to stop, and may close for good. -/
def react (house : House) : House :=
  let (finished, reception) := house.reception.react
  if finished then
    { house with reception := reception.close, exit := reception.shutdown }
  else
    { house with reception }

def requestShutdown (mode : ShutdownMode) (house : House) : House :=
  { house with reception := house.reception.requestShutdown mode }

/-- A worker pops a connection from the queue, if one is there. -/
def pop (worker : Nat) (house : House) : House :=
  match house.reception.queue.pop with
  | (.item connection, queue) =>
      { house with
        reception := { house.reception with queue }
        workers := house.workers.insert worker { connection } }
  | _ => house

/-- A worker reads and answers one request of the connection in its hands. -/
def serve (worker : Nat) (connection : Connection) (house : House) : House :=
  let (stays, kept, hub) := house.hub.serveOne connection
  { house with
    hub
    workers := house.workers.insert worker
      ⟨kept, if stays then .kept else .ended⟩ }

/-- A worker gives up all locks of the client in its hands. -/
def release (worker : Nat) (connection : Connection) (house : House) :
    House :=
  let (locks, store) := house.hub.store.releaseClient connection.client
  { house with
    hub := { house.hub with store }
    workers := house.workers.insert worker ⟨connection, .released locks⟩ }

/-- A worker forgets a client that has given up so many locks. -/
def forget (worker : Nat) (connection : Connection) (locks : Nat)
    (house : House) : House :=
  let forgotten :=
    { house.hub with
      registry := house.hub.registry.unregister connection.client }.closeOutbox
        connection.client
  { house with
    hub := if 0 < locks then forgotten.fireLockTrigger else forgotten
    workers := house.workers.insert worker ⟨connection, .forgotten⟩ }

/-- A worker gives back what it had in its hands. -/
def giveBack (worker : Nat) (returned : Returned) (house : House) : House :=
  { house with
    reception := { house.reception with
      returns := house.reception.returns ++ [returned] }
    workers := house.workers.erase worker }

/-- A worker takes its next step. -/
def work (worker : Nat) (incoming : Source) (house : House) : House :=
  match house.workers.find? worker with
  | none => house.pop worker
  | some ⟨connection, .taken⟩ =>
      house.serve worker
        { connection with incoming := connection.incoming ++ incoming }
  | some ⟨connection, .kept⟩ => house.giveBack worker (.rearm connection)
  | some ⟨connection, .ended⟩ => house.release worker connection
  | some ⟨connection, .released locks⟩ =>
      house.forget worker connection locks
  | some ⟨connection, .forgotten⟩ =>
      house.giveBack worker (.closed connection.client)

/-- What the writers and the lock manager see of the house. -/
def floor (house : House) : Floor where
  hub := house.hub
  manager := house.manager

def withFloor (house : House) (floor : Floor) : House :=
  { house with hub := floor.hub, manager := floor.manager }

/-- A step in the house.  What comes behind the closing of the reception is
not followed. -/
def step (house : House) (activity : Activity) : House :=
  if house.exit.isSome then
    house
  else
    match activity with
    | .accept => house.accept
    | .failSetUp => house.failSetUp
    | .handOff client => house.handOff client
    | .takeBack => house.takeBack
    | .react => house.react
    | .requestShutdown mode => house.requestShutdown mode
    | .work worker incoming => house.work worker incoming
    | .closeOutbox client => house.withFloor (house.floor.closeOutbox client)
    | .write client => house.withFloor (house.floor.write client)
    | .manage => house.withFloor house.floor.manage

def run : List Activity → House → House
  | [], house => house
  | activity :: later, house => run later (house.step activity)

theorem run_append (first second : List Activity) (house : House) :
    house.run (first ++ second) = (house.run first).run second := by
  induction first generalizing house with
  | nil => rfl
  | cons activity later ih => exact ih (house.step activity)

theorem run_preserves {invariant : House → Prop}
    (step : ∀ house activity, invariant house →
      invariant (house.step activity))
    (activities : List Activity) {house : House} (start : invariant house) :
    invariant (house.run activities) := by
  induction activities generalizing house with
  | nil => exact start
  | cons activity later ih => exact ih (step house activity start)

section Cases

variable (house : House)

theorem accept_cases :
    house.reception.accepting = false ∧ house.accept = house ∨
    house.reception.accepting = true ∧ house.accept =
      { house with
        reception := { house.reception with
          idle := house.reception.idle.insert house.reception.nextClient
            { client := house.reception.nextClient }
          live := house.reception.live + 1
          nextClient := house.reception.nextClient + 1 }
        hub := house.hub.openOutbox house.reception.nextClient
        accepted := house.accepted ++ [house.reception.nextClient] } := by
  cases accepting : house.reception.accepting with
  | false => simp [accept, Reception.accept, accepting]
  | true => simp [accept, Reception.accept, accepting]

theorem handOff_cases (client : ClientId) :
    house.handOff client = house ∨
    ∃ connection, house.reception.idle.find? client = some connection ∧
      (house.reception.queue.closed = false ∧ house.handOff client =
          { house with reception := { house.reception with
              idle := house.reception.idle.erase client
              queue := { house.reception.queue with
                items := house.reception.queue.items ++ [connection] } } } ∨
        house.reception.queue.closed = true ∧ house.handOff client =
          { house with reception := { house.reception with
              idle := house.reception.idle.erase client
              live := house.reception.live - 1 } }) := by
  cases found : house.reception.idle.find? client with
  | none =>
      left
      simp only [handOff, Reception.handOff, found]
  | some connection =>
      refine Or.inr ⟨connection, rfl, ?_⟩
      cases closed : house.reception.queue.closed with
      | false =>
          simp [handOff, Reception.handOff, found, HandoffQueue.push, closed]
      | true =>
          simp [handOff, Reception.handOff, found, HandoffQueue.push, closed]

theorem takeBack_cases :
    house.reception.returns = [] ∧ house.takeBack = house ∨
    (∃ connection returns,
      house.reception.returns = .rearm connection :: returns ∧
      house.takeBack =
        { house with reception := { house.reception with
            returns
            idle := house.reception.idle.insert connection.client
              connection } }) ∨
    ∃ client returns, house.reception.returns = .closed client :: returns ∧
      house.takeBack =
        { house with
          reception := { house.reception with
            returns, live := house.reception.live - 1 }
          drained := house.drained ++ [client] } := by
  cases first : house.reception.returns with
  | nil =>
      refine Or.inl ⟨rfl, ?_⟩
      simp only [takeBack, first]
  | cons returned returns =>
      right
      cases returned with
      | rearm connection =>
          refine Or.inl ⟨connection, returns, rfl, ?_⟩
          simp only [takeBack, first, Reception.takeBack]
      | closed client =>
          refine Or.inr ⟨client, returns, rfl, ?_⟩
          simp only [takeBack, first, Reception.takeBack]

theorem react_cases :
    house.reception.shutdown = none ∧ house.react = house ∨
    house.react =
      { house with
        reception := house.reception.close, exit := some .immediate } ∨
    house.reception.live = 0 ∧ house.react =
      { house with
        reception := { house.reception with accepting := false }.close
        exit := some .graceful } ∨
    house.react =
      { house with
        reception := { house.reception with accepting := false } } := by
  cases asked : house.reception.shutdown with
  | none => simp [react, Reception.react, asked]
  | some mode =>
      cases mode with
      | immediate => simp [react, Reception.react, asked]
      | graceful =>
          by_cases none : house.reception.live = 0
          · simp [react, Reception.react, asked, none]
          · simp [react, Reception.react, asked, none]

theorem pop_cases (worker : Nat) :
    house.pop worker = house ∨
    ∃ connection items, house.reception.queue.closed = false ∧
      house.reception.queue.items = connection :: items ∧
      house.pop worker =
        { house with
          reception := { house.reception with
            queue := { house.reception.queue with items } }
          workers := house.workers.insert worker { connection } } := by
  cases closed : house.reception.queue.closed with
  | true => simp [pop, HandoffQueue.pop, closed]
  | false =>
      cases first : house.reception.queue.items with
      | nil => simp [pop, HandoffQueue.pop, closed, first]
      | cons connection items =>
          refine Or.inr ⟨connection, items, rfl, rfl, ?_⟩
          simp [pop, HandoffQueue.pop, closed, first]

/-- What forgetting a client makes of the hub, but for the trigger. -/
theorem hub_forget (worker : Nat) (connection : Connection) (locks : Nat) :
    (house.forget worker connection locks).hub.store = house.hub.store ∧
      (house.forget worker connection locks).hub.registry =
        house.hub.registry.unregister connection.client ∧
      (house.forget worker connection locks).hub.outboxes =
        (house.hub.closeOutbox connection.client).outboxes := by
  unfold forget
  split
  · exact ⟨rfl, rfl, rfl⟩
  · exact ⟨rfl, rfl, rfl⟩

end Cases

section Server

/-- The server that the house makes up for its clients. -/
def server (house : House) : RunningServer where
  hub := house.hub
  reception := house.reception
  finished := house.exit.isSome

variable {house : House} (running : house.exit = none)

include running

theorem step_work (worker : Nat) (incoming : Source) :
    house.step (.work worker incoming) = house.work worker incoming := by
  simp [step, running]

theorem server_connect :
    (house.step .accept).server = house.server.connect.2 := by
  simp only [step, running, Option.isSome_none, Bool.false_eq_true, if_false]
  cases accepting : house.reception.accepting with
  | false =>
      simp [accept, RunningServer.connect, Reception.accept, server, accepting]
  | true =>
      simp [accept, RunningServer.connect, Reception.accept, server, accepting]

/-- Undisturbed, a worker that has popped a connection does what `Hub.work`
does. -/
theorem run_work {worker : Nat} {connection : Connection}
    (holds : house.workers.find? worker = some { connection }) :
    ∃ steps workers, workers.find? worker = none ∧
      house.run (List.replicate steps (.work worker [])) =
        { house with
          hub := (house.hub.work connection).2
          reception := { house.reception with
            returns := house.reception.returns ++
              [(house.hub.work connection).1] }
          workers } := by
  rcases served : house.hub.serveOne connection with ⟨stays, kept, hub⟩
  have again (workers : Index Nat Charge) (charge : Charge) :
      (workers.insert worker charge).find? worker = some charge := by
    rw [Index.find?_insert, if_pos rfl]
  have free (workers : Index Nat Charge) :
      (workers.erase worker).find? worker = none := by
    rw [Index.find?_erase, if_pos rfl]
  have name := house.hub.client_serveOne connection
  rw [served] at name
  dsimp only at name
  have serves : house.step (.work worker []) =
      { house with
        hub
        workers := house.workers.insert worker
          ⟨kept, if stays then .kept else .ended⟩ } := by
    rw [step_work running]
    simp [work, holds, serve, served]
  cases stays with
  | true =>
      refine ⟨2, _, free (house.workers.insert worker ⟨kept, .kept⟩), ?_⟩
      simp only [List.replicate, run, serves, if_true]
      simp only [step, running, Option.isSome_none, Bool.false_eq_true,
        if_false, work, again, giveBack, Hub.work, served]
  | false =>
      refine ⟨4, _, free (((house.workers.insert worker
        ⟨kept, .ended⟩).insert worker
        ⟨kept, .released (hub.store.releaseClient kept.client).1⟩).insert worker
        ⟨kept, .forgotten⟩), ?_⟩
      simp only [List.replicate, run, serves, Bool.false_eq_true, if_false]
      simp only [step, running, Option.isSome_none, Bool.false_eq_true,
        if_false, work, again, release, forget, giveBack, Hub.work, served,
        Hub.disconnect, name]

/-- A worker that gets through with a connection undisturbed does what
`RunningServer.workOnce` does. -/
theorem server_workOnce {worker : Nat}
    (free : house.workers.find? worker = none) :
    ∃ steps, (house.run (List.replicate steps (.work worker []))).server =
      house.server.workOnce := by
  rcases popped : house.reception.queue.pop with ⟨_ | _ | _, queue⟩
  case item connection =>
    have goes : house.step (.work worker []) =
        { house with
          reception := { house.reception with queue }
          workers := house.workers.insert worker { connection } } := by
      rw [step_work running]
      simp only [work, free, pop, popped]
    have holds : (house.step (.work worker [])).workers.find? worker =
        some { connection } := by
      rw [goes, Index.find?_insert, if_pos rfl]
    have still : (house.step (.work worker [])).exit = none := by
      rw [goes]
      exact running
    obtain ⟨steps, workers, -, works⟩ := run_work still holds
    refine ⟨steps + 1, ?_⟩
    rw [List.replicate_succ, run, works, goes]
    simp only [server, RunningServer.workOnce, popped]
  all_goals
    refine ⟨0, ?_⟩
    simp only [List.replicate, run, RunningServer.workOnce, server, popped]

omit running in
theorem run_takeBack (returns : List Returned) {house : House}
    (running : house.exit = none)
    (waiting : house.reception.returns = returns) :
    ∃ drained, house.run (List.replicate returns.length .takeBack) =
      { house with reception := house.reception.drainReturns, drained } := by
  induction returns generalizing house with
  | nil =>
      have same : house.reception.drainReturns = house.reception := by
        rw [Reception.drainReturns, waiting, List.foldl_nil, ← waiting]
      refine ⟨house.drained, ?_⟩
      rw [same]
      rfl
  | cons returned later ih =>
      have goes : house.step .takeBack = house.takeBack := by
        simp [step, running]
      rcases house.takeBack_cases with
        ⟨none, -⟩ | ⟨connection, returns, first, takes⟩ |
          ⟨client, returns, first, takes⟩
      · rw [waiting] at none
        cases none
      all_goals
        rw [waiting] at first
        obtain ⟨rfl, rfl⟩ := List.cons.inj first
        rw [takes] at goes
        have still : (house.step .takeBack).exit = none := by
          rw [goes]
          exact running
        obtain ⟨drained, drains⟩ := ih still (by rw [goes])
        refine ⟨drained, ?_⟩
        rw [List.length_cons, List.replicate_succ, run, drains, goes]
        simp [Reception.drainReturns, Reception.takeBack, waiting]

/-- The reception takes back everything and then acts on requests to stop, as
`RunningServer.attend` does. -/
theorem server_attend :
    ∃ steps, (house.run (List.replicate steps .takeBack ++ [.react])).server =
      house.server.attend := by
  obtain ⟨drained, drains⟩ := run_takeBack house.reception.returns running rfl
  refine ⟨house.reception.returns.length, ?_⟩
  rw [run_append, drains]
  rcases asked : house.reception.drainReturns.react with ⟨finished, reception⟩
  have closes : finished = true → reception.shutdown.isSome = true := by
    unfold Reception.react at asked
    split at asked <;> cases asked <;> simp_all
  simp only [run, step, running, Option.isSome_none, Bool.false_eq_true,
    if_false, react, server, RunningServer.attend, asked, Bool.false_or]
  cases finished with
  | false => rfl
  | true => simp [closes]

end Server

end House

end FileDepot
