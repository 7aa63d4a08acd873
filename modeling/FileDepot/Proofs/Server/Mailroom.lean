import FileDepot.Proofs.Server.Floor
import FileDepot.Proofs.Server.Serving
import Mathlib.Logic.Function.Basic

/-!
# The mail room

The server at its finest grain.  A worker reads a request and reserves the
outbox of its client, dispatches the request, queues the responses one at a
time, gives the reservation up, and then tells one orphan after the other.
Between any two of these steps other workers, the writers of the sockets and
the lock manager may take steps of their own.  Whoever sends a client what
answers no request has to wait while its outbox is reserved, and then looks
the outbox up and queues in one step.

A connection is in the hands of one worker at most, so that workers are told
apart by the clients that they serve, and there may be as many of them.

The mail room also keeps record of what was dispatched, of the requests by
which clients came into queues, and of everything that was ever queued for a
client.  No step depends on these records.
-/

namespace FileDepot

namespace Hub

/-- What is read from a connection, and the connection behind it. -/
def readFrom (hub : Hub) (connection : Connection) :
    Except Error Request × Connection :=
  match Request.decode (bodyLimit hub.store.limits.maxBytes)
      connection.incoming with
  | .ok request rest => (.ok request, { connection with incoming := rest })
  | .error error rest => (.error error, { connection with incoming := rest })

/-- The reply to what was read from a connection, before any of it is queued,
and what the request has changed. -/
def dispatchRead (hub : Hub) (connection : Connection)
    (read : Except Error Request) : Reply × Connection × Hub :=
  match read with
  | .ok request =>
      let (reply, after) :=
        (hub.scope connection).dispatch connection.client request
      (reply, { connection with session := after.session },
        { hub with store := after.store, registry := after.registry })
  | .error .peerClosed =>
      ({ responses := [], close := true }, connection, hub)
  | .error error =>
      if Request.keepsStep error then
        (.ofError error "", connection, hub)
      else
        ({ responses := [{ status := .badRequest }], close := true },
          connection, hub)

/-- What was read is served by dispatching it and delivering the reply. -/
theorem serveRead_eq (hub : Hub) (connection : Connection)
    (read : Except Error Request) :
    hub.serveRead connection read =
      let (reply, kept, after) := hub.dispatchRead connection read
      let (stays, served) := after.deliverReply connection.client reply
      (stays, kept, served) := by
  have parting (responses : List Response) :
      hub.deliverReply connection.client { responses, close := true } =
        (false, (hub.push connection.client responses).2) := by
    simp [deliverReply_eq, notifyOrphans]
  cases read with
  | ok request => rfl
  | error error =>
      by_cases closed : error = .peerClosed
      · subst closed
        simp only [serveRead, dispatchRead, parting, push_nil]
      · cases keeps : Request.keepsStep error <;>
          cases error <;> simp_all [serveRead, dispatchRead]

theorem serveOne_eq_serveRead (hub : Hub) (connection : Connection) :
    hub.serveOne connection =
      hub.serveRead (hub.readFrom connection).2
        (hub.readFrom connection).1 := by
  cases decoded : Request.decode (bodyLimit hub.store.limits.maxBytes)
      connection.incoming with
  | ok request rest => simp only [serveOne, readFrom, decoded]
  | error error rest => simp only [serveOne, readFrom, decoded]

theorem client_readFrom (hub : Hub) (connection : Connection) :
    (hub.readFrom connection).2.client = connection.client := by
  unfold readFrom
  split <;> rfl

theorem session_readFrom (hub : Hub) (connection : Connection) :
    (hub.readFrom connection).2.session = connection.session := by
  unfold readFrom
  split <;> rfl

section DispatchRead

variable {hub after : Hub} {connection kept : Connection}
  {read : Except Error Request} {reply : Reply}
  (goes : hub.dispatchRead connection read = (reply, kept, after))

include goes

/-- Dispatching leaves alone what is no part of the scope of a request, and the
limits of the store. -/
theorem eq_of_dispatchRead :
    kept = { connection with session := kept.session } ∧
      after = { hub with store := after.store, registry := after.registry } ∧
      after.store.limits = hub.store.limits := by
  unfold dispatchRead at goes
  split at goes
  · cases goes
    exact ⟨rfl, rfl, Scope.limits_dispatch _ _ _⟩
  · cases goes
    exact ⟨rfl, rfl, rfl⟩
  · split at goes <;> cases goes <;> exact ⟨rfl, rfl, rfl⟩

theorem client_dispatchRead : kept.client = connection.client := by
  rw [(eq_of_dispatchRead goes).1]

theorem outboxClosed?_dispatchRead (client : ClientId) :
    after.outboxClosed? client = hub.outboxClosed? client := by
  rw [(eq_of_dispatchRead goes).2.1]
  rfl

theorem queued_dispatchRead (client : ClientId) :
    after.queued client = hub.queued client := by
  rw [(eq_of_dispatchRead goes).2.1]
  rfl

theorem lockTrigger_dispatchRead : after.lockTrigger = hub.lockTrigger := by
  rw [(eq_of_dispatchRead goes).2.1]

theorem limits_dispatchRead : after.store.limits = hub.store.limits :=
  (eq_of_dispatchRead goes).2.2

end DispatchRead

end Hub

/-- On the floor, a request is read, dispatched and answered at one go. -/
theorem Floor.serve_of_read {floor : Floor} {client : ClientId}
    {connection behind kept : Connection} {incoming : Source}
    {read : Except Error Request} {reply : Reply} {hub : Hub}
    (seated : floor.seats.find? client = some ⟨connection, .inUse⟩)
    (named : connection.client = client)
    (heard : floor.hub.readFrom { connection with incoming } = (read, behind))
    (answered : floor.hub.dispatchRead behind read = (reply, kept, hub)) :
    floor.serve client incoming =
      { floor with
        hub := (hub.deliverReply client reply).2
        seats := floor.seats.insert client
          ⟨kept, if (hub.deliverReply client reply).1 then .inUse
            else .ended⟩ } := by
  have same : behind.client = client := by
    have kept := floor.hub.client_readFrom { connection with incoming }
    rw [heard] at kept
    exact kept.trans named
  simp only [serve, seated, Hub.serveOne_eq_serveRead, heard,
    Hub.serveRead_eq, answered, same]

/-- For a client and a path, the number of the request by which the client
last came into the queue there. -/
abbrev Entries := ClientId → String → Nat

/-- What a worker has to do once a reply is queued. -/
structure Errand where
  /-- The clients to tell that their awaited file is gone. -/
  orphans : List Orphan
  /-- The requests by which clients were in queues when the file was lost. -/
  entered : Entries
  /-- The lock manager has to be asked to run. -/
  released : Bool
  stays : Bool

/-- How far a worker has come with a request. -/
inductive Job
  /-- The outbox is reserved, and this is to be dispatched. -/
  | asking (read : Except Error Request)
  /-- The outbox is reserved, and so much of a reply is left to be queued. -/
  | replying (number : Nat) (left : List Response) (errand : Errand)
  /-- The outbox is no longer reserved. -/
  | notifying (errand : Errand)

/-- Whether a worker has its client's outbox reserved. -/
def Job.holds : Job → Bool
  | asking _ | replying _ _ _ => true
  | notifying _ => false

/-- Why a response was queued. -/
inductive Origin
  /-- It belongs to the reply to a request. -/
  | reply (number : Nat)
  /-- It ends a wait that a request began. -/
  | ending (number : Nat)
  deriving DecidableEq, Repr

/-- A response that was queued for a client. -/
structure Letter where
  origin : Origin
  response : Response
  deriving DecidableEq, Repr

/-- The record of a request that was dispatched. -/
structure Service where
  client : ClientId
  read : Except Error Request
  before : Store
  after : Store
  reply : Reply

structure Mailroom extends Floor where
  /-- What workers are at, by the clients that they serve. -/
  jobs : ClientId → Option Job := fun _ => none
  reserved : ClientId → Bool := fun _ => false
  /-- Everything that was dispatched, in that order. -/
  journal : List Service := []
  entered : Entries := fun _ _ => 0
  /-- What `entered` was when locks were last handed out. -/
  granted : Entries := fun _ _ => 0
  /-- Everything that was ever queued for a client. -/
  mail : ClientId → List Letter := fun _ => []

namespace Mailroom

def new (limits : Limits) : Mailroom where
  toFloor := .new limits

/-- Whether a response that answers no request has to wait.  For a client that
is not registered there is nothing to wait for. -/
def mustWait (room : Mailroom) (client : ClientId) : Bool :=
  room.hub.registry.contains client && room.reserved client

/-- The mail once one more letter was queued. -/
def mailWith (room : Mailroom) (client : ClientId) (letter : Letter) :
    ClientId → List Letter :=
  Function.update room.mail client (room.mail client ++ [letter])

/-- The entries once the request of a number has changed the store. -/
def enteredBy (room : Mailroom) (number : Nat) (after : Store) : Entries :=
  fun client path =>
    if after.Awaits client path ∧ ¬ room.hub.store.Awaits client path then
      number
    else
      room.entered client path

/-- A connection is accepted. -/
def accept (room : Mailroom) : Mailroom :=
  { room with toFloor := room.toFloor.accept }

/-- A worker reads what has arrived from a client, and reserves its outbox. -/
def reserve (client : ClientId) (incoming : Source) (room : Mailroom) :
    Mailroom :=
  match room.seats.find? client, room.jobs client, room.reserved client with
  | some ⟨connection, .inUse⟩, none, false =>
      let (read, behind) := room.hub.readFrom { connection with incoming }
      { room with
        seats := room.seats.insert client ⟨behind, .inUse⟩
        jobs := Function.update room.jobs client (some (.asking read))
        reserved := Function.update room.reserved client true }
  | _, _, _ => room

/-- What a request leaves that was dispatched, with its reply still to be
queued. -/
def dispatched (room : Mailroom) (client : ClientId)
    (read : Except Error Request) (reply : Reply) (kept : Connection)
    (hub : Hub) : Mailroom :=
  let number := room.journal.length
  let errand : Errand :=
    { orphans := reply.orphans
      entered := room.entered
      released := reply.released
      stays := !reply.close }
  { room with
    hub
    seats := room.seats.insert client ⟨kept, .inUse⟩
    jobs := Function.update room.jobs client
      (some (.replying number reply.responses errand))
    journal := room.journal ++
      [⟨client, read, room.hub.store, hub.store, reply⟩]
    entered := room.enteredBy number hub.store }

/-- A worker dispatches what it has read. -/
def dispatch (client : ClientId) (room : Mailroom) : Mailroom :=
  match room.seats.find? client, room.jobs client with
  | some ⟨connection, .inUse⟩, some (.asking read) =>
      let (reply, kept, hub) := room.hub.dispatchRead connection read
      room.dispatched client read reply kept hub
  | _, _ => room

/-- A worker queues the next response of a reply.  After a refusal it gives up
the rest of the reply, and the connection. -/
def push (client : ClientId) (room : Mailroom) : Mailroom :=
  match room.jobs client with
  | some (.replying number (response :: rest) errand) =>
      match room.hub.push client [response] with
      | (.ok _, hub) =>
          { room with
            hub
            jobs := Function.update room.jobs client
              (some (.replying number rest errand))
            mail := room.mailWith client ⟨.reply number, response⟩ }
      | (.error _, hub) =>
          { room with
            hub
            jobs := Function.update room.jobs client
              (some (.replying number [] { errand with stays := false })) }
  | _ => room

/-- A worker that has queued a reply gives the reservation up. -/
def drop (client : ClientId) (room : Mailroom) : Mailroom :=
  match room.jobs client with
  | some (.replying _ [] errand) =>
      { room with
        jobs := Function.update room.jobs client (some (.notifying errand))
        reserved := Function.update room.reserved client false }
  | _ => room

/-- A worker tells the next client that its file is gone. -/
def notify (client : ClientId) (room : Mailroom) : Mailroom :=
  match room.jobs client with
  | some (.notifying ⟨orphan :: others, entered, released, stays⟩) =>
      if room.mustWait orphan.client then
        room
      else
        let left : Job := .notifying ⟨others, entered, released, stays⟩
        let notice := Hub.goneNotice orphan.path
        let origin := Origin.ending (entered orphan.client orphan.path)
        match room.hub.send orphan.client notice with
        | (.ok _, hub) =>
            { room with
              hub
              jobs := Function.update room.jobs client (some left)
              mail := room.mailWith orphan.client ⟨origin, notice⟩ }
        | (.error _, hub) =>
            { room with
              hub, jobs := Function.update room.jobs client (some left) }
  | _ => room

/-- A worker that has told all orphans is done with a request. -/
def finish (client : ClientId) (room : Mailroom) : Mailroom :=
  match room.seats.find? client, room.jobs client with
  | some ⟨connection, .inUse⟩,
      some (.notifying ⟨[], _, released, stays⟩) =>
      { room with
        hub := if released then room.hub.fireLockTrigger else room.hub
        seats := room.seats.insert client
          ⟨connection, if stays then .inUse else .ended⟩
        jobs := Function.update room.jobs client none }
  | _, _ => room

/-- A worker that has no request of a client in hand gives up its locks. -/
def release (client : ClientId) (room : Mailroom) : Mailroom :=
  match room.jobs client with
  | none => { room with toFloor := room.toFloor.release client }
  | some _ => room

/-- A worker forgets a client whose locks it has given up. -/
def forget (client : ClientId) (room : Mailroom) : Mailroom :=
  match room.jobs client with
  | none => { room with toFloor := room.toFloor.forget client }
  | some _ => room

/-- The writer of a client's socket fails. -/
def closeOutbox (client : ClientId) (room : Mailroom) : Mailroom :=
  { room with toFloor := room.toFloor.closeOutbox client }

/-- The writer of a client's socket takes a response. -/
def write (client : ClientId) (room : Mailroom) : Mailroom :=
  { room with toFloor := room.toFloor.write client }

/-- The lock manager takes its next step, unless it has to wait. -/
def manage (room : Mailroom) : Mailroom :=
  match room.manager with
  | .granting =>
      { room with toFloor := room.toFloor.manage, granted := room.entered }
  | .telling (grant :: _) _ =>
      if room.mustWait grant.client then
        room
      else
        let notice := Hub.grantNotice grant.path
        let origin := Origin.ending (room.granted grant.client grant.path)
        match room.hub.send grant.client notice with
        | (.ok _, _) =>
            { room with
              toFloor := room.toFloor.manage
              mail := room.mailWith grant.client ⟨origin, notice⟩ }
        | (.error _, _) => { room with toFloor := room.toFloor.manage }
  | _ => { room with toFloor := room.toFloor.manage }

end Mailroom

/-- A step of anyone in the mail room.  One that is not possible when its turn
comes changes nothing. -/
inductive Act
  | accept
  | reserve (client : ClientId) (incoming : Source)
  | dispatch (client : ClientId)
  | push (client : ClientId)
  | drop (client : ClientId)
  | notify (client : ClientId)
  | finish (client : ClientId)
  | release (client : ClientId)
  | forget (client : ClientId)
  | closeOutbox (client : ClientId)
  | write (client : ClientId)
  | manage

namespace Mailroom

def act (room : Mailroom) : Act → Mailroom
  | .accept => room.accept
  | .reserve client incoming => room.reserve client incoming
  | .dispatch client => room.dispatch client
  | .push client => room.push client
  | .drop client => room.drop client
  | .notify client => room.notify client
  | .finish client => room.finish client
  | .release client => room.release client
  | .forget client => room.forget client
  | .closeOutbox client => room.closeOutbox client
  | .write client => room.write client
  | .manage => room.manage

def run : List Act → Mailroom → Mailroom
  | [], room => room
  | act :: later, room => run later (room.act act)

theorem run_append (first second : List Act) (room : Mailroom) :
    room.run (first ++ second) = (room.run first).run second := by
  induction first generalizing room with
  | nil => rfl
  | cons act later ih => exact ih (room.act act)

theorem run_preserves {invariant : Mailroom → Prop}
    (step : ∀ room act, invariant room → invariant (room.act act))
    (acts : List Act) {room : Mailroom} (start : invariant room) :
    invariant (room.run acts) := by
  induction acts generalizing room with
  | nil => exact start
  | cons act later ih => exact ih (step room act start)

/-- Some acts lead from one state of the room to another. -/
def ComesTo (room after : Mailroom) : Prop :=
  ∃ acts, room.run acts = after

namespace ComesTo

theorem refl (room : Mailroom) : room.ComesTo room :=
  ⟨[], rfl⟩

theorem step (act : Act) {room next after : Mailroom}
    (goes : room.act act = next) (later : next.ComesTo after) :
    room.ComesTo after := by
  obtain ⟨acts, rfl⟩ := later
  exact ⟨act :: acts, by rw [run, goes]⟩

theorem trans {first second third : Mailroom} (earlier : first.ComesTo second)
    (later : second.ComesTo third) : first.ComesTo third := by
  obtain ⟨before, rfl⟩ := earlier
  obtain ⟨behind, rfl⟩ := later
  exact ⟨before ++ behind, run_append before behind first⟩

end ComesTo

section Undisturbed

variable {client : ClientId}

/-- Undisturbed, a worker queues a reply as `Hub.push` does. -/
theorem comesTo_queued (left : List Response) (room : Mailroom)
    {number : Nat} {errand : Errand}
    (known : room.hub.outboxClosed? client ≠ none)
    (replying : room.jobs client = some (.replying number left errand)) :
    ∃ mail, room.ComesTo
      { room with
        hub := (room.hub.push client left).2
        jobs := Function.update room.jobs client
          (some (.replying number []
            { errand with
              stays := errand.stays && (room.hub.push client left).1.isOk }))
        mail } := by
  induction left generalizing room with
  | nil =>
      have same : Function.update room.jobs client
          (some (.replying number [] errand)) = room.jobs := by
        rw [← replying, Function.update_eq_self]
      refine ⟨room.mail, ?_⟩
      simp only [Hub.push_nil, Hub.push_nil_ok known, Except.isOk, Except.toBool,
        Bool.and_true, same]
      exact .refl room
  | cons response rest ih =>
      rcases pushed : room.hub.push client [response] with
        ⟨error | done, next⟩
      · refine ⟨room.mail, .step (.push client) ?_ (.refl _)⟩
        simp only [act, push, replying, pushed, Hub.push_cons_of_refused pushed,
          Except.isOk, Except.toBool, Bool.and_false]
      · have goes : room.push client =
            { room with
              hub := next
              jobs := Function.update room.jobs client
                (some (.replying number rest errand))
              mail := room.mailWith client ⟨.reply number, response⟩ } := by
          simp only [push, replying, pushed]
        have still : (room.push client).hub.outboxClosed? client ≠ none := by
          have extended := room.hub.extends_push client [response]
          rw [pushed] at extended
          rw [goes]
          exact extended.outboxClosed? client ▸ known
        obtain ⟨mail, later⟩ := ih (room.push client) still (by simp [goes])
        refine ⟨mail, .step (.push client) rfl ?_⟩
        rw [Hub.push_cons_of_queued pushed]
        simpa only [act, goes, Function.update_idem] using later

/-- Undisturbed, a worker tells orphans as `Hub.notifyOrphans` does. -/
theorem comesTo_notified (orphans : List Orphan) (room : Mailroom)
    {entered : Entries} {released stays : Bool}
    (free : ∀ other, room.reserved other = false)
    (notifying : room.jobs client =
      some (.notifying ⟨orphans, entered, released, stays⟩)) :
    ∃ mail, room.ComesTo
      { room with
        hub := Hub.notifyOrphans orphans room.hub
        jobs := Function.update room.jobs client
          (some (.notifying ⟨[], entered, released, stays⟩))
        mail } := by
  induction orphans generalizing room with
  | nil =>
      refine ⟨room.mail, ?_⟩
      rw [← notifying, Function.update_eq_self]
      exact .refl room
  | cons orphan others ih =>
      have goes : ∃ mail, room.notify client =
          { room with
            hub := (room.hub.send orphan.client
              (Hub.goneNotice orphan.path)).2
            jobs := Function.update room.jobs client
              (some (.notifying ⟨others, entered, released, stays⟩))
            mail } := by
        have ready : room.mustWait orphan.client = false := by
          simp [mustWait, free]
        unfold notify
        simp only [notifying, ready, Bool.false_eq_true, if_false]
        rcases room.hub.send orphan.client (Hub.goneNotice orphan.path) with
          ⟨error | done, next⟩
        · exact ⟨room.mail, rfl⟩
        · exact ⟨_, rfl⟩
      obtain ⟨first, goes⟩ := goes
      obtain ⟨mail, later⟩ :=
        ih (room.notify client) (by simp [goes, free]) (by simp [goes])
      have told : Hub.notifyOrphans (orphan :: others) room.hub =
          Hub.notifyOrphans others (room.hub.send orphan.client
            (Hub.goneNotice orphan.path)).2 := rfl
      refine ⟨mail, .step (.notify client) rfl ?_⟩
      simpa only [act, goes, told, Function.update_idem] using later

theorem comesTo_dispatched (room : Mailroom)
    {connection behind kept : Connection} {incoming : Source}
    {read : Except Error Request} {reply : Reply} {hub : Hub}
    (seated : room.seats.find? client = some ⟨connection, .inUse⟩)
    (idle : room.jobs client = none) (free : room.reserved client = false)
    (heard : room.hub.readFrom { connection with incoming } = (read, behind))
    (answered : room.hub.dispatchRead behind read = (reply, kept, hub)) :
    ∃ (number : Nat) (journal : List Service) (entered : Entries),
      room.ComesTo
        { room with
          hub
          seats := room.seats.insert client ⟨kept, .inUse⟩
          jobs := Function.update room.jobs client
            (some (.replying number reply.responses
              ⟨reply.orphans, room.entered, reply.released, !reply.close⟩))
          reserved := Function.update room.reserved client true
          journal
          entered } := by
  have reserves : room.act (.reserve client incoming) =
      { room with
        seats := room.seats.insert client ⟨behind, .inUse⟩
        jobs := Function.update room.jobs client (some (.asking read))
        reserved := Function.update room.reserved client true } := by
    simp only [act, reserve, seated, idle, free, heard]
  refine ⟨room.journal.length,
    room.journal ++ [⟨client, read, room.hub.store, hub.store, reply⟩],
    room.enteredBy room.journal.length hub.store,
    .step _ reserves (.step (.dispatch client) ?_ (.refl _))⟩
  simp only [act, dispatch, dispatched, Index.find?_insert, if_true,
    Function.update_self, answered, Index.insert_insert,
    Function.update_idem]
  rfl

/-- A worker that is not disturbed by anybody serves a client as
`Floor.serve` does. -/
theorem serves_undisturbed (room : Mailroom) {connection : Connection}
    (incoming : Source)
    (seated : room.seats.find? client = some ⟨connection, .inUse⟩)
    (named : connection.client = client)
    (known : room.hub.outboxClosed? client ≠ none)
    (idle : room.jobs client = none)
    (free : ∀ other, room.reserved other = false) :
    ∃ after, room.ComesTo after ∧
      after.toFloor = room.toFloor.serve client incoming ∧
      after.jobs = room.jobs ∧ after.reserved = room.reserved := by
  rcases heard : room.hub.readFrom { connection with incoming } with
    ⟨read, behind⟩
  rcases answered : room.hub.dispatchRead behind read with
    ⟨reply, kept, hub⟩
  have served := Floor.serve_of_read seated named heard answered
  have stillKnown : hub.outboxClosed? client ≠ none := by
    rw [Hub.outboxClosed?_dispatchRead answered]
    exact known
  obtain ⟨number, journal, entered, dispatches⟩ :=
    room.comesTo_dispatched seated idle (free _) heard answered
  obtain ⟨queued, pushes⟩ := comesTo_queued reply.responses
    { room with
      hub
      seats := room.seats.insert client ⟨kept, .inUse⟩
      jobs := Function.update room.jobs client
        (some (.replying number reply.responses
          ⟨reply.orphans, room.entered, reply.released, !reply.close⟩))
      reserved := Function.update room.reserved client true
      journal, entered }
    stillKnown (Function.update_self ..)
  obtain ⟨told, notifies⟩ := comesTo_notified reply.orphans
    { room with
      hub := (hub.push client reply.responses).2
      seats := room.seats.insert client ⟨kept, .inUse⟩
      jobs := Function.update room.jobs client
        (some (.notifying ⟨reply.orphans, room.entered, reply.released,
          !reply.close &&
            (hub.push client reply.responses).1.isOk⟩))
      journal, entered, mail := queued }
    free (Function.update_self ..)
  refine ⟨_, dispatches.trans (pushes.trans
    (.step (.drop client) ?_ (notifies.trans
      (.step (.finish client) rfl (.refl _))))), ?_, ?_, ?_⟩
  · have unreserved : Function.update room.reserved client false =
        room.reserved := by
      rw [← free client, Function.update_eq_self]
    simp only [act, drop, Function.update_self, Function.update_idem,
      unreserved]
  · rw [served]
    simp only [act, finish, Index.find?_insert, if_true,
      Function.update_self, Index.insert_insert, Hub.deliverReply_eq]
  · simp only [act, finish, Index.find?_insert, if_true,
      Function.update_self, Function.update_idem]
    rw [← idle, Function.update_eq_self]
  · simp only [act, finish, Index.find?_insert, if_true, Function.update_self]

end Undisturbed

end Mailroom

end FileDepot
