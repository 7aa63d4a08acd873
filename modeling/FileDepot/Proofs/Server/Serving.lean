import FileDepot.Proofs.Hub.Outboxes
import FileDepot.Proofs.Server.Dispatching

/-!
# Serving one request

What a worker does to the hub when it serves a connection once: the store
carries out at most one operation, the client gets its reply, and behind it
everybody whose file is gone gets a notice.
-/

namespace FileDepot

namespace Hub

/-- The responses to a client's own request that reach it. -/
def repliesTo (hub : Hub) (client : ClientId) (responses : List Response) :
    ClientId → List Response :=
  if hub.outboxClosed? client = some false then
    onlyFor client responses
  else
    fun _ => []

theorem repliesTo_self {hub : Hub} {client : ClientId}
    (isOpen : hub.outboxClosed? client = some false)
    (responses : List Response) :
    hub.repliesTo client responses client = responses := by
  rw [repliesTo, if_pos isOpen, onlyFor, if_pos rfl]

theorem repliesTo_other (hub : Hub) {client other : ClientId}
    (different : other ≠ client) (responses : List Response) :
    hub.repliesTo client responses other = [] := by
  unfold repliesTo
  split
  · rw [onlyFor, if_neg different]
  · rfl

theorem extends_push (hub : Hub) (client : ClientId)
    (responses : List Response) :
    Extends hub (hub.repliesTo client responses)
      (hub.push client responses).2 := by
  unfold repliesTo
  split
  · rename_i isOpen
    exact (extends_push_open isOpen responses).2
  · rename_i isClosed
    exact extends_push_closed isClosed responses

theorem Extends.fire {before after : Hub} {added : ClientId → List Response}
    (extended : Extends before added after) :
    Extends before.fireLockTrigger added after.fireLockTrigger :=
  ⟨extended.store, extended.registry, rfl, extended.outboxClosed?,
    extended.queued⟩

/-- What comes of delivering a reply, in the order in which it comes. -/
theorem deliverReply_eq (hub : Hub) (client : ClientId) (reply : Reply) :
    hub.deliverReply client reply =
      let queued := hub.push client reply.responses
      let notified := notifyOrphans reply.orphans queued.2
      (!reply.close && queued.1.isOk,
        if reply.released then notified.fireLockTrigger else notified) := by
  rcases pushed : hub.push client reply.responses with
    ⟨error | done, next⟩ <;>
    simp [deliverReply, pushed, Except.isOk, Except.toBool]

/-- What a worker does with a reply. -/
theorem extends_deliverReply (hub : Hub) (client : ClientId) (reply : Reply) :
    Extends { hub with lockTrigger := hub.lockTrigger || reply.released }
      (fun other => hub.repliesTo client reply.responses other ++
        hub.noticesTo reply.orphans other)
      (hub.deliverReply client reply).2 := by
  have pushed := hub.extends_push client reply.responses
  have notified := pushed.trans
    (extends_notifyOrphans reply.orphans (hub.push client reply.responses).2)
  have same : (hub.push client reply.responses).2.noticesTo reply.orphans =
      hub.noticesTo reply.orphans := by
    funext other
    rw [noticesTo, pushed.contactable_eq, noticesTo]
  rw [same] at notified
  rw [deliverReply_eq]
  dsimp only
  cases released : reply.released with
  | true =>
      rw [if_pos rfl, Bool.or_true]
      exact notified.fire
  | false =>
      rw [if_neg Bool.false_ne_true, Bool.or_false]
      exact notified

/-- The scope in which the requests of a connection are dispatched. -/
def scope (hub : Hub) (connection : Connection) : Scope where
  session := connection.session
  store := hub.store
  registry := hub.registry

/-- What is read from a connection. -/
def reads (hub : Hub) (connection : Connection) : Except Error Request :=
  match Request.decode (bodyLimit hub.store.limits.maxBytes)
      connection.incoming with
  | .ok request _ => .ok request
  | .error error _ => .error error

/-- The reply to what is read from a connection. -/
def answers (hub : Hub) (connection : Connection) : List Response :=
  match hub.reads connection with
  | .ok request =>
      ((hub.scope connection).dispatch connection.client request).1.responses
  | .error .peerClosed => []
  | .error error =>
      if Request.keepsStep error then
        [.ofError error ""]
      else
        [{ status := .badRequest }]

/-- The operation on the store that is read from a connection. -/
def asked? (hub : Hub) (connection : Connection) : Option StoreOperation :=
  match hub.reads connection with
  | .ok request => request.asks? connection.client
  | .error _ => none

theorem client?_of_asked {hub : Hub} {connection : Connection}
    {operation : StoreOperation}
    (asked : hub.asked? connection = some operation) :
    operation.client? = some connection.client := by
  unfold asked? at asked
  split at asked
  · exact Request.client?_of_asks asked
  · cases asked

/-- Everything that serving a connection once can come to. -/
inductive Serves (hub : Hub) (connection kept : Connection) (after : Hub) :
    Prop
  | opened (unopened : connection.session = .unopened)
      (opened : kept.session = .active [])
      (extended : Extends
        { hub with registry := hub.registry.register connection.client }
        (hub.repliesTo connection.client (hub.answers connection)) after)
  | quiet (same : kept.session = connection.session)
      (extended : Extends hub
        (hub.repliesTo connection.client (hub.answers connection)) after)
  | carried (operation : StoreOperation)
      (asked : hub.asked? connection = some operation)
      (active : connection.session.isActive = true)
      (still : kept.session.isActive = true)
      (extended : Extends
        { hub with
          store := (hub.store.perform operation).2
          lockTrigger := hub.lockTrigger ||
            (hub.store.perform operation).1.freesLock }
        (fun client =>
          hub.repliesTo connection.client (hub.answers connection) client ++
            hub.noticesTo (hub.store.perform operation).1.orphans client)
        after)

theorem serves_request (hub : Hub) (connection : Connection)
    {request : Request} {rest : Source}
    (read : hub.reads connection = .ok request) :
    Serves hub connection
      (hub.serveRead { connection with incoming := rest } (.ok request)).2.1
      (hub.serveRead { connection with incoming := rest }
        (.ok request)).2.2 := by
  have answered : hub.answers connection =
      ((hub.scope connection).dispatch connection.client
        request).1.responses := by
    rw [answers, read]
  have asked : hub.asked? connection = request.asks? connection.client := by
    rw [asked?, read]
  simp only [serveRead]
  change Serves hub connection
    { connection with
      incoming := rest
      session := ((hub.scope connection).dispatch connection.client
        request).2.session }
    (({ hub with
        store := ((hub.scope connection).dispatch connection.client
          request).2.store
        registry := ((hub.scope connection).dispatch connection.client
          request).2.registry }).deliverReply connection.client
      ((hub.scope connection).dispatch connection.client request).1).2
  have delivered := extends_deliverReply
    { hub with
      store := ((hub.scope connection).dispatch connection.client
        request).2.store
      registry := ((hub.scope connection).dispatch connection.client
        request).2.registry }
    connection.client
    ((hub.scope connection).dispatch connection.client request).1
  rw [← answered] at delivered
  rcases Scope.dispatch_cases connection.client request
      (hub.scope connection) with
    ⟨unopened, goes⟩ | ⟨same, orphans, released⟩ |
      ⟨operation, asks, active, carried⟩
  · refine .opened unopened (by rw [goes]) ?_
    rw [goes] at delivered ⊢
    simp only [Reply.ofStatus, noticesTo_nil, List.append_nil,
      Bool.or_false] at delivered
    exact delivered
  · refine .quiet (by rw [same]; rfl) ?_
    rw [orphans, released] at delivered
    simp only [noticesTo_nil, List.append_nil, Bool.or_false] at delivered
    rw [same] at delivered ⊢
    exact delivered
  · refine .carried operation (asked.trans asks) active
      (carried.active.trans active) ?_
    rw [carried.orphans, carried.released, carried.store,
      carried.registry] at delivered
    rw [carried.store, carried.registry]
    exact delivered

theorem serveRead_error (hub : Hub) (connection : Connection) {error : Error}
    (notClosed : error ≠ .peerClosed) :
    (hub.serveRead connection (.error error)).2 =
      (connection,
        if Request.keepsStep error then
          (hub.deliverReply connection.client (.ofError error "")).2
        else
          (hub.push connection.client [{ status := .badRequest }]).2) := by
  cases error with
  | peerClosed => exact absurd rfl notClosed
  | _ => rfl

theorem answers_error {hub : Hub} {connection : Connection} {error : Error}
    (read : hub.reads connection = .error error)
    (notClosed : error ≠ .peerClosed) :
    hub.answers connection =
      if Request.keepsStep error then [.ofError error ""]
      else [{ status := .badRequest }] := by
  rw [answers, read]
  cases error with
  | peerClosed => exact absurd rfl notClosed
  | _ => rfl

/-- An error that is read is answered, unless the client is gone. -/
theorem serves_error (hub : Hub) (connection : Connection) {error : Error}
    {rest : Source} (read : hub.reads connection = .error error) :
    Serves hub connection
      (hub.serveRead { connection with incoming := rest } (.error error)).2.1
      (hub.serveRead { connection with incoming := rest }
        (.error error)).2.2 := by
  by_cases closed : error = .peerClosed
  · subst closed
    refine .quiet rfl ?_
    have nothing : hub.repliesTo connection.client (hub.answers connection) =
        fun _ => [] := by
      funext client
      rw [answers, read, repliesTo]
      split
      · exact ite_self []
      · rfl
    rw [nothing]
    exact .refl hub
  · rw [serveRead_error hub _ closed]
    refine .quiet rfl ?_
    rw [answers_error read closed]
    split
    · have delivered := hub.extends_deliverReply connection.client
        (.ofError error "")
      simp only [Reply.ofError, noticesTo_nil, List.append_nil,
        Bool.or_false] at delivered
      exact delivered
    · exact hub.extends_push connection.client _

theorem client_serveRead (hub : Hub) (connection : Connection)
    (read : Except Error Request) :
    (hub.serveRead connection read).2.1.client = connection.client := by
  unfold serveRead
  split
  · rfl
  · rfl
  · split <;> rfl

theorem client_serveOne (hub : Hub) (connection : Connection) :
    (hub.serveOne connection).2.1.client = connection.client := by
  unfold serveOne
  dsimp only
  split <;> rw [client_serveRead]

/-- Whatever a worker reads, it comes to one of the things listed. -/
theorem serves_serveOne (hub : Hub) (connection : Connection) :
    Serves hub connection (hub.serveOne connection).2.1
      (hub.serveOne connection).2.2 := by
  unfold serveOne
  cases read : Request.decode (bodyLimit hub.store.limits.maxBytes)
      connection.incoming with
  | ok request rest =>
      have reads : hub.reads connection = .ok request := by
        rw [Hub.reads, read]
      simp only [read]
      exact hub.serves_request connection reads
  | error error rest =>
      have reads : hub.reads connection = .error error := by
        rw [Hub.reads, read]
      simp only [read]
      exact hub.serves_error connection reads

section Reads

variable {hub : Hub} {connection : Connection}

theorem serveOne_eq (hub : Hub) (connection : Connection) :
    ∃ rest, hub.serveOne connection =
      hub.serveRead { connection with incoming := rest }
        (hub.reads connection) := by
  cases decoded : Request.decode (bodyLimit hub.store.limits.maxBytes)
      connection.incoming with
  | ok request rest => exact ⟨rest, by simp only [serveOne, reads, decoded]⟩
  | error error rest => exact ⟨rest, by simp only [serveOne, reads, decoded]⟩

theorem store_serveOne_of_read {request : Request}
    (read : hub.reads connection = .ok request) :
    (hub.serveOne connection).2.2.store =
      ((hub.scope connection).dispatch connection.client
        request).2.store := by
  obtain ⟨rest, goes⟩ := hub.serveOne_eq connection
  rw [goes, read]
  exact (extends_deliverReply _ connection.client _).store

theorem deliverReply_stays {client : ClientId}
    (isOpen : hub.outboxClosed? client = some false) (reply : Reply) :
    (hub.deliverReply client reply).1 = !reply.close := by
  have pushed := (extends_push_open isOpen reply.responses).1
  simp [deliverReply_eq, pushed, Except.isOk, Except.toBool]

/-- A connection that was served stays open unless the reply closes it. -/
theorem serveOne_stays_of_read {request : Request}
    (read : hub.reads connection = .ok request)
    (isOpen : hub.outboxClosed? connection.client = some false) :
    (hub.serveOne connection).1 =
      !((hub.scope connection).dispatch connection.client
        request).1.close := by
  obtain ⟨rest, goes⟩ := hub.serveOne_eq connection
  rw [goes, read]
  apply deliverReply_stays
  exact isOpen

theorem store_serveOne_of_error {error : Error}
    (read : hub.reads connection = .error error) :
    (hub.serveOne connection).2.2.store = hub.store := by
  cases hub.serves_serveOne connection with
  | opened _ _ extended => exact extended.store
  | quiet _ extended => exact extended.store
  | carried operation asked =>
      rw [asked?, read] at asked
      cases asked

end Reads

end Hub

end FileDepot
