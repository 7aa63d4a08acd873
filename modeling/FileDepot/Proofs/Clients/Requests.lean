import FileDepot.Proofs.Clients.Calls
import FileDepot.Proofs.Server.Serving
import FileDepot.Proofs.Wire.RequestFrames

/-!
# Serving the request of a call

What a worker makes of the request frame that a call has sent: the store after
it, the answer to the call, and who waits for locks then.
-/

namespace FileDepot

theorem eq_singleton_of_nodup {Item : Type} {items : List Item} {item : Item}
    (nodup : items.Nodup) (listed : item ∈ items)
    (only : ∀ other ∈ items, other = item) : items = [item] := by
  apply List.perm_singleton.mp
  apply (List.perm_ext_iff_of_nodup nodup (List.nodup_singleton item)).mpr
  intro other
  rw [List.mem_singleton]
  constructor
  · exact only other
  · rintro rfl
    exact listed

/-- A request frame has arrived on a connection. -/
def Connection.receiving (connection : Connection) (request : Request) :
    Connection :=
  { connection with incoming := .ofBytes request.frame }

theorem Request.path_of_asks_create {request : Request} {session : Session}
    {client creator : ClientId} {path : String} {lock : Bool}
    (checked : request.check session = .ok ())
    (asked : request.asks? client = some (.create path creator lock)) :
    path ≠ "" := by
  rintro rfl
  unfold asks? at asked
  split at asked
  case h_3 code =>
    split at asked
    · cases asked
    · split at asked
      · simp only [Option.some.injEq, StoreOperation.create.injEq] at asked
        have pathless : request.path.isEmpty = true := by simp [asked.1]
        unfold check at checked
        simp only [code, OpCode.targetsFile, pathless] at checked
        split at checked
        · rename_i impossible
          cases impossible
        · split at checked
          · cases checked
          · cases checked
      · cases asked
  case h_7 => split at asked <;> cases asked
  all_goals cases asked

theorem Scope.unnamed_dispatch {scope : Scope} (client : ClientId)
    (request : Request) (consistent : scope.store.Consistent)
    (unnamed : scope.store.file? "" = none) :
    (scope.dispatch client request).2.store.file? "" = none := by
  cases checked : request.check scope.session with
  | error error =>
      simp only [dispatch, checked]
      exact unnamed
  | ok _ =>
      rw [dispatch_of_checked checked]
      by_cases opening : request.operation = .openConnection
      · have same : (scope.handle client request).2.store = scope.store := by
          simp only [handle, opening, store_openConnection]
        rw [same, unnamed]
      · cases asked : request.asks? client with
        | none => rw [(handle_quiet scope asked opening).1, unnamed]
        | some operation =>
            rw [(carried_handle scope asked).store]
            cases born : (scope.store.perform operation).2.file? "" with
            | none => rfl
            | some file =>
                obtain ⟨creator, lock, rfl, -⟩ :=
                  Store.creation_of_birth consistent unnamed born
                exact absurd rfl (request.path_of_asks_create checked asked)

namespace Hub

section Serving

variable {hub : Hub} {connection : Connection}

/-- Serving a connection comes to at most one operation of its client, and
queues the reply and, behind it, the notices of the files that it cost. -/
theorem serveOne_cases (hub : Hub) (connection : Connection) :
    (∀ other, (hub.serveOne connection).2.2.outboxClosed? other =
      hub.outboxClosed? other) ∧
    (((hub.serveOne connection).2.2.store = hub.store ∧
      ∀ other, (hub.serveOne connection).2.2.queued other =
        hub.queued other ++
          hub.repliesTo connection.client (hub.answers connection) other) ∨
    ∃ operation, operation.client? = some connection.client ∧
      (hub.serveOne connection).2.2.store =
        (hub.store.perform operation).2 ∧
      ∀ other, (hub.serveOne connection).2.2.queued other =
        hub.queued other ++
          (hub.repliesTo connection.client (hub.answers connection) other ++
            hub.noticesTo (hub.store.perform operation).1.orphans other)) := by
  cases hub.serves_serveOne connection with
  | opened _ _ extended =>
      exact ⟨extended.outboxClosed?,
        Or.inl ⟨extended.store, extended.queued⟩⟩
  | quiet _ extended =>
      exact ⟨extended.outboxClosed?,
        Or.inl ⟨extended.store, extended.queued⟩⟩
  | carried operation asked _ _ extended =>
      exact ⟨extended.outboxClosed?, Or.inr ⟨operation,
        client?_of_asked asked, extended.store, extended.queued⟩⟩

/-- Serving a connection stores nothing without a path. -/
theorem unnamed_serveOne (hub : Hub) (connection : Connection)
    (consistent : hub.store.Consistent) (unnamed : hub.store.file? "" = none) :
    (hub.serveOne connection).2.2.store.file? "" = none := by
  cases read : hub.reads connection with
  | error error => rw [store_serveOne_of_error read, unnamed]
  | ok request =>
      rw [store_serveOne_of_read read]
      exact Scope.unnamed_dispatch connection.client request consistent
        unnamed

/-- A frame that arrives whole is read as the request that was sent, or
answered by one refusal. -/
theorem reads_receiving (hub : Hub) (connection : Connection)
    {request : Request} (sendable : request.Sendable) :
    hub.reads (connection.receiving request) = .ok request ∨
    ∃ error response,
      hub.reads (connection.receiving request) = .error error ∧
      hub.answers (connection.receiving request) = [response] ∧
      response.status.isRefusal = true := by
  have decoded := Request.decode_frame
    (bodyLimit hub.store.limits.maxBytes) sendable []
  rw [List.append_nil] at decoded
  rcases decoded with goes | ⟨-, fails⟩ | ⟨-, reason, left, fails⟩
  · left
    simp only [reads, Connection.receiving, goes]
  · right
    have read : hub.reads (connection.receiving request) =
        .error (.bodyTooLarge request.body.length) := by
      simp only [reads, Connection.receiving, fails]
    refine ⟨_, _, read, answers_error read (by simp), rfl⟩
  · right
    have read : hub.reads (connection.receiving request) =
        .error (.malformed reason) := by
      simp only [reads, Connection.receiving, fails]
    refine ⟨_, _, read, answers_error read (by simp), rfl⟩

theorem answered_serveOne {call : Call} {request : Request}
    (blocks : call.blocks = true) (asks : call.request? = some request)
    (sendable : request.Sendable)
    (isOpen : hub.outboxClosed? connection.client = some false)
    (unnamed : hub.store.file? "" = none) :
    call.Answered connection.client hub.store
      (hub.answers (connection.receiving request))
      (hub.serveOne (connection.receiving request)).2.2.store
      (hub.serveOne (connection.receiving request)).1 := by
  rcases hub.reads_receiving connection sendable with
    read | ⟨error, response, read, answers, refusal⟩
  · have settles := Scope.settles_dispatch connection.client request
      (hub.scope (connection.receiving request))
    have answered := Call.answered_of_settles blocks asks settles unnamed
    rw [serveOne_stays_of_read read isOpen, store_serveOne_of_read read,
      Hub.answers, read]
    exact answered
  · rw [answers]
    exact .of_refusal blocks refusal (store_serveOne_of_error read) _

/-- Serving the request of a call makes nobody wait but its client, and that
for the lock that the call asks for. -/
theorem awaits_of_serveOne (consistent : hub.store.Consistent) {call : Call}
    {request : Request} (blocks : call.blocks = true)
    (asks : call.request? = some request) (sendable : request.Sendable)
    {client : ClientId} {path : String}
    (awaits : (hub.serveOne
      (connection.receiving request)).2.2.store.Awaits client path) :
    hub.store.Awaits client path ∨
      client = connection.client ∧ call.lockPath? = some path := by
  cases hub.serves_serveOne (connection.receiving request) with
  | opened _ _ extended => exact Or.inl (extended.store ▸ awaits)
  | quiet _ extended => exact Or.inl (extended.store ▸ awaits)
  | carried operation asked _ _ extended =>
      rw [extended.store] at awaits
      rcases Store.awaits_of_perform consistent operation awaits with
        earlier | seeks
      · exact Or.inl earlier
      · right
        rcases hub.reads_receiving connection sendable with
          read | ⟨error, response, read, -, -⟩
        · rw [asked?, read] at asked
          obtain ⟨wants, named, same⟩ :=
            Request.wantsLock_of_asks asked seeks
          exact ⟨same, (Call.lockPath?_eq_some_iff blocks asks).mpr
            ⟨wants, named⟩⟩
        · rw [asked?, read] at asked
          cases asked

end Serving

section Notices

variable {hub : Hub} (consistent : hub.store.Consistent)
  (operation : StoreOperation) {client : ClientId}

include consistent

theorem noticesTo_of_kept
    (kept : ∀ path, hub.store.Awaits client path →
      (hub.store.perform operation).2.file? path ≠ none) :
    hub.noticesTo (hub.store.perform operation).1.orphans client = [] := by
  unfold noticesTo
  split
  · rw [List.map_eq_nil_iff, List.filter_eq_nil_iff]
    rintro ⟨other, path⟩ listed same
    obtain rfl : other = client := of_decide_eq_true same
    obtain ⟨awaits, gone⟩ :=
      (Store.mem_orphans_iff consistent operation _).mp listed
    exact kept path awaits gone
  · rfl

/-- Whoever lost the only file that it waited for gets one notice. -/
theorem noticesTo_of_lost (inOrder : hub.store.QueuesInOrder)
    (able : hub.contactable client = true) {path : String}
    (awaits : hub.store.Awaits client path)
    (only : ∀ other, hub.store.Awaits client other → other = path)
    (lost : (hub.store.perform operation).2.file? path = none) :
    hub.noticesTo (hub.store.perform operation).1.orphans client =
      [goneNotice path] := by
  have orphans_iff (orphan : Orphan) :=
    Store.mem_orphans_iff consistent operation orphan
  have nodup := Store.nodup_orphans consistent
    (fun path file found => (inOrder path file found).nodup) operation
  have single : ((hub.store.perform operation).1.orphans.filter
      fun orphan => orphan.client = client) = [{ client, path }] := by
    apply eq_singleton_of_nodup (nodup.filter _)
    · exact List.mem_filter.mpr
        ⟨(orphans_iff ⟨client, path⟩).mpr ⟨awaits, lost⟩, decide_eq_true rfl⟩
    · rintro ⟨named, other⟩ listed
      obtain ⟨orphaned, same⟩ := List.mem_filter.mp listed
      obtain rfl : named = client := of_decide_eq_true same
      rw [only other ((orphans_iff ⟨named, other⟩).mp orphaned).1]
  rw [noticesTo, if_pos able, single]
  rfl

end Notices

end Hub

end FileDepot
