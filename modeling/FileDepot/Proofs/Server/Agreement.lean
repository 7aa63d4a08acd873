import FileDepot.Proofs.Server.Mailroom

/-!
# Floors that agree

Two hubs agree if they differ at most in what is queued, and in whether the
lock manager is asked to run.  Requests, the lock manager and the writers of
sockets do the same to both, and queueing something on one of them leaves them
in agreement.
-/

namespace FileDepot

/-- Two connections differ at most in what has arrived on them. -/
def Connection.Alike (connection other : Connection) : Prop :=
  { other with incoming := connection.incoming } = connection

theorem Connection.Alike.receive {connection other : Connection}
    (alike : connection.Alike other) (incoming : Source) :
    { other with incoming } = { connection with incoming } :=
  congrArg (fun same : Connection => { same with incoming }) alike

namespace Hub

/-- Two hubs differ at most in what is queued, and in whether the lock manager
is asked to run. -/
structure Agrees (hub other : Hub) : Prop where
  store : other.store = hub.store
  registry : other.registry = hub.registry
  outboxClosed? : ∀ client, other.outboxClosed? client =
    hub.outboxClosed? client

/-- What cannot be read as a request is refused everywhere alike. -/
theorem dispatchRead_error (connection : Connection) (error : Error) :
    ∃ refusal, ∀ hub : Hub,
      hub.dispatchRead connection (.error error) =
        (refusal, connection, hub) := by
  cases error <;> exact ⟨_, fun _ => rfl⟩

theorem Extends.agrees {before after : Hub}
    {added : ClientId → List Response}
    (extended : Extends before added after) : before.Agrees after :=
  ⟨extended.store, extended.registry, extended.outboxClosed?⟩

namespace Agrees

variable {hub other after : Hub}

theorem refl (hub : Hub) : hub.Agrees hub :=
  ⟨rfl, rfl, fun _ => rfl⟩

theorem symm (agrees : hub.Agrees other) : other.Agrees hub :=
  ⟨agrees.store.symm, agrees.registry.symm,
    fun client => (agrees.outboxClosed? client).symm⟩

theorem trans (agrees : hub.Agrees other) (alsoAgrees : other.Agrees after) :
    hub.Agrees after :=
  ⟨alsoAgrees.store.trans agrees.store,
    alsoAgrees.registry.trans agrees.registry,
    fun client =>
      (alsoAgrees.outboxClosed? client).trans (agrees.outboxClosed? client)⟩

variable (agrees : hub.Agrees other) (client : ClientId)

include agrees

theorem openOutbox :
    (hub.openOutbox client).Agrees (other.openOutbox client) := by
  refine ⟨agrees.store, agrees.registry, fun someone => ?_⟩
  rw [outboxClosed?_openOutbox, outboxClosed?_openOutbox,
    agrees.outboxClosed?]

theorem closeOutbox :
    (hub.closeOutbox client).Agrees (other.closeOutbox client) := by
  refine ⟨agrees.store, agrees.registry, fun someone => ?_⟩
  rw [outboxClosed?_closeOutbox, outboxClosed?_closeOutbox,
    agrees.outboxClosed?]

theorem unregister : Agrees
    { hub with registry := hub.registry.unregister client }
    { other with registry := other.registry.unregister client } :=
  ⟨agrees.store, congrArg (·.unregister client) agrees.registry,
    agrees.outboxClosed?⟩

theorem contactable_eq : other.contactable = hub.contactable := by
  funext client
  rw [contactable, agrees.registry, agrees.outboxClosed?, contactable]

theorem readFrom_eq : other.readFrom = hub.readFrom := by
  funext connection
  rw [readFrom, agrees.store, readFrom]

/-- What was read is answered alike. -/
theorem dispatchRead {connection kept : Connection}
    {read : Except Error Request} {reply : Reply}
    (goes : hub.dispatchRead connection read = (reply, kept, after)) :
    ∃ behind, other.dispatchRead connection read = (reply, kept, behind) ∧
      after.Agrees behind := by
  cases read with
  | ok request =>
      have sameScope : other.scope connection = hub.scope connection := by
        rw [scope, agrees.store, agrees.registry, scope]
      rcases dispatched : (hub.scope connection).dispatch connection.client
        request with ⟨answer, scope⟩
      simp only [Hub.dispatchRead, sameScope, dispatched] at goes ⊢
      cases goes
      exact ⟨_, rfl, rfl, rfl, agrees.outboxClosed?⟩
  | error error =>
      obtain ⟨refusal, refuses⟩ := dispatchRead_error connection error
      rw [refuses] at goes
      cases goes
      exact ⟨other, refuses other, agrees⟩

end Agrees

theorem agrees_deliverReply (hub : Hub) (client : ClientId) (reply : Reply) :
    hub.Agrees (hub.deliverReply client reply).2 :=
  have extended := hub.extends_deliverReply client reply
  ⟨extended.store, extended.registry, extended.outboxClosed?⟩

theorem lockTrigger_deliverReply (hub : Hub) (client : ClientId)
    (reply : Reply) :
    (hub.deliverReply client reply).2.lockTrigger =
      (hub.lockTrigger || reply.released) :=
  (hub.extends_deliverReply client reply).lockTrigger

/-- A connection ends because of its reply, or because some of the reply is
refused. -/
theorem deliverReply_ends {hub : Hub} {client : ClientId} {reply : Reply}
    (known : hub.outboxClosed? client ≠ none)
    (ends : (hub.deliverReply client reply).1 = false) :
    reply.close = true ∨
      reply.responses ≠ [] ∧ hub.outboxClosed? client ≠ some false := by
  by_cases isOpen : hub.outboxClosed? client = some false
  · rw [deliverReply_stays isOpen] at ends
    exact Or.inl (by simpa using ends)
  · by_cases empty : reply.responses = []
    · rw [deliverReply_eq, empty] at ends
      simp only [push_nil_ok known, Except.isOk, Except.toBool,
        Bool.and_true] at ends
      exact Or.inl (by simpa using ends)
    · exact Or.inr ⟨empty, isOpen⟩

theorem readFrom_of_limits {hub after : Hub}
    (limits : after.store.limits = hub.store.limits) :
    after.readFrom = hub.readFrom := by
  funext connection
  rw [readFrom, limits, readFrom]

end Hub

namespace Floor

/-- Two floors agree in all but their seats. -/
structure Agrees (floor other : Floor) : Prop where
  hub : floor.hub.Agrees other.hub
  nextClient : other.nextClient = floor.nextClient
  manager : other.manager = floor.manager

theorem Agrees.manage {floor other : Floor} (agrees : floor.Agrees other) :
    floor.manage.Agrees other.manage := by
  obtain ⟨hub, nextClient, manager⟩ := agrees
  cases phase : floor.manager with
  | waiting =>
      simp only [Floor.manage, phase, manager]
      exact ⟨⟨hub.store, hub.registry, hub.outboxClosed?⟩, nextClient, rfl⟩
  | granting =>
      simp only [Floor.manage, phase, manager, hub.store]
      exact ⟨⟨rfl, hub.registry, hub.outboxClosed?⟩, nextClient, rfl⟩
  | undoing grant others undelivered =>
      simp only [Floor.manage, phase, manager, hub.store]
      exact ⟨⟨rfl, hub.registry, hub.outboxClosed?⟩, nextClient, rfl⟩
  | telling grants undelivered =>
      rw [phase] at manager
      cases grants with
      | nil =>
          simp only [Floor.manage, phase, manager]
          exact ⟨hub, nextClient, rfl⟩
      | cons grant others =>
          have sameAble := congrFun hub.contactable_eq grant.client
          cases able : floor.hub.contactable grant.client with
          | true =>
              obtain ⟨sent, extended⟩ :=
                Hub.send_contactable able (Hub.grantNotice grant.path)
              obtain ⟨alsoSent, alsoExtended⟩ := Hub.send_contactable
                (sameAble.trans able) (Hub.grantNotice grant.path)
              rw [manage_told phase (Prod.ext sent rfl),
                manage_told manager (Prod.ext alsoSent rfl)]
              exact ⟨extended.agrees.symm.trans
                (hub.trans alsoExtended.agrees), nextClient, rfl⟩
          | false =>
              obtain ⟨⟨error, failed⟩, extended⟩ :=
                Hub.send_uncontactable able (Hub.grantNotice grant.path)
              obtain ⟨⟨error, alsoFailed⟩, alsoExtended⟩ :=
                Hub.send_uncontactable (sameAble.trans able)
                  (Hub.grantNotice grant.path)
              rw [manage_untold phase (Prod.ext failed rfl),
                manage_untold manager (Prod.ext alsoFailed rfl)]
              exact ⟨extended.agrees.symm.trans
                (hub.trans alsoExtended.agrees), nextClient, rfl⟩

/-- The lock manager puts the trigger back when it begins to run. -/
theorem lockTrigger_manage (floor : Floor) :
    floor.manage.hub.lockTrigger =
      if floor.manager = .waiting then false else floor.hub.lockTrigger := by
  cases phase : floor.manager with
  | waiting | granting | undoing => simp [manage, phase]
  | telling grants undelivered =>
      cases grants with
      | nil => simp [manage, phase]
      | cons grant others =>
          rcases floor.hub.send_cases grant.client
              (Hub.grantNotice grant.path) with
            ⟨hub, sent, -, extended⟩ | ⟨error, hub, failed, extended⟩
          · simpa [manage_told phase sent] using extended.lockTrigger
          · simpa [manage_untold phase failed] using extended.lockTrigger

end Floor

end FileDepot
