import FileDepot.Proofs.IndexLaws
import FileDepot.Serving

/-!
# What reaches the outboxes

Sending a response, to one client or to many, changes nothing but outboxes,
and those only by adding at the end.  A response that answers no request
reaches exactly the clients that are registered and whose outbox is open.
-/

namespace FileDepot

namespace Outbox

theorem pushAll_open {outbox : Outbox} (isOpen : outbox.isClosed = false)
    (responses : List Response) :
    pushAll responses outbox =
      (.ok (),
        { queue :=
            { outbox.queue with items := outbox.queue.items ++ responses } }) := by
  rcases outbox with ⟨items, closed⟩
  cases isOpen
  induction responses generalizing items with
  | nil => simp [pushAll]
  | cons response rest ih =>
      simp only [pushAll, push, HandoffQueue.push, Bool.false_eq_true,
        if_false]
      rw [ih]
      simp

theorem pushAll_closed {outbox : Outbox} (isClosed : outbox.isClosed = true)
    (responses : List Response) :
    (pushAll responses outbox).2 = outbox := by
  rcases outbox with ⟨items, closed⟩
  cases isClosed
  cases responses with
  | nil => rfl
  | cons response rest => rfl

theorem push_closed_fails {outbox : Outbox}
    (isClosed : outbox.isClosed = true) (response : Response) :
    (pushAll [response] outbox).1 = .error .peerClosed := by
  rcases outbox with ⟨items, closed⟩
  cases isClosed
  rfl

end Outbox

namespace Hub

/-- The responses queued for a client. -/
def queued (hub : Hub) (client : ClientId) : List Response :=
  match hub.outbox? client with
  | none => []
  | some outbox => outbox.queue.items

/-- Whether the outbox of a client is closed, if it has one. -/
def outboxClosed? (hub : Hub) (client : ClientId) : Option Bool :=
  (hub.outbox? client).map Outbox.isClosed

/-- Whether a client can be sent a response that answers no request. -/
def contactable (hub : Hub) (client : ClientId) : Bool :=
  hub.registry.contains client && hub.registry.reaches client &&
    hub.outboxClosed? client == some false

theorem outboxClosed?_openOutbox (hub : Hub) (client other : ClientId) :
    (hub.openOutbox client).outboxClosed? other =
      if other = client then some false else hub.outboxClosed? other := by
  simp only [openOutbox, outboxClosed?, outbox?, Index.find?_insert]
  split <;> rfl

theorem outboxClosed?_closeOutbox (hub : Hub) (client other : ClientId) :
    (hub.closeOutbox client).outboxClosed? other =
      if other = client then (hub.outboxClosed? other).map fun _ => true
      else hub.outboxClosed? other := by
  simp only [closeOutbox, outboxClosed?, outbox?, Index.find?_modify]
  split
  · simp only [Option.map_map, Function.comp_def]
    rfl
  · rfl

theorem wasOpen_of_closeOutbox {hub : Hub} {client other : ClientId}
    (isOpen : (hub.closeOutbox client).outboxClosed? other = some false) :
    hub.outboxClosed? other = some false := by
  rw [outboxClosed?_closeOutbox] at isOpen
  split at isOpen
  · simp at isOpen
  · exact isOpen

theorem queued_openOutbox (hub : Hub) (client other : ClientId) :
    (hub.openOutbox client).queued other =
      if other = client then [] else hub.queued other := by
  simp only [openOutbox, queued, outbox?, Index.find?_insert]
  by_cases same : other = client
  · simp [same]
  · simp [same]

theorem queued_closeOutbox (hub : Hub) (client other : ClientId) :
    (hub.closeOutbox client).queued other = hub.queued other := by
  simp only [closeOutbox, queued, outbox?, Index.find?_modify]
  by_cases same : other = client
  · rw [if_pos same]
    cases hub.outboxes.find? other <;> rfl
  · rw [if_neg same]

/-- Responses for one client. -/
def onlyFor (client : ClientId) (responses : List Response)
    (other : ClientId) : List Response :=
  if other = client then responses else []

/-- Nothing changed but that outboxes took more responses. -/
structure Extends (before : Hub) (added : ClientId → List Response)
    (after : Hub) : Prop where
  store : after.store = before.store
  registry : after.registry = before.registry
  lockTrigger : after.lockTrigger = before.lockTrigger
  outboxClosed? : ∀ client, after.outboxClosed? client =
    before.outboxClosed? client
  queued : ∀ client, after.queued client =
    before.queued client ++ added client

namespace Extends

theorem refl (hub : Hub) : Extends hub (fun _ => []) hub :=
  ⟨rfl, rfl, rfl, fun _ => rfl, by simp⟩

theorem wasOpen {before after : Hub} {added : ClientId → List Response}
    (extended : Extends before added after) (client : ClientId)
    (isOpen : after.outboxClosed? client = some false) :
    before.outboxClosed? client = some false :=
  extended.outboxClosed? client ▸ isOpen

theorem trans {first second third : Hub}
    {added more : ClientId → List Response}
    (earlier : Extends first added second)
    (later : Extends second more third) :
    Extends first (fun client => added client ++ more client) third where
  store := later.store.trans earlier.store
  registry := later.registry.trans earlier.registry
  lockTrigger := later.lockTrigger.trans earlier.lockTrigger
  outboxClosed? client :=
    (later.outboxClosed? client).trans (earlier.outboxClosed? client)
  queued client := by
    rw [later.queued, earlier.queued, List.append_assoc]

theorem contactable_eq {before after : Hub}
    {added : ClientId → List Response}
    (extended : Extends before added after) :
    after.contactable = before.contactable := by
  funext client
  rw [contactable, extended.registry, extended.outboxClosed?, contactable]

end Extends

theorem contactable_iff {hub : Hub} {client : ClientId} :
    hub.contactable client = true ↔
      hub.registry.contains client = true ∧
        hub.registry.reaches client = true ∧
        hub.outboxClosed? client = some false := by
  simp [contactable, and_assoc]

theorem extends_push_open {hub : Hub} {client : ClientId}
    (isOpen : hub.outboxClosed? client = some false)
    (responses : List Response) :
    (hub.push client responses).1 = .ok () ∧
      Extends hub (onlyFor client responses)
        (hub.push client responses).2 := by
  obtain ⟨outbox, found, opened⟩ := Option.map_eq_some_iff.mp isOpen
  have goes := Outbox.pushAll_open opened responses
  simp only [push, found, goes, true_and]
  refine ⟨rfl, rfl, rfl, ?_, ?_⟩
  · intro other
    simp only [outboxClosed?, outbox?, Index.find?_insert]
    by_cases same : other = client
    · subst same
      rw [outbox?] at found
      simp [found, Outbox.isClosed]
    · simp [same]
  · intro other
    simp only [queued, outbox?, Index.find?_insert, onlyFor]
    by_cases same : other = client
    · subst same
      rw [outbox?] at found
      simp [found]
    · simp [same]

theorem extends_push_closed {hub : Hub} {client : ClientId}
    (isClosed : hub.outboxClosed? client ≠ some false)
    (responses : List Response) :
    Extends hub (fun _ => []) (hub.push client responses).2 := by
  cases found : hub.outbox? client with
  | none =>
      rw [push, found]
      exact .refl hub
  | some outbox =>
      have closed : outbox.isClosed = true := by
        simpa [outboxClosed?, found] using isClosed
      have goes := Outbox.pushAll_closed closed responses
      simp only [push, found, goes]
      rw [outbox?] at found
      refine ⟨rfl, rfl, rfl, ?_, ?_⟩
      · intro other
        simp only [outboxClosed?, outbox?, Index.find?_insert]
        by_cases same : other = client
        · simp [same, found]
        · simp [same]
      · intro other
        simp only [queued, outbox?, Index.find?_insert]
        by_cases same : other = client
        · simp [same, found]
        · simp [same]

theorem push_closed_fails {hub : Hub} {client : ClientId}
    (isClosed : hub.outboxClosed? client ≠ some false)
    (response : Response) :
    (hub.push client [response]).1 = .error .peerClosed := by
  cases found : hub.outbox? client with
  | none => simp [push, found]
  | some outbox =>
      have closed : outbox.isClosed = true := by
        simpa [outboxClosed?, found] using isClosed
      simp [push, found, Outbox.push_closed_fails closed response]

theorem push_nil (hub : Hub) (client : ClientId) :
    (hub.push client []).2 = hub := by
  cases found : hub.outbox? client with
  | none => rw [push, found]
  | some outbox =>
      have same := hub.outboxes.insert_found found
      simp only [push, found, Outbox.pushAll, same]

theorem push_nil_ok {hub : Hub} {client : ClientId}
    (known : hub.outboxClosed? client ≠ none) :
    (hub.push client []).1 = .ok () := by
  cases found : hub.outbox? client with
  | none => simp [outboxClosed?, found] at known
  | some outbox => simp [push, found, Outbox.pushAll]

/-- Responses may be queued one at a time. -/
theorem push_cons_of_queued {hub next : Hub} {client : ClientId}
    {response : Response}
    (queued : hub.push client [response] = (.ok (), next))
    (rest : List Response) :
    hub.push client (response :: rest) = next.push client rest := by
  cases found : hub.outbox? client with
  | none => simp [push, found] at queued
  | some outbox =>
      rcases pushed : outbox.push response with ⟨error | done, filled⟩
      · simp [push, found, Outbox.pushAll, pushed] at queued
      · simp only [push, found, Outbox.pushAll, pushed, Prod.mk.injEq,
          true_and] at queued
        subst queued
        have here : outbox?
            { hub with outboxes := hub.outboxes.insert client filled }
              client = some filled := by
          rw [outbox?, Index.find?_insert, if_pos rfl]
        simp only [push, found, here, Outbox.pushAll, pushed,
          Index.insert_insert]

/-- After a refusal nothing more is queued. -/
theorem push_cons_of_refused {hub next : Hub} {client : ClientId}
    {response : Response} {error : Error}
    (refused : hub.push client [response] = (.error error, next))
    (rest : List Response) :
    hub.push client (response :: rest) = (.error error, next) := by
  cases found : hub.outbox? client with
  | none => simpa [push, found] using refused
  | some outbox =>
      rcases pushed : outbox.push response with ⟨failure | done, filled⟩
      · simpa [push, found, Outbox.pushAll, pushed] using refused
      · simp [push, found, Outbox.pushAll, pushed] at refused

theorem send_contactable {hub : Hub} {client : ClientId}
    (contactable : hub.contactable client = true) (response : Response) :
    (hub.send client response).1 = .ok () ∧
      Extends hub (onlyFor client [response])
        (hub.send client response).2 := by
  obtain ⟨registered, reached, isOpen⟩ := contactable_iff.mp contactable
  have goes : hub.send client response = hub.push client [response] := by
    simp [send, registered, reached]
  rw [goes]
  exact extends_push_open isOpen [response]

theorem send_uncontactable {hub : Hub} {client : ClientId}
    (uncontactable : hub.contactable client = false) (response : Response) :
    (∃ error, (hub.send client response).1 = .error error) ∧
      Extends hub (fun _ => []) (hub.send client response).2 := by
  unfold send
  by_cases registered : hub.registry.contains client = true
  · by_cases reached : hub.registry.reaches client = true
    · have isClosed : hub.outboxClosed? client ≠ some false := by
        intro isOpen
        simp [contactable, registered, reached, isOpen] at uncontactable
      simp only [registered, reached, Bool.not_true, Bool.false_eq_true,
        if_false]
      exact ⟨⟨_, push_closed_fails isClosed response⟩,
        extends_push_closed isClosed [response]⟩
    · simp only [registered, reached, Bool.not_true, Bool.false_eq_true,
        if_false, Bool.not_false, if_true]
      exact ⟨⟨_, rfl⟩, .refl hub⟩
  · simp only [registered, Bool.not_false, if_true]
    exact ⟨⟨_, rfl⟩, .refl hub⟩

theorem push_cases (hub : Hub) (client : ClientId) (response : Response) :
    (∃ next, hub.push client [response] = (.ok (), next) ∧
      hub.outboxClosed? client = some false ∧
      Extends hub (onlyFor client [response]) next) ∨
    ∃ error next, hub.push client [response] = (.error error, next) ∧
      hub.outboxClosed? client ≠ some false ∧
      Extends hub (fun _ => []) next := by
  by_cases isOpen : hub.outboxClosed? client = some false
  · obtain ⟨queued, extended⟩ := extends_push_open isOpen [response]
    exact Or.inl ⟨_, Prod.ext queued rfl, isOpen, extended⟩
  · exact Or.inr ⟨_, _, Prod.ext (push_closed_fails isOpen response) rfl,
      isOpen, extends_push_closed isOpen [response]⟩

/-- A response that answers no request is queued if its client can be
contacted, and lost otherwise. -/
theorem send_cases (hub : Hub) (client : ClientId) (response : Response) :
    (∃ next, hub.send client response = (.ok (), next) ∧
      hub.contactable client = true ∧
      Extends hub (onlyFor client [response]) next) ∨
    ∃ error next, hub.send client response = (.error error, next) ∧
      Extends hub (fun _ => []) next := by
  cases able : hub.contactable client with
  | true =>
      obtain ⟨sent, extended⟩ := send_contactable able response
      exact Or.inl ⟨_, Prod.ext sent rfl, rfl, extended⟩
  | false =>
      obtain ⟨⟨error, failed⟩, extended⟩ := send_uncontactable able response
      exact Or.inr ⟨error, _, Prod.ext failed rfl, extended⟩

/-- The notice that a file is gone. -/
def goneNotice (path : String) : Response where
  status := .notFound
  path := path

/-- The notices that reach a client when files are lost. -/
def noticesTo (hub : Hub) (orphans : List Orphan) (client : ClientId) :
    List Response :=
  if hub.contactable client then
    (orphans.filter fun orphan => orphan.client = client).map fun orphan =>
      goneNotice orphan.path
  else
    []

@[simp] theorem noticesTo_nil (hub : Hub) :
    hub.noticesTo [] = fun _ => [] := by
  funext client
  simp [noticesTo]

theorem extends_notifyOrphans (orphans : List Orphan) (hub : Hub) :
    Extends hub (hub.noticesTo orphans) (notifyOrphans orphans hub) := by
  induction orphans generalizing hub with
  | nil =>
      rw [noticesTo_nil]
      exact .refl hub
  | cons orphan others ih =>
      have later := ih (hub.send orphan.client (goneNotice orphan.path)).2
      cases able : hub.contactable orphan.client with
      | true =>
          have first := (send_contactable able (goneNotice orphan.path)).2
          have both := first.trans later
          have added : (fun client =>
              onlyFor orphan.client [goneNotice orphan.path] client ++
                (hub.send orphan.client (goneNotice orphan.path)).2.noticesTo
                  others client) = hub.noticesTo (orphan :: others) := by
            funext client
            simp only [noticesTo, first.contactable_eq, onlyFor]
            by_cases same : client = orphan.client
            · subst same
              simp [able]
            · simp [same, Ne.symm same]
          exact added ▸ both
      | false =>
          have first := (send_uncontactable able (goneNotice orphan.path)).2
          have both := first.trans later
          have added : (fun client => [] ++
                (hub.send orphan.client (goneNotice orphan.path)).2.noticesTo
                  others client) = hub.noticesTo (orphan :: others) := by
            funext client
            simp only [noticesTo, first.contactable_eq, List.nil_append]
            by_cases same : orphan.client = client
            · subst same
              simp [able]
            · simp [same]
          exact added ▸ both

end Hub

end FileDepot
