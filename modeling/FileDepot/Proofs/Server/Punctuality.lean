import FileDepot.Proofs.Server.Announcements

/-!
# No wait ends before it was announced

Every end of a wait that is queued for a client ends a wait that the client
was told of before, however early the lock was handed on or the file was lost.
-/

namespace FileDepot

namespace Mailroom

/-- The request that is recorded for a client and a path is the last by which
the client came into the queue there. -/
structure LastEntered (room : Mailroom) (client : ClientId) (path : String) :
    Prop where
  entry : ∃ service, room.Served (room.entered client path) service ∧
    service.client = client ∧ service.Enters path
  last : ∀ number service, room.Served number service →
    service.client = client → service.Enters path →
    number ≤ room.entered client path

theorem LastEntered.dispatch {room : Mailroom} {connection kept : Connection}
    {read : Except Error Request} {reply : Reply} {hub : Hub}
    (consistent : room.hub.store.Consistent)
    (inOrder : room.hub.store.QueuesInOrder)
    (goes : room.hub.dispatchRead connection read = (reply, kept, hub))
    {client : ClientId} {path : String}
    (entered : room.hub.store.Awaits client path →
      room.LastEntered client path)
    (awaits : hub.store.Awaits client path) :
    (room.dispatched connection.client read reply kept hub).LastEntered
      client path := by
  by_cases before : room.hub.store.Awaits client path
  · obtain ⟨⟨service, served, enters⟩, last⟩ := entered before
    have same : (room.dispatched connection.client read reply kept
        hub).entered client path = room.entered client path :=
      if_neg fun fresh => fresh.2 before
    refine ⟨⟨service, ?_, enters⟩, ?_⟩
    · rw [same]
      exact (served_append_iff rfl).mpr (Or.inl served)
    · intro number other listed owner enters
      rw [same]
      rcases (served_append_iff rfl).mp listed with old | ⟨-, rfl⟩
      · exact last number other old owner enters
      · exact absurd (owner ▸ before) enters.before
  · obtain ⟨rfl, -, asked⟩ :=
      Hub.announced_of_entry consistent inOrder goes before awaits
    have fresh : (room.dispatched connection.client read reply kept
        hub).entered connection.client path = room.journal.length :=
      if_pos ⟨awaits, before⟩
    refine ⟨⟨⟨_, read, room.hub.store, hub.store, reply⟩, ?_, rfl,
      asked, before, awaits⟩, ?_⟩
    · rw [fresh]
      exact (served_append_iff rfl).mpr (Or.inr ⟨rfl, rfl⟩)
    · intro number other listed _ _
      rw [fresh]
      have among := listed.lt
      simp only [dispatched, List.length_append, List.length_singleton]
        at among
      omega

theorem letter_before_or_last {earlier front back : List Letter}
    {letter last : Letter}
    (mail : earlier ++ [last] = front ++ letter :: back) :
    (∃ rest, earlier = front ++ letter :: rest) ∨
      earlier = front ∧ last = letter := by
  rcases List.eq_nil_or_concat back with rfl | ⟨rest, final, rfl⟩
  · obtain ⟨same, final⟩ := List.append_inj' mail rfl
    exact Or.inr ⟨same, List.head_eq_of_cons_eq final⟩
  · rw [List.concat_eq_append, ← List.cons_append, ← List.append_assoc] at mail
    exact Or.inl ⟨rest, (List.append_inj' mail rfl).1⟩

/-- A response ends the wait that the request of a number began: it is one of
the two notices, and what the client was told before it includes that it has
to wait. -/
structure EndsWait (room : Mailroom) (client : ClientId)
    (front : List Letter) (number : Nat) (response : Response) : Prop where
  notice : response = Hub.grantNotice response.path ∨
    response = Hub.goneNotice response.path
  entry : ∃ service, room.Served number service ∧ service.client = client ∧
    service.Enters response.path
  announced : ⟨.reply number, pendingNotice response.path⟩ ∈ front

/-- Every wait was announced before its end, and will be before it is. -/
structure Punctual (room : Mailroom) : Prop where
  sound : room.hub.store.Sound
  inOrder : room.hub.store.QueuesInOrder
  staffed : room.Staffed
  tidy : room.Tidy
  entered : ∀ client path, room.hub.store.Awaits client path →
    room.LastEntered client path
  announced : ∀ number client path, room.Outstanding number client path →
    room.Announced number client path
  sequenced : ∀ client front number response back,
    room.mail client = front ++ ⟨.ending number, response⟩ :: back →
    room.EndsWait client front number response

theorem punctual_new (limits : Limits) : (new limits).Punctual where
  sound := Store.sound_new limits
  inOrder := Store.queuesInOrder_new limits
  staffed := staffed_new limits
  tidy := tidy_new limits
  entered client path awaits := by
    obtain ⟨file, found, -⟩ := awaits
    cases found
  announced number client path outstanding := by
    cases outstanding with
    | waiting awaits =>
        obtain ⟨file, found, -⟩ := awaits
        cases found
    | granted pending => cases pending
    | orphaned works => cases works
  sequenced client front number response back mail :=
    absurd (congrArg List.length mail) (by simp [new])

namespace Punctual

variable {room after : Mailroom} (punctual : room.Punctual)

include punctual

theorem entered_step (step : room.Step after) {client : ClientId}
    {path : String} (awaits : after.hub.store.Awaits client path) :
    after.LastEntered client path := by
  rcases step.awaits punctual.sound.consistent punctual.staffed with
    ⟨connection, kept, read, reply, hub, goes, rfl⟩ |
      ⟨journal, entered, waited⟩
  · exact .dispatch punctual.sound.consistent punctual.inOrder goes
      (punctual.entered client path) awaits
  · obtain ⟨entry, last⟩ :=
      punctual.entered client path (waited client path awaits)
    constructor <;> simpa only [Served, journal, entered]

/-- An end that is told now comes behind its announcement. -/
theorem endsWait_of_outstanding {number : Nat} {client : ClientId}
    {path : String} {response : Response}
    (outstanding : room.Outstanding number client path)
    (notice : response = Hub.grantNotice path ∨
      response = Hub.goneNotice path)
    (free : room.reserved client = false)
    (isOpen : room.hub.outboxClosed? client = some false) :
    room.EndsWait client (room.mail client) number response := by
  obtain ⟨-, entry, told⟩ := punctual.announced number client path outstanding
  have named : response.path = path := by
    rcases notice with rfl | rfl <;> rfl
  subst named
  refine ⟨notice, entry, ?_⟩
  rcases told with told | next | isClosed
  · exact told
  · -- A worker that still had to announce the wait would hold the outbox.
    rw [punctual.staffed.left_of_free free number] at next
    cases next
  · exact absurd isOpen isClosed

theorem sequenced_step (step : room.Step after) {client : ClientId}
    {front back : List Letter} {number : Nat} {response : Response}
    (mail : after.mail client =
      front ++ ⟨.ending number, response⟩ :: back) :
    after.EndsWait client front number response := by
  suffices ends : room.EndsWait client front number response by
    obtain ⟨service, served, enters⟩ := ends.entry
    exact ⟨ends.notice, ⟨service, step.served served, enters⟩, ends.announced⟩
  have earlier := punctual.sequenced client front number response
  rcases step.mail with same | ⟨receiver, request, reply, queued⟩ |
    ⟨receiver, request, path, notice, outstanding, notices, free, isOpen,
      queued⟩
  · exact earlier back (same ▸ mail)
  · rw [queued, mailWith] at mail
    by_cases here : client = receiver
    · subst here
      rw [Function.update_self] at mail
      rcases letter_before_or_last mail with ⟨rest, old⟩ | ⟨-, same⟩
      · exact earlier rest old
      · cases same
    · rw [Function.update_of_ne here] at mail
      exact earlier back mail
  · rw [queued, mailWith] at mail
    by_cases here : client = receiver
    · subst here
      rw [Function.update_self] at mail
      rcases letter_before_or_last mail with ⟨rest, old⟩ | ⟨rfl, same⟩
      · exact earlier rest old
      · cases same
        exact punctual.endsWait_of_outstanding outstanding notices free isOpen
    · rw [Function.update_of_ne here] at mail
      exact earlier back mail

theorem step (step : room.Step after) : after.Punctual where
  sound := by
    rcases step.store with same | ⟨operation, performed⟩
    · exact same ▸ punctual.sound
    · exact performed ▸ punctual.sound.perform operation
  inOrder := by
    rcases step.store with same | ⟨operation, performed⟩
    · exact same ▸ punctual.inOrder
    · exact performed ▸
        punctual.inOrder.perform punctual.sound.consistent operation
  staffed := punctual.staffed.step step
  tidy := punctual.tidy.step punctual.staffed step
  entered _ _ := punctual.entered_step step
  announced number client path outstanding := by
    rcases outstanding.step punctual.sound punctual.inOrder punctual.staffed
      step with before | announced
    · exact (punctual.announced number client path before).step step
    · exact announced
  sequenced _ _ _ _ _ := punctual.sequenced_step step

end Punctual

theorem punctual_run (limits : Limits) (acts : List Act) :
    ((new limits).run acts).Punctual :=
  run_preserves (fun room act punctual => punctual.step (room.step_act act))
    acts (punctual_new limits)

/-- After any run of the mail room, whoever took which steps, the outbox of a
client is the end of all that was ever queued for it, in which the responses
to each of its requests stand in one piece and in order, and all of them once
they are queued, unless the outbox was closed.  Everything else in it ends a
wait, and stands behind the notice of the same wait, which is part of the reply
to the request by which the client came into the queue. -/
theorem replies_stay_whole_and_ends_follow (limits : Limits)
    (acts : List Act) (client : ClientId) :
    let room := (new limits).run acts
    (room.hub.queued client <:+ (room.mail client).map Letter.response) ∧
    (∀ number service, room.Served number service →
      service.client = client →
      ∃ front queued back, room.Filed number service front queued back) ∧
    (∀ letter ∈ room.mail client, ∀ number,
      letter.origin = .reply number →
      ∃ service, room.Served number service ∧ service.client = client) ∧
    (∀ front number response back,
      room.mail client = front ++ ⟨.ending number, response⟩ :: back →
      room.EndsWait client front number response) ∧
    ∀ path, room.hub.store.Awaits client path →
      room.LastEntered client path := by
  have punctual := punctual_run limits acts
  refine ⟨punctual.tidy.queued client, ?_, punctual.tidy.signed client,
    punctual.sequenced client, punctual.entered client⟩
  intro number service served _
  exact punctual.tidy.filed number service served

section Race

/-- A request whose reply is one response, served without a pause. -/
def answering (client : ClientId) (request : Request) : List Act :=
  [.reserve client (.ofBytes request.frame), .dispatch client, .push client,
    .drop client, .finish client]

/-- While the second client's request for a lock is being served, the first
gives the lock up, and the lock manager hands it on. -/
def handedOnEarly : List Act :=
  [.accept, .accept] ++
    answering 1 { operation := .openConnection } ++
    answering 2 { operation := .openConnection } ++
    answering 1 (.openFile "p" { create := true, lock := true }) ++
    answering 2 (.openFile "p" {}) ++
    [.reserve 2
        (.ofBytes (Request.frame { operation := .lockFile, path := "p" })),
      .dispatch 2] ++
    answering 1 { operation := .unlockFile, path := "p" } ++
    [.manage, .manage, .manage]

/-- The lock is the second client's before it hears that it has to wait, and
it hears so all the same before it hears of the lock. -/
example :
    let early := (new {}).run handedOnEarly
    let late := early.run [.push 2, .manage, .drop 2, .manage]
    ((early.hub.store.file? "p").bind StoredFile.owner = some 2) ∧
      early.mail 2 =
        [⟨.reply 1, { status := .success }⟩,
          ⟨.reply 3, { status := .success, path := "p" }⟩] ∧
      late.mail 2 = early.mail 2 ++
        [⟨.reply 4, { status := .lockPending, path := "p" }⟩,
          ⟨.ending 4, { status := .success, path := "p" }⟩] := by
  decide +kernel

end Race

end Mailroom

end FileDepot
