import FileDepot.Proofs.Server.Agreement
import FileDepot.Proofs.Server.StrandedLocks

/-!
# Requests are served as if one at a time

While a worker of the mail room serves a request, others take steps of their
own.  All the same every run of the mail room goes with a run of the floor, on
which a request is served in one move.  That move is made when the request is
dispatched; reading it before, and queueing what comes of it afterwards, is no
move at all.

The floor is ahead of the mail room in what is queued, in asking the lock
manager to run, and in ending a connection.  Nothing that is done to the store
or to the registry depends on these.  So whatever holds of the store and the
registry on every floor holds in every mail room.  The converse is
`Mailroom.serves_undisturbed`: what a move of the floor serves, an undisturbed
worker can serve in the mail room.
-/

namespace FileDepot

namespace Floor

/-- The service that a move amounts to, if it serves a request. -/
def service? (floor : Floor) : Move → Option Service
  | .serve client incoming =>
      match floor.seats.find? client with
      | some ⟨connection, .inUse⟩ =>
          let (read, behind) := floor.hub.readFrom { connection with incoming }
          let (reply, _, after) := floor.hub.dispatchRead behind read
          some ⟨client, read, floor.hub.store, after.store, reply⟩
      | _ => none
  | _ => none

/-- All services of a run, in their order. -/
def services : List Move → Floor → List Service
  | [], _ => []
  | move :: later, floor =>
      (floor.service? move).toList ++ services later (floor.move move)

theorem services_append (first second : List Move) (floor : Floor) :
    floor.services (first ++ second) =
      floor.services first ++ (floor.run first).services second := by
  induction first generalizing floor with
  | nil => rfl
  | cons move later ih =>
      simp only [List.cons_append, services, run, ih, List.append_assoc]

end Floor

/-- Whether a worker with this job is still to ask the lock manager to run. -/
def Job.fires : Job → Bool
  | asking _ => false
  | replying _ _ errand | notifying errand => errand.released

/-- The seats of a client in the mail room and on the floor, by what its worker
in the mail room is at.  On the floor a request is done with once it is
dispatched. -/
inductive Counterpart (hub : Hub) (client : ClientId) :
    Option Job → Option Seat → Option Seat → Prop
  | absent : Counterpart hub client none none none
  /-- A reply that was refused ends a connection in the mail room only. -/
  | idle {connection other : Connection} {stage otherStage : Stage}
      (alike : connection.Alike other)
      (stands : otherStage = stage ∨ stage = .ended ∧ otherStage = .inUse) :
      Counterpart hub client none (some ⟨connection, stage⟩)
        (some ⟨other, otherStage⟩)
  | asking {connection other : Connection} {read : Except Error Request}
      {incoming : Source}
      (heard : hub.readFrom { other with incoming } = (read, connection)) :
      Counterpart hub client (some (.asking read))
        (some ⟨connection, .inUse⟩) (some ⟨other, .inUse⟩)
  /-- What has ended on the floor will end in the mail room. -/
  | replying {connection other : Connection} {stage : Stage} {number : Nat}
      {left : List Response} {errand : Errand}
      (alike : connection.Alike other)
      (stands : stage = .inUse ∨ stage = .ended ∧ (errand.stays = false ∨
        left ≠ [] ∧ hub.outboxClosed? client ≠ some false)) :
      Counterpart hub client (some (.replying number left errand))
        (some ⟨connection, .inUse⟩) (some ⟨other, stage⟩)
  | notifying {connection other : Connection} {stage : Stage} {errand : Errand}
      (alike : connection.Alike other)
      (stands : stage = .inUse ∨ stage = .ended ∧ errand.stays = false) :
      Counterpart hub client (some (.notifying errand))
        (some ⟨connection, .inUse⟩) (some ⟨other, stage⟩)

theorem Counterpart.mono {hub after : Hub} {client : ClientId}
    {job? : Option Job} {own other : Option Seat}
    (fits : Counterpart hub client job? own other)
    (limits : after.store.limits = hub.store.limits)
    (opened : after.outboxClosed? client = some false →
      hub.outboxClosed? client = some false) :
    Counterpart after client job? own other := by
  cases fits with
  | absent => exact .absent
  | idle alike stands => exact .idle alike stands
  | asking heard =>
      rw [← Hub.readFrom_of_limits limits] at heard
      exact .asking heard
  | replying alike stands =>
      refine .replying alike (stands.imp_right ?_)
      rintro ⟨ended, parts | ⟨owes, isClosed⟩⟩
      · exact ⟨ended, Or.inl parts⟩
      · exact ⟨ended, Or.inr ⟨owes, mt opened isClosed⟩⟩
  | notifying alike stands => exact .notifying alike stands

/-- Who has a seat on the floor has one in the mail room, with the same
session, and has given up its locks on both or on neither. -/
theorem Counterpart.seated {hub : Hub} {client : ClientId}
    {job? : Option Job} {own? : Option Seat} {other : Seat}
    (fits : Counterpart hub client job? own? (some other)) :
    ∃ own, own? = some own ∧
      own.connection.session = other.connection.session ∧
      ∀ locks, own.stage = .released locks ↔
        other.stage = .released locks := by
  cases fits with
  | idle alike stands =>
      refine ⟨_, rfl, (congrArg Connection.session alike).symm, ?_⟩
      rcases stands with rfl | ⟨rfl, rfl⟩
      · exact fun _ => Iff.rfl
      · simp
  | @asking _ other _ incoming heard =>
      have same := hub.session_readFrom { other with incoming }
      rw [heard] at same
      exact ⟨_, rfl, same, fun _ => Iff.rfl⟩
  | replying alike stands | notifying alike stands =>
      refine ⟨_, rfl, (congrArg Connection.session alike).symm, ?_⟩
      rcases stands with rfl | ⟨rfl, -⟩ <;> simp

namespace Mailroom

/-- The lock manager is asked to run, or will be by a worker. -/
def WillFire (room : Mailroom) : Prop :=
  room.hub.lockTrigger = true ∨
    ∃ client job, room.jobs client = some job ∧ job.fires = true

/-- What was dispatched in the mail room was served on the floor, and nothing
else was.  The mail room may still be queueing what came of it. -/
structure Follows (room : Mailroom) (floor : Floor) : Prop where
  agrees : room.toFloor.Agrees floor
  seats : ∀ client, Counterpart room.hub client (room.jobs client)
    (room.seats.find? client) (floor.seats.find? client)
  fires : floor.hub.lockTrigger = true → room.WillFire

theorem follows_new (limits : Limits) : (new limits).Follows (.new limits) where
  agrees := ⟨.refl _, rfl, rfl⟩
  seats _ := .absent
  fires fired := by cases fired

theorem WillFire.of_jobs {room after : Mailroom} (fires : room.WillFire)
    (trigger : room.hub.lockTrigger = true → after.hub.lockTrigger = true)
    (jobs : after.jobs = room.jobs) : after.WillFire := by
  rcases fires with fired | pending
  · exact Or.inl (trigger fired)
  · exact Or.inr (jobs ▸ pending)

/-- A worker goes on, and does not drop what it has to ask of the lock
manager. -/
theorem WillFire.of_update {room after : Mailroom} {client : ClientId}
    {old? job? : Option Job} (fires : room.WillFire)
    (trigger : room.hub.lockTrigger = true → after.hub.lockTrigger = true)
    (worked : room.jobs client = old?)
    (jobs : after.jobs = Function.update room.jobs client job?)
    (own : old?.any Job.fires = true →
      after.hub.lockTrigger = true ∨ job?.any Job.fires = true) :
    after.WillFire := by
  rcases fires with fired | ⟨other, job, works, fires⟩
  · exact Or.inl (trigger fired)
  · by_cases same : other = client
    · subst same
      refine (own ?_).imp_right fun fires => ?_
      · rw [← worked, works]
        exact fires
      · obtain ⟨next, goesOn, fires⟩ := (Option.any_eq_true _ _).mp fires
        exact ⟨other, next, by rw [jobs, Function.update_self, goesOn], fires⟩
    · refine Or.inr ⟨other, job, ?_, fires⟩
      rw [jobs, Function.update_of_ne same, works]

theorem unreleased_of_stands {stage other : Stage}
    (unreleased : ∀ locks, stage ≠ .released locks)
    (stands : other = stage ∨ stage = .ended ∧ other = .inUse) :
    ∀ locks, other ≠ .released locks := by
  rcases stands with rfl | ⟨-, rfl⟩
  · exact unreleased
  · simp

section Steps

variable {room after : Mailroom} {floor next : Floor} {client : ClientId}
  (follows : room.Follows floor)

include follows

variable (client) in
/-- What happens at one seat leaves the others as they were. -/
theorem Follows.seats_of
    (elsewhere : ∀ other, other ≠ client →
      after.jobs other = room.jobs other ∧
        after.seats.find? other = room.seats.find? other ∧
        next.seats.find? other = floor.seats.find? other ∧
        (after.hub.outboxClosed? other = some false →
          room.hub.outboxClosed? other = some false))
    (limits : after.hub.store.limits = room.hub.store.limits)
    (own : Counterpart after.hub client (after.jobs client)
      (after.seats.find? client) (next.seats.find? client))
    (other : ClientId) :
    Counterpart after.hub other (after.jobs other)
      (after.seats.find? other) (next.seats.find? other) := by
  by_cases same : other = client
  · exact same ▸ own
  · obtain ⟨job, seat, otherSeat, opened⟩ := elsewhere other same
    rw [job, seat, otherSeat]
    exact (follows.seats other).mono limits opened

theorem Follows.seats_of_hub (jobs : after.jobs = room.jobs)
    (seats : after.seats = room.seats) (otherSeats : next.seats = floor.seats)
    (limits : after.hub.store.limits = room.hub.store.limits)
    (opened : ∀ other, after.hub.outboxClosed? other = some false →
      room.hub.outboxClosed? other = some false) (other : ClientId) :
    Counterpart after.hub other (after.jobs other)
      (after.seats.find? other) (next.seats.find? other) := by
  rw [jobs, seats, otherSeats]
  exact (follows.seats other).mono limits (opened other)

/-- A step of a worker that is no move on the floor. -/
theorem Follows.of_worker {old? job? : Option Job}
    (worked : room.jobs client = old?)
    (jobs : after.jobs = Function.update room.jobs client job?)
    (hub : room.hub.Agrees after.hub)
    (nextClient : after.nextClient = room.nextClient)
    (manager : after.manager = room.manager)
    (seats : ∀ other, other ≠ client →
      after.seats.find? other = room.seats.find? other)
    (own : Counterpart after.hub client job? (after.seats.find? client)
      (floor.seats.find? client))
    (trigger : room.hub.lockTrigger = true → after.hub.lockTrigger = true)
    (fires : old?.any Job.fires = true →
      after.hub.lockTrigger = true ∨ job?.any Job.fires = true) :
    after.Follows floor where
  agrees :=
    ⟨hub.symm.trans follows.agrees.hub,
      follows.agrees.nextClient.trans nextClient.symm,
      follows.agrees.manager.trans manager.symm⟩
  seats := by
    refine follows.seats_of client ?_ (by rw [hub.store])
      (by rwa [jobs, Function.update_self])
    intro other different
    refine ⟨?_, seats other different, rfl, ?_⟩
    · rw [jobs, Function.update_of_ne different]
    · rw [hub.outboxClosed?]
      exact id
  fires fired := (follows.fires fired).of_update trigger worked jobs fires

/-- A worker goes on with a request that it has dispatched. -/
theorem Follows.goOn {old? job? : Option Job} {hub : Hub}
    {added : ClientId → List Response} {reserved : ClientId → Bool}
    {mail : ClientId → List Letter} (worked : room.jobs client = old?)
    (extended : Hub.Extends room.hub added hub)
    (own : ∀ own? other?, Counterpart room.hub client old? own? other? →
      Counterpart hub client job? own? other?)
    (fires : old?.any Job.fires = true → job?.any Job.fires = true) :
    Follows
      { room with
        hub, jobs := Function.update room.jobs client job?, reserved, mail }
      floor :=
  follows.of_worker worked rfl extended.agrees rfl rfl (fun _ _ => rfl)
    (own _ _ (worked ▸ follows.seats client)) extended.lockTrigger.trans
    fun fired => Or.inr (fires fired)

theorem Follows.reserve (incoming : Source) :
    (room.reserve client incoming).Follows floor := by
  unfold Mailroom.reserve
  split
  · rename_i connection seated idle _
    have fits := follows.seats client
    rw [seated, idle] at fits
    generalize there : floor.seats.find? client = other? at fits
    cases fits with
    | @idle _ other _ stage alike stands =>
        obtain rfl : stage = .inUse := by simpa using stands
        refine follows.of_worker idle rfl (.refl _) rfl rfl ?_ ?_ id ?_
        · intro other different
          rw [Index.find?_insert, if_neg different]
        · rw [there, Index.find?_insert, if_pos rfl]
          exact .asking (congrArg room.hub.readFrom (alike.receive incoming))
        · intro fires
          cases fires
  · exact follows

theorem Follows.push : (room.push client).Follows floor := by
  unfold Mailroom.push
  split
  · rename_i number response rest errand replying
    rcases room.hub.push_cases client response with
      ⟨hub, goes, isOpen, extended⟩ | ⟨error, hub, goes, -, extended⟩
    · rw [goes]
      refine follows.goOn replying extended (fun own? other? fits => ?_) id
      cases fits with
      | replying alike stands =>
          refine .replying alike (stands.imp_right ?_)
          rintro ⟨ended, parts | ⟨-, isClosed⟩⟩
          · exact ⟨ended, Or.inl parts⟩
          · exact absurd isOpen isClosed
    · rw [goes]
      refine follows.goOn replying extended (fun own? other? fits => ?_) id
      cases fits with
      | replying alike stands =>
          exact .replying alike
            (stands.imp_right fun ⟨ended, _⟩ => ⟨ended, Or.inl rfl⟩)
  · exact follows

theorem Follows.drop : (room.drop client).Follows floor := by
  unfold Mailroom.drop
  split
  · rename_i number errand replying
    refine follows.goOn replying (.refl room.hub)
      (fun own? other? fits => ?_) id
    cases fits with
    | replying alike stands =>
        refine .notifying alike (stands.imp_right ?_)
        rintro ⟨ended, parts | ⟨owes, -⟩⟩
        · exact ⟨ended, parts⟩
        · exact absurd rfl owes
  · exact follows

theorem Follows.notify : (room.notify client).Follows floor := by
  unfold Mailroom.notify
  split
  · rename_i orphan others entered released stays notifying
    split
    · exact follows
    · have own (hub : Hub) (own? other? : Option Seat)
          (fits : Counterpart room.hub client
            (some (.notifying ⟨orphan :: others, entered, released, stays⟩))
            own? other?) :
          Counterpart hub client
            (some (.notifying ⟨others, entered, released, stays⟩))
            own? other? := by
        cases fits with
        | notifying alike stands => exact .notifying alike stands
      dsimp only
      rcases room.hub.send_cases orphan.client
          (Hub.goneNotice orphan.path) with
        ⟨hub, goes, -, extended⟩ | ⟨error, hub, goes, extended⟩
      · rw [goes]
        exact follows.goOn notifying extended (own hub) id
      · rw [goes]
        exact follows.goOn notifying extended (own hub) id
  · exact follows

theorem Follows.finish : (room.finish client).Follows floor := by
  unfold Mailroom.finish
  split
  · rename_i connection entered released stays seated notifying
    have fits := follows.seats client
    rw [seated, notifying] at fits
    generalize there : floor.seats.find? client = other? at fits
    cases fits with
    | notifying alike stands =>
        refine follows.of_worker notifying rfl ?_ rfl rfl ?_ ?_ ?_ ?_
        · cases released <;> exact ⟨rfl, rfl, fun _ => rfl⟩
        · intro other different
          rw [Index.find?_insert, if_neg different]
        · rw [there, Index.find?_insert, if_pos rfl]
          refine .idle alike ?_
          rcases stands with still | ⟨ended, parts⟩
          · cases stays with
            | true => exact Or.inl still
            | false => exact Or.inr ⟨rfl, still⟩
          · obtain rfl : stays = false := parts
            exact Or.inl ended
        · intro fired
          cases released
          · exact fired
          · rfl
        · intro fires
          obtain rfl : released = true := fires
          exact Or.inl rfl
  · exact follows

/-- The move by which a request is served is made when it is dispatched. -/
theorem Follows.dispatched {connection kept : Connection}
    {read : Except Error Request} {reply : Reply} {hub : Hub}
    (attended : floor.Attended)
    (seated : room.seats.find? client = some ⟨connection, .inUse⟩)
    (asking : room.jobs client = some (.asking read))
    (goes : room.hub.dispatchRead connection read = (reply, kept, hub)) :
    ∃ incoming,
      (room.dispatched client read reply kept hub).Follows
        (floor.serve client incoming) ∧
      floor.services [.serve client incoming] =
        [⟨client, read, room.hub.store, hub.store, reply⟩] := by
  have fits := follows.seats client
  rw [seated, asking] at fits
  generalize there : floor.seats.find? client = other? at fits
  cases fits with
  | @asking _ other _ incoming heard =>
      rw [← follows.agrees.hub.readFrom_eq] at heard
      obtain ⟨behind, answered, agrees⟩ := follows.agrees.hub.dispatchRead goes
      -- The floor is given what had arrived when the outbox was reserved.
      have served := Floor.serve_of_read there
        (attended.named client _ there) heard answered
      have known : behind.outboxClosed? client ≠ none := by
        obtain ⟨closed, present⟩ := attended.outbox client _ there
        rw [Hub.outboxClosed?_dispatchRead answered, present]
        exact Option.some_ne_none closed
      refine ⟨incoming, ?_, ?_⟩
      · rw [served]
        refine ⟨⟨agrees.trans (behind.agrees_deliverReply client reply),
          follows.agrees.nextClient, follows.agrees.manager⟩, ?_, ?_⟩
        · refine follows.seats_of client ?_ (Hub.limits_dispatchRead goes) ?_
          · intro someone different
            simp only [Mailroom.dispatched, Function.update_of_ne different,
              Index.find?_insert, if_neg different,
              Hub.outboxClosed?_dispatchRead goes, true_and]
            exact id
          · simp only [Mailroom.dispatched, Function.update_self,
              Index.find?_insert, if_true]
            refine .replying rfl ?_
            -- A reply that is refused on the floor meets with a closed outbox
            -- here as well, since no outbox opens again.
            cases stays : (behind.deliverReply client reply).1 with
            | true => exact Or.inl rfl
            | false =>
                rw [← agrees.outboxClosed?]
                refine Or.inr ⟨rfl, ?_⟩
                rcases Hub.deliverReply_ends known stays with
                  closes | refused
                · exact Or.inl (by simp [closes])
                · exact Or.inr refused
        · intro fired
          rw [Hub.lockTrigger_deliverReply,
            Hub.lockTrigger_dispatchRead answered, Bool.or_eq_true] at fired
          rcases fired with fired | releases
          · refine (follows.fires fired).of_update ?_ asking rfl ?_
            · exact (Hub.lockTrigger_dispatchRead goes).trans
            · intro fires
              cases fires
          · refine Or.inr ⟨client, _, Function.update_self .., releases⟩
      · simp [Floor.services, Floor.service?, there, heard, answered,
          follows.agrees.hub.store, agrees.store]

theorem Follows.accept (attended : floor.Attended) :
    room.accept.Follows floor.accept := by
  have number := follows.agrees.nextClient
  have fits := follows.seats room.nextClient
  rw [← number, attended.unseated_next, number] at fits
  generalize idle : room.jobs room.nextClient = job?,
    room.seats.find? room.nextClient = own? at fits
  refine ⟨⟨?_, congrArg (· + 1) number, follows.agrees.manager⟩, ?_,
    fun fired => (follows.fires fired).of_jobs id rfl⟩
  · simp only [Mailroom.accept, Floor.accept, number]
    exact follows.agrees.hub.openOutbox room.nextClient
  · refine follows.seats_of room.nextClient ?_ rfl ?_
    · intro other different
      simp only [Mailroom.accept, Floor.accept, number, Index.find?_insert,
        if_neg different, Hub.outboxClosed?_openOutbox, true_and]
      exact id
    · simp only [Mailroom.accept, Floor.accept, number, Index.find?_insert,
        if_true, idle]
      cases fits
      exact .idle rfl (Or.inl rfl)

theorem Follows.release (idle : room.jobs client = none) :
    { room with toFloor := room.toFloor.release client }.Follows
      (floor.release client) := by
  have fits := follows.seats client
  rw [idle] at fits
  generalize here : room.seats.find? client = own?,
    there : floor.seats.find? client = other? at fits
  cases fits with
  | absent =>
      rw [Floor.release_of_released (by simp [here]),
        Floor.release_of_released (by simp [there])]
      exact follows
  | @idle connection other stage otherStage alike stands =>
      by_cases released : ∃ locks, stage = .released locks
      · obtain ⟨locks, rfl⟩ := released
        obtain rfl : otherStage = .released locks := by simpa using stands
        rw [Floor.release_of_released (by simp [here]),
          Floor.release_of_released (by simp [there])]
        exact follows
      · have unreleased := not_exists.mp released
        have alsoUnreleased := unreleased_of_stands unreleased stands
        have sameStore := follows.agrees.hub.store
        rw [Floor.release_of_unreleased here unreleased,
          Floor.release_of_unreleased there alsoUnreleased, sameStore]
        refine ⟨⟨⟨rfl, follows.agrees.hub.registry,
          follows.agrees.hub.outboxClosed?⟩, follows.agrees.nextClient,
          follows.agrees.manager⟩, ?_, ?_⟩
        · refine follows.seats_of client ?_
            (room.hub.store.limits_perform (.releaseClient client)) ?_
          · intro someone different
            simp only [Index.find?_insert, if_neg different, true_and]
            exact id
          · simp only [Index.find?_insert, if_true, idle]
            exact .idle alike (Or.inl rfl)
        · exact fun fired => (follows.fires fired).of_jobs id rfl

theorem Follows.forget (idle : room.jobs client = none) :
    { room with toFloor := room.toFloor.forget client }.Follows
      (floor.forget client) := by
  have fits := follows.seats client
  rw [idle] at fits
  generalize here : room.seats.find? client = own?,
    there : floor.seats.find? client = other? at fits
  cases fits with
  | absent =>
      rw [Floor.forget_of_unreleased (by simp [here]),
        Floor.forget_of_unreleased (by simp [there])]
      exact follows
  | @idle connection other stage otherStage alike stands =>
      by_cases released : ∃ locks, stage = .released locks
      · obtain ⟨locks, rfl⟩ := released
        obtain rfl : otherStage = .released locks := by simpa using stands
        have forgotten :=
          (follows.agrees.hub.unregister client).closeOutbox client
        simp only [Floor.forget, here, there]
        refine ⟨⟨?_, follows.agrees.nextClient, follows.agrees.manager⟩, ?_, ?_⟩
        · split <;>
            exact ⟨forgotten.store, forgotten.registry,
              forgotten.outboxClosed?⟩
        · refine follows.seats_of client ?_ ?_ ?_
          · intro someone different
            simp only [Index.find?_erase, if_neg different, true_and]
            intro isOpen
            apply Hub.wasOpen_of_closeOutbox
            split at isOpen <;> exact isOpen
          · split <;> rfl
          · simp only [Index.find?_erase, if_true, idle]
            exact .absent
        · by_cases any : 0 < locks
          · simp only [if_pos any]
            exact fun _ => Or.inl rfl
          · simp only [if_neg any]
            exact fun fired => (follows.fires fired).of_jobs id rfl
      · have unreleased := not_exists.mp released
        have alsoUnreleased := unreleased_of_stands unreleased stands
        rw [Floor.forget_of_unreleased (by simp [here, unreleased]),
          Floor.forget_of_unreleased (by simp [there, alsoUnreleased])]
        exact follows

theorem Follows.closeOutbox :
    (room.closeOutbox client).Follows (floor.closeOutbox client) where
  agrees := ⟨follows.agrees.hub.closeOutbox client,
    follows.agrees.nextClient, follows.agrees.manager⟩
  seats := follows.seats_of_hub rfl rfl rfl rfl
    fun _ => Hub.wasOpen_of_closeOutbox
  fires fired := (follows.fires fired).of_jobs id rfl

theorem Follows.write :
    (room.write client).Follows (floor.write client) where
  agrees := by
    refine ⟨⟨follows.agrees.hub.store, follows.agrees.hub.registry,
      fun other => ?_⟩, follows.agrees.nextClient, follows.agrees.manager⟩
    rw [Floor.outboxClosed?_write, follows.agrees.hub.outboxClosed?]
    exact (room.toFloor.outboxClosed?_write client other).symm
  seats := by
    refine follows.seats_of_hub rfl rfl rfl rfl fun other isOpen => ?_
    rwa [← room.toFloor.outboxClosed?_write client other]
  fires fired := (follows.fires fired).of_jobs id rfl

theorem Follows.manage (granted : Entries) (mail : ClientId → List Letter) :
    { room with toFloor := room.toFloor.manage, granted, mail }.Follows
      floor.manage where
  agrees := follows.agrees.manage
  seats := by
    obtain ⟨hub, manager, goes, -, opened, stored⟩ :=
      room.toFloor.manage_cases
    obtain ⟨otherHub, otherManager, otherGoes, -⟩ := floor.manage_cases
    refine follows.seats_of_hub rfl ?_ ?_ ?_ ?_
    · simp only [goes]
    · simp only [otherGoes]
    · simp only [goes]
      rcases stored with same | ⟨operation, -, -, carried⟩
      · rw [same]
      · rw [carried, Store.limits_perform]
    · intro client isOpen
      simp only [goes] at isOpen
      exact opened client ▸ isOpen
  fires fired := by
    rw [Floor.lockTrigger_manage, follows.agrees.manager] at fired
    split at fired
    · cases fired
    · rename_i busy
      refine (follows.fires fired).of_jobs ?_ rfl
      simp only [Floor.lockTrigger_manage, if_neg busy]
      exact id

end Steps

theorem manage_cases (room : Mailroom) :
    room.manage = room ∨ ∃ granted mail, room.manage =
      { room with toFloor := room.toFloor.manage, granted, mail } := by
  unfold manage
  split
  · exact Or.inr ⟨_, _, rfl⟩
  · split
    · exact Or.inl rfl
    · dsimp only
      split
      · exact Or.inr ⟨_, _, rfl⟩
      · exact Or.inr ⟨_, _, rfl⟩
  · exact Or.inr ⟨_, _, rfl⟩

/-- Only what is dispatched comes into the journal. -/
theorem journal_act (room : Mailroom) {act : Act}
    (other : ∀ client, act ≠ .dispatch client) :
    (room.act act).journal = room.journal := by
  cases act with
  | accept | closeOutbox | write => rfl
  | dispatch client => exact absurd rfl (other client)
  | reserve | drop | finish =>
      simp only [Mailroom.act, reserve, drop, finish]
      split <;> rfl
  | release | forget =>
      simp only [Mailroom.act, release, forget]
      split <;> rfl
  | push client =>
      simp only [Mailroom.act, push]
      split
      · split <;> rfl
      · rfl
  | notify client =>
      simp only [Mailroom.act, notify]
      split
      · split
        · rfl
        · split <;> rfl
      · rfl
  | manage =>
      rcases room.manage_cases with same | ⟨granted, mail, goes⟩
      · rw [Mailroom.act, same]
      · rw [Mailroom.act, goes]

/-- What is done in the mail room is made up for on the floor by some moves,
which serve exactly what was dispatched. -/
def MadeUp (room after : Mailroom) (floor : Floor) : Prop :=
  ∃ moves, after.Follows (floor.run moves) ∧
    after.journal = room.journal ++ floor.services moves

section MadeUp

variable {room : Mailroom} {floor : Floor} {act : Act}

theorem madeUp_idly (follows : (room.act act).Follows floor)
    (other : ∀ client, act ≠ .dispatch client) :
    room.MadeUp (room.act act) floor :=
  ⟨[], follows, by simp [room.journal_act other, Floor.services]⟩

theorem madeUp_by (move : Move) (silent : floor.service? move = none)
    (follows : (room.act act).Follows (floor.move move))
    (other : ∀ client, act ≠ .dispatch client) :
    room.MadeUp (room.act act) floor :=
  ⟨[move], follows, by
    simp [room.journal_act other, Floor.services, silent]⟩

variable (follows : room.Follows floor) (attended : floor.Attended)

include follows attended

theorem madeUp_act (act : Act) : room.MadeUp (room.act act) floor := by
  cases act with
  | accept =>
      exact madeUp_by .accept rfl (follows.accept attended) (by simp)
  | reserve client incoming =>
      exact madeUp_idly (follows.reserve incoming) (by simp)
  | push client => exact madeUp_idly follows.push (by simp)
  | drop client => exact madeUp_idly follows.drop (by simp)
  | notify client => exact madeUp_idly follows.notify (by simp)
  | finish client => exact madeUp_idly follows.finish (by simp)
  | closeOutbox client =>
      exact madeUp_by (.closeOutbox client) rfl follows.closeOutbox (by simp)
  | write client =>
      exact madeUp_by (.write client) rfl follows.write (by simp)
  | dispatch client =>
      simp only [Mailroom.act, dispatch]
      split
      · rename_i connection read seated asking
        obtain ⟨incoming, still, service⟩ :=
          follows.dispatched attended seated asking rfl
        exact ⟨[.serve client incoming], still, by
          rw [service]
          rfl⟩
      · exact ⟨[], follows, by simp [Floor.services]⟩
  | release client =>
      cases idle : room.jobs client with
      | none =>
          refine madeUp_by (.release client) rfl ?_ (by simp)
          simp only [Mailroom.act, release, idle]
          exact follows.release idle
      | some job =>
          refine madeUp_idly ?_ (by simp)
          simp only [Mailroom.act, release, idle]
          exact follows
  | forget client =>
      cases idle : room.jobs client with
      | none =>
          refine madeUp_by (.forget client) rfl ?_ (by simp)
          simp only [Mailroom.act, forget, idle]
          exact follows.forget idle
      | some job =>
          refine madeUp_idly ?_ (by simp)
          simp only [Mailroom.act, forget, idle]
          exact follows
  | manage =>
      rcases room.manage_cases with waits | ⟨granted, mail, goes⟩
      · refine madeUp_idly ?_ (by simp)
        rw [Mailroom.act, waits]
        exact follows
      · refine madeUp_by .manage rfl ?_ (by simp)
        rw [Mailroom.act, goes]
        exact follows.manage granted mail

theorem madeUp_run (acts : List Act) :
    room.MadeUp (room.run acts) floor := by
  induction acts generalizing room floor with
  | nil => exact ⟨[], follows, by simp [run, Floor.services]⟩
  | cons act later ih =>
      obtain ⟨first, still, journal⟩ := madeUp_act follows attended act
      have attendedNext : (floor.run first).Attended :=
        Floor.run_preserves (fun _ move kept => kept.move move) first attended
      obtain ⟨second, last, further⟩ := ih still attendedNext
      refine ⟨first ++ second, ?_, ?_⟩
      · rw [Floor.run_append]
        exact last
      · rw [run, further, journal, Floor.services_append, List.append_assoc]

end MadeUp

/-- However the steps of workers, writers and the lock manager are
interleaved, the mail room is where it is after some moves of the floor, on
which every request is served in one move.  These moves serve the requests that
were dispatched, in that order, and reply alike. -/
theorem requests_are_served_one_at_a_time (limits : Limits)
    (acts : List Act) :
    ∃ moves,
      ((new limits).run acts).Follows ((Floor.new limits).run moves) ∧
      (Floor.new limits).services moves = ((new limits).run acts).journal := by
  obtain ⟨moves, follows, journal⟩ :=
    madeUp_run (follows_new limits) (Floor.attended_new limits) acts
  exact ⟨moves, follows, journal.symm⟩

section Consequences

variable (limits : Limits) (acts : List Act)

/-- Also while requests are only half served, whoever holds a lock or waits for
one is registered, and has a connection with an open session whose locks were
not given up. -/
theorem involved_client_is_seated {client : ClientId}
    (involved : ((new limits).run acts).hub.store.Involves client) :
    ((new limits).run acts).hub.registry.contains client = true ∧
      ∃ seat, ((new limits).run acts).seats.find? client = some seat ∧
        seat.connection.session.isActive = true ∧ seat.KeepsLocks := by
  obtain ⟨moves, follows, -⟩ := requests_are_served_one_at_a_time limits acts
  have attended := Floor.attended_run limits moves
  rw [← follows.agrees.hub.store] at involved
  obtain ⟨other, seated, active, keeps⟩ := attended.involved client involved
  have registered := (attended.registered client).mpr ⟨other, seated, active⟩
  rw [follows.agrees.hub.registry] at registered
  obtain ⟨own, sits, session, stages⟩ :=
    (seated ▸ follows.seats client).seated
  exact ⟨registered, own, sits, session ▸ active,
    fun locks gaveUp => keeps locks ((stages locks).mp gaveUp)⟩

/-- Also while requests are only half served, a free lock that somebody waits
for will be handed on: the lock manager is asked to run, or a worker is going
to ask it, or it makes another round anyway. -/
theorem stranded_lock_is_on_its_way
    (stranded : ((new limits).run acts).hub.store.HasStranded) :
    ((new limits).run acts).WillFire ∨
      ((new limits).run acts).manager.Unsettled ∨
      ((new limits).run acts).ReleasePending := by
  obtain ⟨moves, follows, -⟩ := requests_are_served_one_at_a_time limits acts
  rw [← follows.agrees.hub.store] at stranded
  rcases Floor.watchful_run limits moves stranded with
    fired | unsettled | ⟨client, connection, locks, released, some⟩
  · exact Or.inl (follows.fires fired)
  · rw [follows.agrees.manager] at unsettled
    exact Or.inr (Or.inl unsettled)
  · obtain ⟨⟨own, stage⟩, sits, -, stages⟩ :=
      (released ▸ follows.seats client).seated
    obtain rfl : stage = .released locks := (stages locks).mpr rfl
    exact Or.inr (Or.inr ⟨client, own, locks, sits, some⟩)

end Consequences

end Mailroom

end FileDepot
