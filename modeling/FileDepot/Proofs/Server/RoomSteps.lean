import FileDepot.Proofs.Server.Mailroom

/-!
# What can happen in the mail room

Every act comes to one of a few steps, whose conditions and consequences are
listed here.  Whatever is proved of the runs of a mail room is proved from
these.
-/

namespace FileDepot

/-- The grants that are still to be told. -/
def ManagerPhase.grants : ManagerPhase → List LockGrant
  | .waiting | .granting => []
  | .telling grants _ => grants
  | .undoing _ others _ => others

namespace Mailroom

/-- What a step may change in which nothing is queued and no worker serves:
outboxes are emptied and closed, and nobody comes into a queue. -/
structure Beside (room : Mailroom) (floor : Floor) (granted : Entries) :
    Prop where
  nextClient : room.nextClient ≤ floor.nextClient
  seats : ∀ client seat, floor.seats.find? client = some seat →
    (∃ old, room.seats.find? client = some old ∧
      seat.connection = old.connection) ∨
    (seat.connection.client = client ∧ client < floor.nextClient)
  opened : ∀ client, client < room.nextClient →
    floor.hub.outboxClosed? client = some false →
    room.hub.outboxClosed? client = some false
  queued : ∀ client, floor.hub.queued client <:+ room.hub.queued client
  store : floor.hub.store = room.hub.store ∨
    ∃ operation, operation.seeker? = none ∧
      floor.hub.store = (room.hub.store.perform operation).2
  grants : ∀ grant ∈ floor.manager.grants,
    (grant ∈ room.manager.grants ∧ granted = room.granted) ∨
    (grant ∈ room.hub.store.grantWaiting.1 ∧ granted = room.entered)

/-- Everything that an act can come to. -/
inductive Step (room : Mailroom) : Mailroom → Prop
  | idle : Step room room
  | beside {floor : Floor} {granted : Entries}
      (beside : room.Beside floor granted) :
      Step room { room with toFloor := floor, granted }
  | reserved {client : ClientId} {connection behind : Connection}
      {read : Except Error Request}
      (seated : room.seats.find? client = some ⟨connection, .inUse⟩)
      (named : behind.client = connection.client)
      (free : room.jobs client = none) :
      Step room
        { room with
          seats := room.seats.insert client ⟨behind, .inUse⟩
          jobs := Function.update room.jobs client (some (.asking read))
          reserved := Function.update room.reserved client true }
  | dispatched {client : ClientId} {connection kept : Connection}
      {read : Except Error Request} {reply : Reply} {hub : Hub}
      (seated : room.seats.find? client = some ⟨connection, .inUse⟩)
      (asking : room.jobs client = some (.asking read))
      (goes : room.hub.dispatchRead connection read = (reply, kept, hub)) :
      Step room (room.dispatched client read reply kept hub)
  | pushed {client : ClientId} {number : Nat} {response : Response}
      {rest : List Response} {errand : Errand} {hub : Hub}
      (replying : room.jobs client =
        some (.replying number (response :: rest) errand))
      (isOpen : room.hub.outboxClosed? client = some false)
      (extended : Hub.Extends room.hub (Hub.onlyFor client [response]) hub) :
      Step room
        { room with
          hub
          jobs := Function.update room.jobs client
            (some (.replying number rest errand))
          mail := room.mailWith client ⟨.reply number, response⟩ }
  | refused {client : ClientId} {number : Nat} {left : List Response}
      {errand failed : Errand} {hub : Hub}
      (replying : room.jobs client = some (.replying number left errand))
      (isClosed : room.hub.outboxClosed? client ≠ some false)
      (sameOrphans : failed.orphans = errand.orphans)
      (sameEntries : failed.entered = errand.entered)
      (extended : Hub.Extends room.hub (fun _ => []) hub) :
      Step room
        { room with
          hub
          jobs := Function.update room.jobs client
            (some (.replying number [] failed)) }
  | dropped {client : ClientId} {number : Nat} {errand : Errand}
      (replying : room.jobs client = some (.replying number [] errand)) :
      Step room
        { room with
          jobs := Function.update room.jobs client (some (.notifying errand))
          reserved := Function.update room.reserved client false }
  | notified {client : ClientId} {orphan : Orphan} {others : List Orphan}
      {entered : Entries} {released stays : Bool} {hub : Hub}
      (notifying : room.jobs client =
        some (.notifying ⟨orphan :: others, entered, released, stays⟩))
      (free : room.reserved orphan.client = false)
      (isOpen : room.hub.outboxClosed? orphan.client = some false)
      (extended : Hub.Extends room.hub
        (Hub.onlyFor orphan.client [Hub.goneNotice orphan.path]) hub) :
      Step room
        { room with
          hub
          jobs := Function.update room.jobs client
            (some (.notifying ⟨others, entered, released, stays⟩))
          mail := room.mailWith orphan.client
            ⟨.ending (entered orphan.client orphan.path),
              Hub.goneNotice orphan.path⟩ }
  | unheard {client : ClientId} {orphan : Orphan} {others : List Orphan}
      {entered : Entries} {released stays : Bool} {hub : Hub}
      (notifying : room.jobs client =
        some (.notifying ⟨orphan :: others, entered, released, stays⟩))
      (extended : Hub.Extends room.hub (fun _ => []) hub) :
      Step room
        { room with
          hub
          jobs := Function.update room.jobs client
            (some (.notifying ⟨others, entered, released, stays⟩)) }
  | granted {grant : LockGrant} {others : List LockGrant}
      {undelivered : Nat} {hub : Hub}
      (telling : room.manager = .telling (grant :: others) undelivered)
      (free : room.reserved grant.client = false)
      (isOpen : room.hub.outboxClosed? grant.client = some false)
      (extended : Hub.Extends room.hub
        (Hub.onlyFor grant.client [Hub.grantNotice grant.path]) hub) :
      Step room
        { room with
          hub
          manager := .telling others undelivered
          mail := room.mailWith grant.client
            ⟨.ending (room.granted grant.client grant.path),
              Hub.grantNotice grant.path⟩ }
  | finished {client : ClientId} {connection : Connection} {stage : Stage}
      {errand : Errand} {lockTrigger : Bool}
      (seated : room.seats.find? client = some ⟨connection, .inUse⟩)
      (notifying : room.jobs client = some (.notifying errand)) :
      Step room
        { room with
          hub := { room.hub with lockTrigger }
          seats := room.seats.insert client ⟨connection, stage⟩
          jobs := Function.update room.jobs client none }

section Beside

variable (room : Mailroom)

theorem beside_of_hub {hub : Hub} (store : hub.store = room.hub.store)
    (opened : ∀ client, hub.outboxClosed? client = some false →
      room.hub.outboxClosed? client = some false)
    (queued : ∀ client, hub.queued client <:+ room.hub.queued client) :
    room.Beside { room.toFloor with hub } room.granted where
  nextClient := Nat.le_refl _
  seats _ seat seated := Or.inl ⟨seat, seated, rfl⟩
  opened client _ := opened client
  queued := queued
  store := Or.inl store
  grants _ pending := Or.inl ⟨pending, rfl⟩

theorem beside_accept : room.Beside room.toFloor.accept room.granted where
  nextClient := Nat.le_succ _
  seats := by
    intro client seat seated
    rw [Floor.accept, Index.find?_insert] at seated
    by_cases same : client = room.nextClient
    · rw [if_pos same, Option.some.injEq] at seated
      exact Or.inr ⟨by rw [← seated, same], same ▸ Nat.lt_succ_self _⟩
    · rw [if_neg same] at seated
      exact Or.inl ⟨seat, seated, rfl⟩
  opened := by
    intro client old isOpen
    rw [Floor.accept, Hub.outboxClosed?_openOutbox,
      if_neg (Nat.ne_of_lt old)] at isOpen
    exact isOpen
  queued := by
    intro client
    rw [Floor.accept, Hub.queued_openOutbox]
    split
    · exact List.nil_suffix
    · exact List.suffix_refl _
  store := Or.inl rfl
  grants _ pending := Or.inl ⟨pending, rfl⟩

theorem beside_closeOutbox (client : ClientId) :
    room.Beside (room.toFloor.closeOutbox client) room.granted := by
  refine room.beside_of_hub rfl (fun _ => Hub.wasOpen_of_closeOutbox) ?_
  intro other
  simp only [Hub.queued_closeOutbox, List.suffix_refl]

theorem beside_write (client : ClientId) :
    room.Beside (room.toFloor.write client) room.granted := by
  refine room.beside_of_hub rfl ?_ ?_
  · intro other isOpen
    rwa [← Floor.outboxClosed?_write room.toFloor client other]
  · intro other
    change (room.toFloor.write client).hub.queued other <:+ _
    rw [Floor.queued_write]
    split
    · exact List.tail_suffix _
    · exact List.suffix_refl _

theorem beside_release (client : ClientId) :
    room.Beside (room.toFloor.release client) room.granted := by
  rcases room.toFloor.release_cases client with
    same | ⟨connection, stage, seated, -, goes⟩
  · rw [same]
    exact room.beside_of_hub rfl (fun _ => id) fun _ => List.suffix_refl _
  · rw [goes]
    refine ⟨Nat.le_refl _, ?_, fun _ _ => id, fun _ => List.suffix_refl _,
      Or.inr ⟨.releaseClient client, rfl, rfl⟩,
      fun _ pending => Or.inl ⟨pending, rfl⟩⟩
    intro other seat found
    rw [Index.find?_insert] at found
    by_cases same : other = client
    · rw [if_pos same, Option.some.injEq] at found
      exact Or.inl ⟨⟨connection, stage⟩, same ▸ seated, by rw [← found]⟩
    · rw [if_neg same] at found
      exact Or.inl ⟨seat, found, rfl⟩

theorem beside_forget (client : ClientId) :
    room.Beside (room.toFloor.forget client) room.granted := by
  rcases room.toFloor.forget_cases client with
    same | ⟨connection, locks, seated, goes⟩
  · rw [same]
    exact room.beside_of_hub rfl (fun _ => id) fun _ => List.suffix_refl _
  · have closes := room.beside_closeOutbox client
    rw [goes]
    refine ⟨Nat.le_refl _, ?_, ?_, ?_, ?_,
      fun _ pending => Or.inl ⟨pending, rfl⟩⟩
    · intro other seat found
      rw [Index.find?_erase] at found
      split at found
      · cases found
      · exact Or.inl ⟨seat, found, rfl⟩
    · intro other old isOpen
      refine closes.opened other old ?_
      split at isOpen <;> exact isOpen
    · intro other
      have same := closes.queued other
      split <;> exact same
    · left
      split <;> rfl

theorem beside_of_extends {hub : Hub} {manager : ManagerPhase}
    (extended : Hub.Extends room.hub (fun _ => []) hub)
    (grants : ∀ grant ∈ manager.grants, grant ∈ room.manager.grants) :
    room.Beside { room.toFloor with hub, manager } room.granted where
  nextClient := Nat.le_refl _
  seats _ seat seated := Or.inl ⟨seat, seated, rfl⟩
  opened client _ := extended.wasOpen client
  queued client := by
    simp only [extended.queued, List.append_nil, List.suffix_refl]
  store := Or.inl extended.store
  grants grant pending := Or.inl ⟨grants grant pending, rfl⟩

end Beside

section Acts

variable (room : Mailroom) (client : ClientId)

theorem free_of_ready {room : Mailroom} {client : ClientId}
    (ready : room.mustWait client = false)
    (able : room.hub.contactable client = true) :
    room.reserved client = false := by
  obtain ⟨registered, -, -⟩ := Hub.contactable_iff.mp able
  simpa [mustWait, registered] using ready

theorem step_reserve (incoming : Source) :
    Step room (room.reserve client incoming) := by
  unfold reserve
  split
  · rename_i connection seated free _
    exact .reserved seated
      (room.hub.client_readFrom { connection with incoming }) free
  · exact .idle

theorem step_dispatch : Step room (room.dispatch client) := by
  unfold dispatch
  split
  · rename_i connection read seated asking
    exact .dispatched seated asking rfl
  · exact .idle

theorem step_push : Step room (room.push client) := by
  unfold push
  split
  · rename_i number response rest errand replying
    rcases room.hub.push_cases client response with
      ⟨hub, goes, isOpen, extended⟩ | ⟨error, hub, goes, isClosed, extended⟩
    · rw [goes]
      exact .pushed replying isOpen extended
    · rw [goes]
      exact .refused replying isClosed rfl rfl extended
  · exact .idle

theorem step_drop : Step room (room.drop client) := by
  unfold drop
  split
  · exact .dropped ‹_›
  · exact .idle

theorem step_notify : Step room (room.notify client) := by
  unfold notify
  split
  · rename_i orphan others entered released stays notifying
    cases ready : room.mustWait orphan.client with
    | true => exact .idle
    | false =>
        simp only [Bool.false_eq_true, if_false]
        rcases room.hub.send_cases orphan.client
            (Hub.goneNotice orphan.path) with
          ⟨hub, goes, able, extended⟩ | ⟨error, hub, goes, extended⟩
        · rw [goes]
          exact .notified notifying (free_of_ready ready able)
            (Hub.contactable_iff.mp able).2.2 extended
        · rw [goes]
          exact .unheard notifying extended
  · exact .idle

theorem step_finish : Step room (room.finish client) := by
  unfold finish
  split
  · rename_i connection entered released stays seated notifying
    cases released with
    | true => exact .finished seated notifying
    | false => exact .finished seated notifying
  · exact .idle

/-- A step of the lock manager in which it tells nobody. -/
theorem beside_of_manager {room : Mailroom} {store : Store}
    {lockTrigger : Bool} {manager : ManagerPhase} {granted : Entries}
    (changed : store = room.hub.store ∨ ∃ operation,
      operation.seeker? = none ∧
        store = (room.hub.store.perform operation).2)
    (grants : ∀ grant ∈ manager.grants,
      (grant ∈ room.manager.grants ∧ granted = room.granted) ∨
      (grant ∈ room.hub.store.grantWaiting.1 ∧ granted = room.entered)) :
    room.Beside
      { room.toFloor with
        hub := { room.hub with store, lockTrigger }, manager } granted where
  nextClient := Nat.le_refl _
  seats _ seat seated := Or.inl ⟨seat, seated, rfl⟩
  opened _ _ := id
  queued _ := List.suffix_refl _
  store := changed
  grants := grants

theorem step_manage : Step room room.manage := by
  cases phase : room.manager with
  | waiting =>
      simp only [manage, phase, Floor.manage]
      refine .beside (beside_of_manager (Or.inl rfl) ?_)
      intro grant pending
      cases pending
  | granting =>
      simp only [manage, phase, Floor.manage]
      refine .beside
        (beside_of_manager (Or.inr ⟨.grantWaiting, rfl, rfl⟩) ?_)
      intro grant pending
      split at pending
      · cases pending
      · exact Or.inr ⟨pending, rfl⟩
  | undoing grant others undelivered =>
      simp only [manage, phase, Floor.manage]
      refine .beside (beside_of_manager
        (Or.inr ⟨.unlock grant.path grant.client, rfl, rfl⟩) ?_)
      intro other pending
      exact Or.inl ⟨phase ▸ pending, rfl⟩
  | telling grants undelivered =>
      cases grants with
      | nil =>
          simp only [manage, phase, Floor.manage]
          refine .beside (beside_of_manager (Or.inl rfl) ?_)
          intro grant pending
          split at pending <;> cases pending
      | cons grant others =>
          simp only [manage, phase]
          cases ready : room.mustWait grant.client with
          | true => exact .idle
          | false =>
              simp only [Bool.false_eq_true, if_false]
              rcases room.hub.send_cases grant.client
                  (Hub.grantNotice grant.path) with
                ⟨hub, sent, able, extended⟩ | ⟨error, hub, sent, extended⟩
              · rw [sent, Floor.manage_told phase sent]
                exact .granted phase (free_of_ready ready able)
                  (Hub.contactable_iff.mp able).2.2 extended
              · rw [sent, Floor.manage_untold phase sent]
                refine .beside (room.beside_of_extends extended ?_)
                intro other pending
                rw [phase]
                exact List.mem_cons_of_mem _ pending

end Acts

/-- Whatever is done comes to one of the steps. -/
theorem step_act (room : Mailroom) (act : Act) : Step room (room.act act) := by
  cases act with
  | accept => exact .beside room.beside_accept
  | reserve client incoming => exact room.step_reserve client incoming
  | dispatch client => exact room.step_dispatch client
  | push client => exact room.step_push client
  | drop client => exact room.step_drop client
  | notify client => exact room.step_notify client
  | finish client => exact room.step_finish client
  | release client =>
      simp only [act, release]
      split
      · exact .beside (room.beside_release client)
      · exact .idle
  | forget client =>
      simp only [act, forget]
      split
      · exact .beside (room.beside_forget client)
      · exact .idle
  | closeOutbox client => exact .beside (room.beside_closeOutbox client)
  | write client => exact .beside (room.beside_write client)
  | manage => exact room.step_manage

end Mailroom

end FileDepot
