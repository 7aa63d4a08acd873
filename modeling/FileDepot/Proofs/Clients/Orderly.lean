import FileDepot.Proofs.Clients.InStep

/-!
# Every client keeps in step

Whoever makes a move, a client stays in step with the server.  The moves that
touch a client are its own, the loss of a file that it waits for, and the two
steps in which the lock manager hands it a lock and tells it.
-/

namespace FileDepot

namespace Hall

/-- What holds between a server and its clients. -/
structure Orderly (hall : Hall) : Prop where
  attended : hall.floor.Attended
  isOpen : ∀ client seat, hall.floor.seats.find? client = some seat →
    hall.floor.hub.outboxClosed? client = some false
  unnamed : hall.floor.hub.store.file? "" = none
  delivers : ∀ grant others undelivered,
    hall.floor.manager ≠ .undoing grant others undelivered
  inStep : ∀ client, hall.InStep client

theorem orderly_new (limits : Limits) : (new limits).Orderly where
  attended := Floor.attended_new limits
  isOpen client seat seated := by cases seated
  unnamed := rfl
  delivers grant others undelivered := by
    intro impossible
    cases impossible
  inStep client := by
    refine .idle rfl rfl rfl ?_ rfl
    intro path awaits
    obtain ⟨file, found, -⟩ := awaits
    cases found

namespace Orderly

variable {hall : Hall} (orderly : hall.Orderly)

include orderly

theorem contactable {client : ClientId}
    (involved : hall.floor.hub.store.Involves client) :
    hall.floor.hub.contactable client = true := by
  obtain ⟨seat, seated, active, -⟩ := orderly.attended.involved client involved
  exact (orderly.attended.contactable_iff client).mpr
    ⟨(orderly.attended.registered client).mpr ⟨seat, seated, active⟩,
      orderly.isOpen client seat seated⟩

theorem isOpen_of_insert {after : Hall} {client : ClientId} {old new : Seat}
    (seated : hall.floor.seats.find? client = some old)
    (seats : after.floor.seats = hall.floor.seats.insert client new)
    (same : ∀ other, after.floor.hub.outboxClosed? other =
      hall.floor.hub.outboxClosed? other)
    (other : ClientId) (seat : Seat)
    (present : after.floor.seats.find? other = some seat) :
    after.floor.hub.outboxClosed? other = some false := by
  rw [same]
  rw [seats, Index.find?_insert] at present
  split at present
  · rename_i named
    exact orderly.isOpen other old (named ▸ seated)
  · exact orderly.isOpen other seat present

theorem accept : hall.accept.Orderly := by
  have unseated := orderly.attended.unseated_next
  refine ⟨orderly.attended.accept, ?_, orderly.unnamed, orderly.delivers, ?_⟩
  · intro client seat seated
    change (hall.floor.hub.openOutbox hall.floor.nextClient).outboxClosed?
      client = some false
    rw [Hub.outboxClosed?_openOutbox]
    split
    · rfl
    · rename_i different
      change (hall.floor.seats.insert _ _).find? client = some seat at seated
      rw [Index.find?_insert, if_neg different] at seated
      exact orderly.isOpen client seat seated
  · intro client
    by_cases same : client = hall.floor.nextClient
    · subst same
      have ended : ¬ hall.InUse hall.floor.nextClient := by
        rintro ⟨connection, seated⟩
        simp [unseated] at seated
      refine .idle ?_ ?_ ?_ ?_ ((orderly.inStep _).due_of_not_inUse ended)
      · simp [Hall.accept]
      · simp [Hall.accept]
      · change Function.update hall.arrived hall.floor.nextClient []
            hall.floor.nextClient ++
          (hall.floor.hub.openOutbox hall.floor.nextClient).queued
            hall.floor.nextClient = []
        simp [Hub.queued_openOutbox]
      · rintro path ⟨file, found, waits⟩
        obtain ⟨seat, seated, -⟩ := orderly.attended.involved _
          ⟨path, file, found, Or.inr waits⟩
        simp [unseated] at seated
    · apply (orderly.inStep client).undisturbed
      refine .of_store ?_ ?_ rfl rfl fun inUse => inUse.beside same rfl
      · simp [Hall.accept, same]
      · change Function.update hall.arrived hall.floor.nextClient [] client ++
          (hall.floor.hub.openOutbox hall.floor.nextClient).queued client = _
        simp [Hub.queued_openOutbox, same, unread]

/-- Only the callers, and what has arrived, may change without the server. -/
theorem of_floor {after : Hall} (same : after.floor = hall.floor)
    (inStep : ∀ client, after.InStep client) : after.Orderly where
  attended := same ▸ orderly.attended
  isOpen := same ▸ orderly.isOpen
  unnamed := same ▸ orderly.unnamed
  delivers := same ▸ orderly.delivers
  inStep := inStep

theorem start (client : ClientId) (call : Call) :
    (hall.start client call).Orderly := by
  rcases hall.start_cases client call with
    same | ⟨connection, request, seated, idle, asks, blocks, sendable, goes⟩
  · rw [same]
    exact orderly
  rw [goes]
  refine orderly.of_floor rfl ?_
  intro other
  by_cases same : other = client
  · subst same
    obtain ⟨-, allRead, free, nothingDue⟩ :=
      (orderly.inStep other).of_idle idle
    exact .asking asks blocks sendable (by simp) ⟨connection, seated⟩ allRead
      free nothingDue
  · apply (orderly.inStep other).undisturbed
    exact .of_store (by simp [same]) rfl rfl rfl id

theorem read (client : ClientId) : (hall.read client).Orderly := by
  rcases hall.read_cases client with
    same | ⟨call, awaiting, response, later, during, arrived, goes⟩
  · rw [same]
    exact orderly
  have unread : hall.unread client =
      response :: (later ++ hall.floor.hub.queued client) := by
    rw [Hall.unread, arrived, List.cons_append]
  have stillUnread : (hall.read client).unread client =
      later ++ hall.floor.hub.queued client := by
    rw [goes]
    simp [Hall.unread]
  have floor : (hall.read client).floor = hall.floor := by rw [goes]
  refine orderly.of_floor floor ?_
  intro other
  by_cases same : other = client
  · subst same
    rcases (orderly.inStep other).reading during unread with
      ⟨-, ⟨next, waits, goesOn⟩ |
        ⟨outcome, finishes, -, -, unsent, nothing, free, nothingDue⟩⟩
    · refine goesOn _ ⟨floor, ?_, stillUnread⟩
      rw [goes]
      simp [waits]
    · refine .idle ?_ ?_ (stillUnread.trans nothing) ?_ ?_
      · rw [goes]
        simp [finishes]
      · rw [goes]
        simp [unsent]
      · simp only [Awaits, floor]
        exact free
      · simp only [due, floor]
        exact nothingDue
  · apply (orderly.inStep other).undisturbed
    rw [goes]
    exact .of_store (by simp [same]) (by simp [Hall.unread, same]) rfl rfl id

theorem write (client : ClientId) : (hall.write client).Orderly := by
  unfold Hall.write
  split
  · exact orderly
  rename_i response later queued
  refine ⟨orderly.attended.write client, ?_, orderly.unnamed,
    orderly.delivers, ?_⟩
  · intro other seat seated
    change (hall.floor.write client).hub.outboxClosed? other = some false
    rw [Floor.outboxClosed?_write]
    exact orderly.isOpen other seat seated
  · intro other
    apply (orderly.inStep other).undisturbed
    refine .of_store rfl ?_ rfl rfl id
    change Function.update hall.arrived client _ other ++
      (hall.floor.write client).hub.queued other = hall.unread other
    rw [Floor.queued_write]
    by_cases same : other = client
    · subst same
      simp [Hall.unread, queued]
    · simp [Hall.unread, same]

theorem leave (client : ClientId) : (hall.leave client).Orderly := by
  have attended : (hall.leave client).floor.Attended := by
    unfold Hall.leave
    split
    · exact orderly.attended.serve client []
    · exact orderly.attended
  rcases hall.leave_cases client with
    same | ⟨connection, seated, idle, goes⟩
  · rw [same]
    exact orderly
  rw [goes] at attended ⊢
  refine ⟨attended, orderly.isOpen_of_insert seated rfl fun _ => rfl,
    orderly.unnamed, orderly.delivers, ?_⟩
  intro other
  by_cases same : other = client
  · subst same
    obtain ⟨unsent, allRead, free, nothingDue⟩ :=
      (orderly.inStep other).of_idle idle
    exact .idle idle unsent allRead free nothingDue
  · apply (orderly.inStep other).undisturbed
    exact .of_store rfl rfl rfl rfl fun inUse => inUse.beside same rfl

theorem release (client : ClientId) : (hall.release client).Orderly := by
  unfold Hall.release
  split
  case h_2 => exact orderly
  rename_i connection seated
  have consistent := orderly.attended.sound.consistent
  have goes : hall.floor.release client =
      { hall.floor with
        hub := { hall.floor.hub with
          store := (hall.floor.hub.store.perform (.releaseClient client)).2 }
        seats := hall.floor.seats.insert client
          ⟨connection, .released
            (hall.floor.hub.store.releaseClient client).1⟩ } := by
    simp only [Floor.release, seated]
    rfl
  have attended := orderly.attended.release client
  rw [goes] at attended ⊢
  refine ⟨attended, orderly.isOpen_of_insert seated rfl fun _ => rfl, ?_,
    orderly.delivers, ?_⟩
  · exact (Store.file?_eq_none_iff_of_onlyLocks rfl "").mpr orderly.unnamed
  · intro other
    by_cases same : other = client
    · subst same
      have ended : ¬ hall.InUse other := by
        rintro ⟨inUse, usedSeat⟩
        simp [seated] at usedSeat
      apply (orderly.inStep other).undisturbed
      refine ⟨rfl, rfl, rfl, ?_, fun inUse => absurd inUse ended⟩
      intro path awaits
      rcases Store.awaits_of_perform consistent (.releaseClient other)
        awaits with earlier | impossible | impossible
      · exact earlier
      · cases impossible
      · cases impossible
    · apply (orderly.inStep other).undisturbed
      refine .of_perform rfl same consistent rfl rfl rfl rfl ?_
        fun inUse => inUse.beside same rfl
      rintro path ⟨file, found, -⟩
      rw [Ne, Store.file?_eq_none_iff_of_onlyLocks rfl, found]
      exact Option.some_ne_none file

theorem forget (client : ClientId) : (hall.forget client).Orderly := by
  unfold Hall.forget
  rcases hall.floor.forget_cases client with
    same | ⟨connection, locks, seated, goes⟩
  · rw [same]
    exact orderly
  have attended := orderly.attended.forget client
  have find (other : ClientId) :
      (hall.floor.seats.erase client).find? other =
        if other = client then none else hall.floor.seats.find? other :=
    hall.floor.seats.find?_erase client other
  -- Whether the trigger is fired makes no difference here.
  have forgotten (hub : Hub) (store : hub.store = hall.floor.hub.store)
      (outboxes : hub.outboxes = (hall.floor.hub.closeOutbox client).outboxes)
      (attended : Floor.Attended { hall.floor with
        hub, seats := hall.floor.seats.erase client }) :
      Orderly { hall with
        floor := { hall.floor with
          hub, seats := hall.floor.seats.erase client } } := by
    refine ⟨attended, ?_, ?_, orderly.delivers, ?_⟩
    · intro other seat present
      rw [find] at present
      split at present
      · cases present
      · rename_i different
        have closed : hub.outboxClosed? other =
            (hall.floor.hub.closeOutbox client).outboxClosed? other := by
          simp only [Hub.outboxClosed?, Hub.outbox?, outboxes]
        rw [closed, Hub.outboxClosed?_closeOutbox, if_neg different]
        exact orderly.isOpen other seat present
    · rw [store]
      exact orderly.unnamed
    · intro other
      apply (orderly.inStep other).undisturbed
      have queued : hub.queued other = hall.floor.hub.queued other := by
        rw [← hall.floor.hub.queued_closeOutbox client]
        simp only [Hub.queued, Hub.outbox?, outboxes]
      refine .of_store rfl (by simp only [unread, queued]) rfl store ?_
      rintro ⟨inUse, usedSeat⟩
      have different : other ≠ client := by
        rintro rfl
        simp [seated] at usedSeat
      refine ⟨inUse, ?_⟩
      rw [find, if_neg different, usedSeat]
  rw [goes] at attended ⊢
  split at attended
  · rename_i held
    rw [if_pos held]
    exact forgotten _ rfl rfl attended
  · rename_i unheld
    rw [if_neg unheld]
    exact forgotten _ rfl rfl attended

/-- The lock manager may do what nobody sees. -/
theorem of_manager (hub : Hub) (manager : ManagerPhase)
    (attended : Floor.Attended { hall.floor with hub, manager })
    (store : hub.store = hall.floor.hub.store)
    (outboxes : hub.outboxes = hall.floor.hub.outboxes)
    (before : hall.floor.manager.untold = [])
    (after : manager.untold = []) :
    Orderly { hall with floor := { hall.floor with hub, manager } } := by
  refine ⟨attended, ?_, ?_, ?_, ?_⟩
  · intro client seat seated
    simp only [Hub.outboxClosed?, Hub.outbox?, outboxes]
    exact orderly.isOpen client seat seated
  · rw [store]
    exact orderly.unnamed
  · rintro grant others undelivered rfl
    cases after
  · intro client
    apply (orderly.inStep client).undisturbed
    refine .of_store rfl ?_ ?_ store id
    · simp only [unread, Hub.queued, Hub.outbox?, outboxes]
    · simp only [due, before, after]

/-- The lock manager hands out the free locks. -/
theorem grant (phase : hall.floor.manager = .granting) :
    hall.manage.Orderly := by
  have consistent := orderly.attended.sound.consistent
  have attended := orderly.attended.manage
  have nothingDue (client : ClientId) : hall.due client = [] := by
    simp [due, phase, ManagerPhase.untold]
  have goes : hall.manage =
      { hall with
        floor := { hall.floor with
          hub := { hall.floor.hub with
            store := hall.floor.hub.store.grantWaiting.2 }
          manager :=
            if hall.floor.hub.store.grantWaiting.1.isEmpty then .waiting
            else .telling hall.floor.hub.store.grantWaiting.1 0 } } := by
    simp only [Hall.manage, Floor.manage, phase]
  have untold : hall.manage.floor.manager.untold =
      hall.floor.hub.store.grantWaiting.1 := by
    rw [goes]
    dsimp only
    split
    · rename_i nobody
      exact (List.isEmpty_iff.mp nobody).symm
    · rfl
  have inOrder : hall.manage.floor.hub.store.QueuesInOrder :=
    attended.inOrder
  have nobodys (client : ClientId) :
      StoreOperation.grantWaiting.client? ≠ some client :=
    (Option.some_ne_none client).symm
  have freed {client : ClientId} {path : String}
      (awaits : hall.manage.Awaits client path) :
      hall.Awaits client path := by
    rw [goes] at awaits
    exact Store.awaits_before consistent .grantWaiting (nobodys client) awaits
  refine ⟨attended, ?_, ?_, ?_, ?_⟩
  · rw [goes]
    exact orderly.isOpen
  · rw [goes]
    have only : StoreOperation.grantWaiting.onlyLocks = true := rfl
    exact (Store.file?_eq_none_iff_of_onlyLocks only "").mpr orderly.unnamed
  · rw [goes]
    dsimp only
    intro grant others undelivered
    split <;> simp
  · intro client
    have caller : hall.manage.callers client = hall.callers client := by
      rw [goes]
    have unread : hall.manage.unread client = hall.unread client := by
      rw [goes]
      rfl
    have inUse (inUse : hall.InUse client) : hall.manage.InUse client := by
      rw [goes]
      exact inUse
    by_cases granted : ∃ path, { client, path } ∈
        hall.floor.hub.store.grantWaiting.1
    · obtain ⟨path, granted⟩ := granted
      -- A client in step waits only during a call, and for one lock: what it
      -- was handed is that lock, so its call now waits for the notice alone.
      obtain ⟨awaits, holds⟩ := consistent.holds_of_granted granted
      obtain ⟨call, awaiting, pending, only, -⟩ :=
        (orderly.inStep client).pending_of_awaits awaits
      have nowHolds : hall.manage.Holds client path := by
        rw [goes]
        exact holds
      have free (other : String) : ¬ hall.manage.Awaits client other := by
        intro waits
        obtain rfl := only other (freed waits)
        exact inOrder.not_awaits_of_holds nowHolds waits
      have isDue : hall.manage.due client = [{ client, path }] := by
        rw [due, untold]
        apply eq_singleton_of_nodup (consistent.nodup_grantWaiting.filter _)
        · exact List.mem_filter.mpr ⟨granted, decide_eq_true rfl⟩
        · rintro ⟨named, other⟩ listed
          obtain ⟨given, same⟩ := List.mem_filter.mp listed
          obtain rfl : named = client := of_decide_eq_true same
          rw [only other (consistent.holds_of_granted given).1]
      refine .waiting (pending.of_caller caller (inUse pending.inUse)) ?_
        (.granted nowHolds free isDue)
      rw [unread, List.append_nil]
    · have stillNothingDue : hall.manage.due client = [] := by
        rw [due, untold, List.filter_eq_nil_iff]
        rintro ⟨named, path⟩ given same
        obtain rfl : named = client := of_decide_eq_true same
        exact granted ⟨path, given⟩
      apply (orderly.inStep client).undisturbed
      refine ⟨caller, unread, stillNothingDue.trans (nothingDue client).symm,
        fun _ => freed, fun used => ⟨inUse used, ?_, ?_⟩⟩
      · intro path holds
        rw [goes]
        exact Store.Holds.perform holds consistent (nobodys client)
      · intro path awaits
        rw [goes]
        exact consistent.awaits_of_ungranted awaits fun given =>
          granted ⟨path, given⟩

/-- The lock manager tells a client of the lock that it was handed. -/
theorem tell {grant : LockGrant} {others : List LockGrant}
    {undelivered : Nat}
    (phase : hall.floor.manager = .telling (grant :: others) undelivered) :
    hall.manage.Orderly := by
  have attended := orderly.attended.manage
  have isDue : grant ∈ hall.due grant.client := by
    rw [due, phase]
    exact List.mem_filter.mpr ⟨List.mem_cons_self, decide_eq_true rfl⟩
  obtain ⟨call, awaiting, path, pending, holds, free, oneDue⟩ :=
    (orderly.inStep grant.client).pending_of_due isDue
  obtain ⟨file, found, held⟩ := holds
  have able := orderly.contactable ⟨path, file, found, Or.inl held⟩
  obtain ⟨sent, extended⟩ :=
    Hub.send_contactable able (Hub.grantNotice grant.path)
  rcases went : hall.floor.hub.send grant.client
    (Hub.grantNotice grant.path) with ⟨outcome, told⟩
  rw [went] at sent extended
  obtain rfl : outcome = .ok () := sent
  have goes : hall.manage =
      { hall with
        floor := { hall.floor with
          hub := told, manager := .telling others undelivered } } := by
    rw [Hall.manage, Floor.manage_told phase went]
  have split : hall.due grant.client =
      grant :: others.filter fun other => other.client = grant.client := by
    rw [due, phase, ManagerPhase.untold, List.filter_cons_of_pos (by simp)]
  rw [split, List.cons.injEq] at oneDue
  obtain ⟨named, nothingElse⟩ := oneDue
  have store : told.store = hall.floor.hub.store := extended.store
  refine ⟨attended, ?_, ?_, ?_, ?_⟩
  · rw [goes]
    intro client seat seated
    exact (extended.outboxClosed? client).trans
      (orderly.isOpen client seat seated)
  · rw [goes]
    exact store ▸ orderly.unnamed
  · rw [goes]
    simp
  · intro client
    have unread : hall.manage.unread client = hall.unread client ++
        Hub.onlyFor grant.client [Hub.grantNotice grant.path] client := by
      simp only [goes, Hall.unread, extended.queued, List.append_assoc]
    have due : hall.manage.due client =
        others.filter fun other => other.client = client := by
      rw [goes]
      rfl
    have inUse : hall.manage.InUse client = hall.InUse client := by
      rw [goes]
      rfl
    have holds : hall.manage.Holds client = hall.Holds client := by
      funext path
      simp only [goes, Holds, store]
    have awaits : hall.manage.Awaits client = hall.Awaits client := by
      funext path
      simp only [goes, Awaits, store]
    have caller : hall.manage.callers client = hall.callers client := by
      rw [goes]
    by_cases same : client = grant.client
    · subst same
      refine .waiting (pending.of_caller caller (inUse ▸ pending.inUse)) ?_
        (.told (holds ▸ ⟨file, found, held⟩) (awaits ▸ free)
          (due.trans nothingElse))
      rw [unread, named]
      simp [Hub.onlyFor]
    · apply (orderly.inStep client).undisturbed
      refine .of_store caller ?_ ?_ (by rw [goes, store]) (inUse ▸ id)
      · rw [unread, Hub.onlyFor, if_neg same, List.append_nil]
      · have skipped : decide (grant.client = client) = false :=
          decide_eq_false (Ne.symm same)
        rw [due, Hall.due, phase, ManagerPhase.untold,
          List.filter_cons_of_neg (by simp [skipped])]

theorem manage : hall.manage.Orderly := by
  cases phase : hall.floor.manager with
  | waiting =>
      have attended := orderly.attended.manage
      simp only [Hall.manage, Floor.manage, phase] at attended ⊢
      exact orderly.of_manager _ _ attended rfl rfl
        (by rw [phase]; rfl) rfl
  | granting => exact orderly.grant phase
  | telling grants undelivered =>
      cases grants with
      | nil =>
          have attended := orderly.attended.manage
          simp only [Hall.manage, Floor.manage, phase] at attended ⊢
          refine orderly.of_manager _ _ attended rfl rfl
            (by rw [phase]; rfl) ?_
          split <;> rfl
      | cons grant others => exact orderly.tell phase
  | undoing grant others undelivered =>
      exact absurd phase (orderly.delivers grant others undelivered)

end Orderly

end Hall

end FileDepot
