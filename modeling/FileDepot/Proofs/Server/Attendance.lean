import FileDepot.Proofs.Server.Floor
import FileDepot.Proofs.Server.Serving

/-!
# Locks and live clients

Whoever holds a lock or waits for one has a connection with an open session
and is registered.  A client that was disconnected is gone for good, because
the numbers of clients are never used again.
-/

namespace FileDepot

namespace Registry

theorem contains_register (registry : Registry) (client other : ClientId) :
    (registry.register client).contains other = true ↔
      other = client ∨ registry.contains other = true := by
  unfold register contains
  split
  · rename_i known
    simp only [List.contains_iff_mem]
    constructor
    · exact Or.inr
    · rintro (rfl | member)
      · exact known
      · exact member
  · simp

theorem contains_unregister (registry : Registry) (client other : ClientId) :
    (registry.unregister client).contains other = true ↔
      other ≠ client ∧ registry.contains other = true := by
  simp [unregister, contains, and_comm]

theorem outOfReach_register {registry : Registry} (client : ClientId)
    (reached : registry.outOfReach = []) :
    (registry.register client).outOfReach = [] := by
  unfold register
  split <;> simp [reached]

theorem outOfReach_unregister {registry : Registry} (client : ClientId)
    (reached : registry.outOfReach = []) :
    (registry.unregister client).outOfReach = [] := by
  simp [unregister, reached]

end Registry

/-- The locks of a client have not been given up by a worker. -/
def Seat.KeepsLocks (seat : Seat) : Prop :=
  ∀ locks, seat.stage ≠ .released locks

namespace Floor

/-- What holds between the store, the connections and the registry. -/
structure Attended (floor : Floor) : Prop where
  sound : floor.hub.store.Sound
  inOrder : floor.hub.store.QueuesInOrder
  named : ∀ client seat, floor.seats.find? client = some seat →
    seat.connection.client = client
  numbered : ∀ client seat, floor.seats.find? client = some seat →
    client < floor.nextClient
  outbox : ∀ client seat, floor.seats.find? client = some seat →
    ∃ closed, floor.hub.outboxClosed? client = some closed
  reached : floor.hub.registry.outOfReach = []
  registered : ∀ client, floor.hub.registry.contains client = true ↔
    ∃ seat, floor.seats.find? client = some seat ∧
      seat.connection.session.isActive = true
  involved : ∀ client, floor.hub.store.Involves client →
    ∃ seat, floor.seats.find? client = some seat ∧
      seat.connection.session.isActive = true ∧ seat.KeepsLocks

theorem attended_new (limits : Limits) : (new limits).Attended where
  sound := Store.sound_new limits
  inOrder := Store.queuesInOrder_new limits
  named client seat seated := by cases seated
  numbered client seat seated := by cases seated
  outbox client seat seated := by cases seated
  reached := rfl
  registered client := by
    constructor
    · intro registered
      cases registered
    · rintro ⟨seat, seated, -⟩
      cases seated
  involved client involved :=
    absurd involved (Store.not_involves_new limits client)

namespace Attended

variable {floor : Floor} (attended : floor.Attended)

include attended

/-- Nothing is known of a client whose number was not given out. -/
theorem unseated_next : floor.seats.find? floor.nextClient = none := by
  cases seated : floor.seats.find? floor.nextClient with
  | none => rfl
  | some seat =>
      exact absurd (attended.numbered _ seat seated) (Nat.lt_irrefl _)

theorem accept : floor.accept.Attended := by
  have fresh := attended.unseated_next
  have find (client : ClientId) : floor.accept.seats.find? client =
      if client = floor.nextClient then
        some { connection := { client := floor.nextClient } }
      else
        floor.seats.find? client :=
    floor.seats.find?_insert floor.nextClient client _
  have kept {client : ClientId} {seat : Seat}
      (seated : floor.seats.find? client = some seat) :
      floor.accept.seats.find? client = some seat := by
    have different : client ≠ floor.nextClient := by
      rintro rfl
      simp [fresh] at seated
    rw [find, if_neg different, seated]
  constructor
  · exact attended.sound
  · exact attended.inOrder
  · intro client seat seated
    rw [find] at seated
    split at seated
    · rename_i same
      cases seated
      exact same.symm
    · exact attended.named client seat seated
  · intro client seat seated
    change client < floor.nextClient + 1
    rw [find] at seated
    split at seated
    · rename_i same
      exact same ▸ Nat.lt_succ_self _
    · exact Nat.lt_succ_of_lt (attended.numbered client seat seated)
  · intro client seat seated
    change ∃ closed,
      (floor.hub.openOutbox floor.nextClient).outboxClosed? client = some closed
    rw [Hub.outboxClosed?_openOutbox]
    rw [find] at seated
    split at seated
    · rename_i same
      exact ⟨false, if_pos same⟩
    · rename_i different
      rw [if_neg different]
      exact attended.outbox client seat seated
  · exact attended.reached
  · intro client
    refine (attended.registered client).trans ⟨?_, ?_⟩
    · rintro ⟨seat, seated, active⟩
      exact ⟨seat, kept seated, active⟩
    · rintro ⟨seat, seated, active⟩
      rw [find] at seated
      split at seated
      · cases seated
        cases active
      · exact ⟨seat, seated, active⟩
  · intro client involved
    obtain ⟨seat, seated, active, keeps⟩ := attended.involved client involved
    exact ⟨seat, kept seated, active, keeps⟩

/-- A hub may change under the same connections if nobody comes to hold a lock
or to wait for one. -/
theorem of_hub (hub : Hub) (manager : ManagerPhase)
    (sound : hub.store.Sound) (inOrder : hub.store.QueuesInOrder)
    (registry : hub.registry = floor.hub.registry)
    (outboxes : ∀ client, floor.hub.outboxClosed? client ≠ none →
      hub.outboxClosed? client ≠ none)
    (involved : ∀ client, hub.store.Involves client →
      floor.hub.store.Involves client) :
    Attended { floor with hub, manager } where
  sound := sound
  inOrder := inOrder
  named := attended.named
  numbered := attended.numbered
  outbox client seat seated := by
    obtain ⟨closed, present⟩ := attended.outbox client seat seated
    exact Option.ne_none_iff_exists'.mp
      (outboxes client (by simp [present]))
  reached := registry ▸ attended.reached
  registered := registry ▸ attended.registered
  involved client involves := attended.involved client
    (involved client involves)

theorem closeOutbox (client : ClientId) :
    (floor.closeOutbox client).Attended := by
  refine attended.of_hub _ floor.manager attended.sound attended.inOrder rfl
    ?_ fun _ => id
  intro other present
  rw [Hub.outboxClosed?_closeOutbox]
  split
  · simpa using present
  · exact present

theorem write (client : ClientId) : (floor.write client).Attended := by
  refine attended.of_hub _ floor.manager attended.sound attended.inOrder rfl
    ?_ fun _ => id
  intro other present
  simp only [Hub.outboxClosed?, Hub.outbox?, Index.find?_modify]
  split
  · simpa [Hub.outboxClosed?, Hub.outbox?] using present
  · exact present

theorem manage : floor.manage.Attended := by
  obtain ⟨hub, manager, goes, registry, outboxes, same | changed⟩ :=
    floor.manage_cases
  · rw [goes]
    exact attended.of_hub _ _ (same ▸ attended.sound) (same ▸ attended.inOrder)
      registry (fun client => outboxes client ▸ id) fun client => same ▸ id
  · obtain ⟨operation, nobody, -, performed⟩ := changed
    rw [goes]
    refine attended.of_hub _ _
      (performed ▸ attended.sound.perform operation)
      (performed ▸ attended.inOrder.perform attended.sound.consistent operation)
      registry (fun client => outboxes client ▸ id) ?_
    intro client involved
    rw [performed] at involved
    rcases Store.involves_of_perform attended.sound.consistent operation
      involved with before | seeks
    · exact before
    · rw [nobody] at seeks
      cases seeks

/-- A connection may change together with the hub if its client is registered
exactly when its session is open, and nobody else comes to hold a lock or to
wait for one. -/
theorem reseat {client : ClientId} {old seat : Seat} {hub : Hub}
    (seated : floor.seats.find? client = some old)
    (sound : hub.store.Sound) (inOrder : hub.store.QueuesInOrder)
    (named : seat.connection.client = client)
    (outboxes : ∀ other, hub.outboxClosed? other =
      floor.hub.outboxClosed? other)
    (reached : hub.registry.outOfReach = [])
    (registered : hub.registry.contains client = true ↔
      seat.connection.session.isActive = true)
    (others : ∀ other, other ≠ client →
      (hub.registry.contains other = true ↔
        floor.hub.registry.contains other = true))
    (involved : ∀ other, hub.store.Involves other →
      if other = client then
        seat.connection.session.isActive = true ∧ seat.KeepsLocks
      else
        floor.hub.store.Involves other) :
    Attended { floor with
      hub, seats := floor.seats.insert client seat } := by
  have find (other : ClientId) :
      (floor.seats.insert client seat).find? other =
        if other = client then some seat else floor.seats.find? other :=
    floor.seats.find?_insert client other seat
  constructor
  · exact sound
  · exact inOrder
  · intro other found here
    rw [find] at here
    split at here
    · rename_i same
      cases here
      exact named.trans same.symm
    · exact attended.named other found here
  · intro other found here
    rw [find] at here
    split at here
    · rename_i same
      exact same ▸ attended.numbered client old seated
    · exact attended.numbered other found here
  · intro other found here
    rw [find] at here
    rw [outboxes]
    split at here
    · rename_i same
      exact same ▸ attended.outbox client old seated
    · exact attended.outbox other found here
  · exact reached
  · intro other
    simp only [find]
    by_cases same : other = client
    · subst same
      simpa using registered
    · simpa [same] using (others other same).trans (attended.registered other)
  · intro other involves
    have cases := involved other involves
    simp only [find]
    split at cases
    · rename_i same
      exact ⟨seat, if_pos same, cases⟩
    · rename_i different
      rw [if_neg different]
      exact attended.involved other cases

theorem serve (client : ClientId) (incoming : Source) :
    (floor.serve client incoming).Attended := by
  rcases floor.serve_cases client incoming with
    same | ⟨connection, seated, goes⟩
  · rw [same]
    exact attended
  rw [goes]
  have named : connection.client = client := attended.named client _ seated
  have keptName := floor.hub.client_serveOne { connection with incoming }
  have registered := attended.registered client
  simp only [seated, Option.some.injEq, exists_eq_left'] at registered
  have keeps : Seat.KeepsLocks
      ⟨(floor.hub.serveOne { connection with incoming }).2.1,
        if (floor.hub.serveOne { connection with incoming }).1 then
          .inUse
        else
          .ended⟩ := by
    intro locks
    dsimp only
    split <;> simp
  cases floor.hub.serves_serveOne { connection with incoming } with
  | opened unopened opened extended =>
      have registry := extended.registry
      refine attended.reseat seated (extended.store ▸ attended.sound)
        (extended.store ▸ attended.inOrder) (keptName.trans named)
        extended.outboxClosed? ?_ ?_ ?_ ?_
      · rw [registry]
        exact Registry.outOfReach_register _ attended.reached
      · rw [registry, Registry.contains_register, opened]
        simp [named, Session.isActive]
      · intro other different
        rw [registry, Registry.contains_register]
        simp [named, different]
      · intro other involves
        rw [extended.store] at involves
        split
        · rw [opened]
          exact ⟨rfl, keeps⟩
        · exact involves
  | quiet same extended =>
      refine attended.reseat seated (extended.store ▸ attended.sound)
        (extended.store ▸ attended.inOrder) (keptName.trans named)
        extended.outboxClosed? (extended.registry ▸ attended.reached) ?_ ?_ ?_
      · rw [extended.registry, same]
        exact registered
      · intro other _
        rw [extended.registry]
      · intro other involves
        rw [extended.store] at involves
        split
        · rename_i here
          obtain ⟨seat, found, active, -⟩ := attended.involved other involves
          rw [here, seated, Option.some.injEq] at found
          subst found
          rw [same]
          exact ⟨active, keeps⟩
        · exact involves
  | carried operation asked active still extended =>
      have store := extended.store
      refine attended.reseat seated
        (store ▸ attended.sound.perform operation)
        (store ▸ attended.inOrder.perform attended.sound.consistent operation)
        (keptName.trans named) extended.outboxClosed?
        (extended.registry ▸ attended.reached) ?_ ?_ ?_
      · rw [extended.registry, still]
        exact registered.trans (by simp [active])
      · intro other _
        rw [extended.registry]
      · intro other involves
        rw [store] at involves
        split
        · exact ⟨still, keeps⟩
        · rename_i different
          rcases Store.involves_of_perform attended.sound.consistent operation
            involves with before | seeks
          · exact before
          · have asker := Hub.client?_of_asked asked
            rw [StoreOperation.client?_of_seeker seeks,
              Option.some.injEq] at asker
            exact absurd (asker.trans named) different

theorem release (client : ClientId) : (floor.release client).Attended := by
  rcases floor.release_cases client with
    same | ⟨connection, stage, seated, -, goes⟩
  · rw [same]
    exact attended
  rw [goes]
  have named : connection.client = client := attended.named client _ seated
  have registered := attended.registered client
  simp only [seated, Option.some.injEq, exists_eq_left'] at registered
  refine attended.reseat seated
    (attended.sound.perform (.releaseClient client))
    (attended.inOrder.perform attended.sound.consistent
      (.releaseClient client))
    named (fun _ => rfl) attended.reached
    registered (fun _ _ => Iff.rfl) ?_
  intro other involves
  split
  · rename_i same
    exact absurd (same ▸ involves)
      (floor.hub.store.not_involves_releaseClient client)
  · rcases Store.involves_of_perform attended.sound.consistent
      (.releaseClient client) involves with before | seeks
    · exact before
    · cases seeks

theorem forget (client : ClientId) : (floor.forget client).Attended := by
  rcases floor.forget_cases client with
    same | ⟨connection, locks, seated, goes⟩
  · rw [same]
    exact attended
  have find (other : ClientId) : (floor.seats.erase client).find? other =
      if other = client then none else floor.seats.find? other :=
    floor.seats.find?_erase client other
  -- Whether the trigger is fired makes no difference here.
  have forgotten (hub : Hub) (store : hub.store = floor.hub.store)
      (registry : hub.registry = floor.hub.registry.unregister client)
      (outboxes : hub.outboxes =
        (floor.hub.closeOutbox client).outboxes) :
      Attended { floor with hub, seats := floor.seats.erase client } := by
    constructor
    · exact store ▸ attended.sound
    · exact store ▸ attended.inOrder
    · intro other seat here
      rw [find] at here
      split at here
      · cases here
      · exact attended.named other seat here
    · intro other seat here
      rw [find] at here
      split at here
      · cases here
      · exact attended.numbered other seat here
    · intro other seat here
      rw [find] at here
      split at here
      · cases here
      · rename_i different
        have closed : hub.outboxClosed? other =
            (floor.hub.closeOutbox client).outboxClosed? other := by
          simp only [Hub.outboxClosed?, Hub.outbox?, outboxes]
        rw [closed, Hub.outboxClosed?_closeOutbox, if_neg different]
        exact attended.outbox other seat here
    · rw [registry]
      exact Registry.outOfReach_unregister client attended.reached
    · intro other
      rw [registry, Registry.contains_unregister, attended.registered]
      simp only [find]
      by_cases same : other = client
      · simp [same]
      · simp [same]
    · intro other involves
      rw [store] at involves
      obtain ⟨seat, here, active, keeps⟩ := attended.involved other involves
      refine ⟨seat, ?_, active, keeps⟩
      rw [find, if_neg, here]
      rintro rfl
      rw [seated, Option.some.injEq] at here
      exact keeps locks (here ▸ rfl)
  rw [goes]
  split
  · exact forgotten _ rfl rfl rfl
  · exact forgotten _ rfl rfl rfl

theorem move (move : Move) : (floor.move move).Attended := by
  cases move with
  | accept => exact attended.accept
  | serve client incoming => exact attended.serve client incoming
  | release client => exact attended.release client
  | forget client => exact attended.forget client
  | closeOutbox client => exact attended.closeOutbox client
  | write client => exact attended.write client
  | manage => exact attended.manage

end Attended

theorem attended_run (limits : Limits) (moves : List Move) :
    ((new limits).run moves).Attended :=
  run_preserves (fun _ move attended => attended.move move) moves
    (attended_new limits)

/-- The number of a client was given out, and its connection is gone. -/
def Gone (floor : Floor) (client : ClientId) : Prop :=
  client < floor.nextClient ∧ floor.seats.find? client = none

theorem Gone.move {floor : Floor} {client : ClientId}
    (gone : floor.Gone client) (move : Move) :
    (floor.move move).Gone client := by
  obtain ⟨numbered, unseated⟩ := gone
  have elsewhere {other : ClientId} {seat : Seat}
      (seated : floor.seats.find? other = some seat) : client ≠ other := by
    rintro rfl
    simp [unseated] at seated
  cases move with
  | accept =>
      refine ⟨Nat.lt_succ_of_lt numbered, ?_⟩
      simp only [Floor.move, accept, Index.find?_insert]
      rw [if_neg (Nat.ne_of_lt numbered), unseated]
  | serve other incoming =>
      rcases floor.serve_cases other incoming with
        same | ⟨connection, seated, goes⟩
      · rw [Floor.move, same]
        exact ⟨numbered, unseated⟩
      · rw [Floor.move, goes]
        refine ⟨numbered, ?_⟩
        rw [Index.find?_insert, if_neg (elsewhere seated), unseated]
  | release other =>
      rcases floor.release_cases other with
        same | ⟨connection, stage, seated, -, goes⟩
      · rw [Floor.move, same]
        exact ⟨numbered, unseated⟩
      · rw [Floor.move, goes]
        refine ⟨numbered, ?_⟩
        rw [Index.find?_insert, if_neg (elsewhere seated), unseated]
  | forget other =>
      rcases floor.forget_cases other with
        same | ⟨connection, locks, seated, goes⟩
      · rw [Floor.move, same]
        exact ⟨numbered, unseated⟩
      · rw [Floor.move, goes]
        refine ⟨numbered, ?_⟩
        rw [Index.find?_erase, if_neg (elsewhere seated), unseated]
  | closeOutbox other => exact ⟨numbered, unseated⟩
  | write other => exact ⟨numbered, unseated⟩
  | manage =>
      obtain ⟨hub, manager, goes, -⟩ := floor.manage_cases
      rw [Floor.move, goes]
      exact ⟨numbered, unseated⟩

theorem Attended.unknown_of_gone {floor : Floor} (attended : floor.Attended)
    {client : ClientId} (gone : floor.Gone client) :
    ¬ floor.hub.store.Involves client ∧
      floor.hub.registry.contains client = false := by
  constructor
  · intro involves
    obtain ⟨seat, seated, -⟩ := attended.involved client involves
    simp [gone.2] at seated
  · rw [Bool.eq_false_iff]
    intro registered
    obtain ⟨seat, seated, -⟩ := (attended.registered client).mp registered
    simp [gone.2] at seated

theorem Attended.gone_of_forget {floor : Floor} (attended : floor.Attended)
    {client : ClientId} {connection : Connection} {locks : Nat}
    (seated : floor.seats.find? client = some ⟨connection, .released locks⟩) :
    (floor.forget client).Gone client := by
  simp only [Floor.forget, seated]
  refine ⟨attended.numbered client _ seated, ?_⟩
  rw [Index.find?_erase, if_pos rfl]

/-- In every run, whoever holds or awaits a lock has a connection with an open
session and is registered, a connection is registered exactly when its session
is open, and a client that was disconnected never holds a lock, awaits one, or
is registered again. -/
theorem locks_stay_with_live_clients (limits : Limits) (moves : List Move) :
    (∀ client path file,
      ((new limits).run moves).hub.store.file? path = some file →
      file.owner = some client ∨ client ∈ file.waiters →
      ∃ seat, ((new limits).run moves).seats.find? client = some seat ∧
        seat.connection.session.isActive = true ∧
        ((new limits).run moves).hub.registry.contains client = true) ∧
    (∀ client seat, ((new limits).run moves).seats.find? client = some seat →
      (((new limits).run moves).hub.registry.contains client = true ↔
        seat.connection.session.isActive = true)) ∧
    (∀ earlier client later connection locks,
      moves = earlier ++ .forget client :: later →
      ((new limits).run earlier).seats.find? client =
        some ⟨connection, .released locks⟩ →
      ((new limits).run moves).hub.registry.contains client = false ∧
        ∀ path file,
          ((new limits).run moves).hub.store.file? path = some file →
          file.owner ≠ some client ∧ client ∉ file.waiters) := by
  have attended := attended_run limits moves
  refine ⟨?_, ?_, ?_⟩
  · intro client path file found involves
    obtain ⟨seat, seated, active, -⟩ :=
      attended.involved client ⟨path, file, found, involves⟩
    exact ⟨seat, seated, active,
      (attended.registered client).mpr ⟨seat, seated, active⟩⟩
  · intro client seat seated
    have registered := attended.registered client
    simpa only [seated, Option.some.injEq, exists_eq_left'] using registered
  · intro earlier client later connection locks split released
    have gone : ((new limits).run moves).Gone client := by
      rw [split, run_append]
      have stays (floor : Floor) (move : Move) (gone : floor.Gone client) :
          (floor.move move).Gone client := gone.move move
      exact run_preserves stays later
        ((attended_run limits earlier).gone_of_forget released)
    obtain ⟨uninvolved, unregistered⟩ := attended.unknown_of_gone gone
    refine ⟨unregistered, ?_⟩
    intro path file found
    exact ⟨fun held => uninvolved ⟨path, file, found, Or.inl held⟩,
      fun waits => uninvolved ⟨path, file, found, Or.inr waits⟩⟩

/-- The first of two contesting clients is disconnected while the lock manager
is at work. -/
theorem first_contestant_leaves :
    ((new {}).run (contest.flatMap Turn.moves ++ [.release 1] ++
      .forget 1 :: [.manage, .manage])).hub.registry.contains 1 = false := by
  have released : ((new {}).run
      (contest.flatMap Turn.moves ++ [.release 1])).seats.find? 1 =
        some ⟨{ client := 1, session := .active ["f"] }, .released 1⟩ := by
    decide +kernel
  exact ((locks_stay_with_live_clients {} _).2.2 _ 1 _ _ _ rfl released).1

end Floor

end FileDepot
