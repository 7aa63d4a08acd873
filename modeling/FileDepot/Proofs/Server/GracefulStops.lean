import FileDepot.Proofs.Server.Whereabouts

/-!
# Graceful stops

Whatever the reception, the workers, the writers and the lock manager do, and
in whichever order, no connection is lost and none is in two places.  A
graceful stop waits for all of them, and leaves a store in which nobody holds a
lock or waits for one.
-/

namespace FileDepot

namespace House

/-- What holds of the books of the reception, of where connections are, and
between them and the hub. -/
structure InOrder (house : House) : Prop where
  increasing : house.accepted.Pairwise (· < ·)
  numbered : ∀ client ∈ house.accepted, client < house.reception.nextClient
  placed : (house.whereabouts.map Prod.fst).Perm house.accepted
  named : ∀ client connection,
    house.reception.idle.find? client = some connection →
      connection.client = client
  counted : house.reception.live + house.drained.length =
    house.accepted.length
  queueOpen : house.exit = none → house.reception.queue.closed = false
  tends : Tends house.hub house.accepted house.whereabouts
  finished : house.exit = some .graceful → house.reception.live = 0

theorem inOrder_new (limits : Limits) : (new limits).InOrder where
  increasing := .nil
  numbered client among := absurd among List.not_mem_nil
  placed := .nil
  named client connection found := by cases found
  counted := rfl
  queueOpen _ := rfl
  tends :=
    { sound := Store.sound_new limits
      outbox := fun client among => absurd among List.not_mem_nil
      registered := fun client registers => by cases registers
      involved := fun client involves =>
        absurd involves (Store.not_involves_new limits client) }
  finished closes := by cases closes

namespace InOrder

variable {house : House} (inOrder : house.InOrder)

include inOrder

theorem mem_accepted {client : ClientId} {place : Custody}
    (here : (client, place) ∈ house.whereabouts) : client ∈ house.accepted :=
  inOrder.placed.mem_iff.mp (List.mem_map_of_mem here)

theorem unique {client : ClientId} {first second : Custody}
    (one : (client, first) ∈ house.whereabouts)
    (other : (client, second) ∈ house.whereabouts) : first = second := by
  have nodup : (house.whereabouts.map Prod.fst).Nodup :=
    inOrder.placed.nodup_iff.mpr (inOrder.increasing.imp Nat.ne_of_lt)
  have same := List.inj_on_of_nodup_map nodup one other rfl
  exact (Prod.mk.inj same).2

/-- The house stays in order if one connection gets to another place and the
books are kept. -/
theorem of_moves {after : House} {client : ClientId} {source target : Custody}
    (moves : Moves house.whereabouts after.whereabouts client source target)
    (accepted : after.accepted = house.accepted)
    (next : after.reception.nextClient = house.reception.nextClient)
    (named : ∀ client connection,
      after.reception.idle.find? client = some connection →
        connection.client = client)
    (counted : after.reception.live + after.drained.length =
      house.accepted.length)
    (running : after.exit = none)
    (queueOpen : after.reception.queue.closed = false)
    (tends : Tends after.hub house.accepted after.whereabouts) :
    after.InOrder where
  increasing := accepted ▸ inOrder.increasing
  numbered := by
    rw [accepted, next]
    exact inOrder.numbered
  placed := accepted ▸ moves.clients inOrder.placed
  named := named
  counted := accepted ▸ counted
  queueOpen _ := queueOpen
  tends := accepted ▸ tends
  finished closes := by
    rw [running] at closes
    cases closes

theorem mem_idle {client : ClientId} {connection : Connection}
    (found : house.reception.idle.find? client = some connection) :
    (client, .idle) ∈ house.whereabouts := by
  have listed := (house.reception.idle.find?_eq_some_iff).mp found
  have named := inOrder.named client connection found
  simp only [whereabouts, List.mem_append, List.mem_map]
  exact Or.inl (Or.inl (Or.inl (Or.inl ⟨_, listed, by rw [named]⟩)))

theorem named_insert (connection : Connection) (client : ClientId)
    (other : Connection)
    (found : (house.reception.idle.insert connection.client
      connection).find? client = some other) : other.client = client := by
  rw [Index.find?_insert] at found
  split at found
  · rename_i same
    cases found
    exact same.symm
  · exact inOrder.named client other found

theorem length_returns_le :
    house.reception.returns.length ≤ house.reception.live := by
  have placed := inOrder.placed.length_eq
  have counted := inOrder.counted
  simp only [whereabouts, List.length_append, List.length_map] at placed
  omega

theorem failSetUp : house.failSetUp.InOrder := by
  unfold House.failSetUp
  split
  · have numbered := inOrder.numbered
    exact
      { inOrder with
        numbered := fun client among =>
          Nat.lt_succ_of_lt (numbered client among) }
  · exact inOrder

theorem react : house.react.InOrder := by
  rcases house.react_cases with ⟨-, goes⟩ | goes | ⟨none, goes⟩ | goes
  · rw [goes]
    exact inOrder
  · rw [goes]
    exact
      { inOrder with
        queueOpen := fun still => by cases still
        finished := fun graceful => by cases graceful }
  · rw [goes]
    exact
      { inOrder with
        queueOpen := fun still => by cases still
        finished := fun _ => none }
  · rw [goes]
    exact { inOrder with }

theorem requestShutdown (mode : ShutdownMode) :
    (house.requestShutdown mode).InOrder :=
  { inOrder with }

/-- What the writers and the lock manager do leaves the connections where they
are. -/
theorem withFloor {floor : Floor}
    (tends : Tends floor.hub house.accepted house.whereabouts) :
    (house.withFloor floor).InOrder :=
  { inOrder with tends }

theorem closeOutbox (client : ClientId) :
    (house.withFloor (house.floor.closeOutbox client)).InOrder := by
  refine inOrder.withFloor (inOrder.tends.of_hub inOrder.tends.sound ?_
    (fun _ => Or.inl) fun _ => Or.inl)
  intro other closed present
  simp only [Floor.closeOutbox, Hub.outboxClosed?_closeOutbox]
  split
  · exact ⟨true, by simp [floor, present], fun _ => rfl⟩
  · exact ⟨closed, present, id⟩

theorem write (client : ClientId) :
    (house.withFloor (house.floor.write client)).InOrder :=
  inOrder.withFloor (inOrder.tends.of_store rfl
    (house.floor.outboxClosed?_write client) (Or.inl rfl))

theorem manage : (house.withFloor house.floor.manage).InOrder := by
  obtain ⟨hub, manager, goes, registry, outboxes, same | changed⟩ :=
    house.floor.manage_cases
  · rw [goes]
    exact inOrder.withFloor
      (inOrder.tends.of_store registry outboxes (Or.inl same))
  · obtain ⟨operation, nobody, -, performed⟩ := changed
    rw [goes]
    exact inOrder.withFloor (inOrder.tends.of_store registry outboxes
      (Or.inr ⟨operation, nobody, performed⟩))

variable (running : house.exit = none)

include running

theorem accept : house.accept.InOrder := by
  rcases house.accept_cases with ⟨-, same⟩ | ⟨accepting, goes⟩
  · rw [same]
    exact inOrder
  have fresh : house.reception.nextClient ∉ house.accepted := by
    intro among
    exact absurd (inOrder.numbered _ among) (Nat.lt_irrefl _)
  have absent :
      house.reception.idle.find? house.reception.nextClient = none := by
    cases found : house.reception.idle.find? house.reception.nextClient with
    | none => rfl
    | some connection =>
        exact absurd (inOrder.mem_accepted (inOrder.mem_idle found)) fresh
  have more := whereabouts_accept absent accepting
  have tends := inOrder.tends.accept fresh more
  have placed : (house.accept.whereabouts.map Prod.fst).Perm
      (house.accepted ++ [house.reception.nextClient]) := by
    refine (more.map Prod.fst).trans ?_
    rw [List.map_append]
    exact inOrder.placed.append_right _
  have numbered := inOrder.numbered
  have counted := inOrder.counted
  rw [goes] at placed tends ⊢
  constructor
  · refine List.pairwise_append.mpr
      ⟨inOrder.increasing, List.pairwise_singleton _ _, ?_⟩
    intro earlier among later last
    rw [List.mem_singleton.mp last]
    exact numbered earlier among
  · intro client among
    rcases List.mem_append.mp among with before | last
    · exact Nat.lt_succ_of_lt (numbered client before)
    · rw [List.mem_singleton.mp last]
      exact Nat.lt_succ_self _
  · exact placed
  · exact inOrder.named_insert { client := house.reception.nextClient }
  · simp only [List.length_append, List.length_singleton]
    omega
  · exact inOrder.queueOpen
  · exact tends
  · intro closes
    simp [running] at closes

theorem handOff (client : ClientId) : (house.handOff client).InOrder := by
  have queueOpen := inOrder.queueOpen running
  rcases house.handOff_cases client with
    same | ⟨connection, found, ⟨-, goes⟩ | ⟨closed, -⟩⟩
  · rw [same]
    exact inOrder
  · have moves := moves_handOff found queueOpen
    have tends := inOrder.tends.move moves (Or.inl rfl) (Or.inl rfl)
    rw [goes] at moves tends ⊢
    refine inOrder.of_moves moves rfl rfl ?_ inOrder.counted running queueOpen
      tends
    intro other kept here
    rw [Index.find?_erase] at here
    split at here
    · cases here
    · exact inOrder.named other kept here
  · rw [queueOpen] at closed
    cases closed

theorem takeBack : house.takeBack.InOrder := by
  have queueOpen := inOrder.queueOpen running
  have counted := inOrder.counted
  rcases house.takeBack_cases with
    ⟨-, same⟩ | ⟨connection, returns, first, goes⟩ |
      ⟨client, returns, first, goes⟩
  · rw [same]
    exact inOrder
  · have returning :
        (connection.client, .returning true) ∈ house.whereabouts := by
      simp [whereabouts, first, Returned.custody]
    -- Its place in the table is free, or the connection would be in two places.
    have absent : house.reception.idle.find? connection.client = none := by
      cases found : house.reception.idle.find? connection.client with
      | none => rfl
      | some other =>
          have twice := inOrder.unique (inOrder.mem_idle found) returning
          cases twice
    have moves := moves_takeBack_rearm first absent
    have tends := inOrder.tends.move moves (Or.inl rfl) (Or.inl rfl)
    rw [goes] at moves tends ⊢
    exact inOrder.of_moves moves rfl rfl (inOrder.named_insert connection)
      counted running queueOpen tends
  · have moves := moves_takeBack_closed first
    have tends := inOrder.tends.move moves (Or.inl rfl) (Or.inl rfl)
    have alive := inOrder.length_returns_le
    rw [goes] at moves tends ⊢
    refine inOrder.of_moves moves rfl rfl inOrder.named ?_ running queueOpen
      tends
    simp only [first, List.length_cons] at alive
    simp only [List.length_append, List.length_singleton]
    omega

theorem pop {worker : Nat} (free : house.workers.find? worker = none) :
    (house.pop worker).InOrder := by
  rcases house.pop_cases worker with
    same | ⟨connection, items, queueOpen, first, goes⟩
  · rw [same]
    exact inOrder
  · have moves := moves_pop free first queueOpen
    have tends := inOrder.tends.move moves (Or.inl rfl) (Or.inl rfl)
    rw [goes] at moves tends ⊢
    exact inOrder.of_moves moves rfl rfl inOrder.named inOrder.counted running
      queueOpen tends

section Held

variable {worker : Nat} {connection : Connection}

theorem serve {charge : Charge}
    (holds : house.workers.find? worker = some charge)
    (taken : charge.handling = .taken)
    (same : connection.client = charge.connection.client) :
    (house.serve worker connection).InOrder := by
  have queueOpen := inOrder.queueOpen running
  have further : charge.handling ≠
      if (house.hub.serveOne connection).1 then .kept else .ended := by
    rw [taken]
    split <;> simp
  have name := (house.hub.client_serveOne connection).trans same
  have moves := moves_insert (house.hub.serveOne connection).2.2
    ⟨(house.hub.serveOne connection).2.1,
      if (house.hub.serveOne connection).1 then .kept else .ended⟩
    holds name further
  have known : Custody.isKnown (.held worker
      (if (house.hub.serveOne connection).1 then .kept else .ended)) =
        true := by
    split <;> rfl
  have keeps : Custody.keepsLocks (.held worker
      (if (house.hub.serveOne connection).1 then .kept else .ended)) =
        true := by
    split <;> rfl
  have tends := inOrder.tends.move moves
    (Or.inl (by rw [known, taken]; rfl)) (Or.inl (by rw [keeps, taken]; rfl))
  have served := tends.serve (same ▸ moves.mem_target) known keeps
  exact inOrder.of_moves moves rfl rfl inOrder.named inOrder.counted running
    queueOpen served

/-- The client gives up its locks before its connection gets to a place where
it may have none. -/
theorem release
    (holds : house.workers.find? worker = some ⟨connection, .ended⟩) :
    (house.release worker connection).InOrder := by
  have queueOpen := inOrder.queueOpen running
  have moves := moves_insert
    { house.hub with
      store := (house.hub.store.releaseClient connection.client).2 }
    ⟨connection,
      .released (house.hub.store.releaseClient connection.client).1⟩
    holds rfl (by simp)
  have released : Tends
      { house.hub with
        store := (house.hub.store.releaseClient connection.client).2 }
      house.accepted house.whereabouts :=
    inOrder.tends.of_store rfl (fun _ => rfl)
      (Or.inr ⟨.releaseClient connection.client, rfl, rfl⟩)
  have tends := released.move moves (Or.inl rfl)
    (Or.inr (house.hub.store.not_involves_releaseClient connection.client))
  exact inOrder.of_moves moves rfl rfl inOrder.named inOrder.counted running
    queueOpen tends

/-- The client is forgotten, and its outbox closed, before its connection gets
to a place where it may not be known. -/
theorem forget {locks : Nat}
    (holds : house.workers.find? worker =
      some ⟨connection, .released locks⟩) :
    (house.forget worker connection locks).InOrder := by
  have queueOpen := inOrder.queueOpen running
  have moves := moves_insert (house.forget worker connection locks).hub
    ⟨connection, .forgotten⟩ holds rfl (by simp)
  obtain ⟨-, closed, -, present, -⟩ := inOrder.tends.outbox connection.client
    (inOrder.mem_accepted moves.mem_source)
  obtain ⟨store, registry, outboxes⟩ :=
    house.hub_forget worker connection locks
  obtain ⟨forgets, unregistered, closes⟩ :=
    inOrder.tends.forget present _ store registry outboxes
  have tends := forgets.move moves (Or.inr ⟨unregistered, closes⟩)
    (Or.inl rfl)
  exact inOrder.of_moves moves rfl rfl inOrder.named inOrder.counted running
    queueOpen tends

theorem giveBack {charge : Charge} {returned : Returned} {stays : Bool}
    (holds : house.workers.find? worker = some charge)
    (gives : returned.custody = (charge.connection.client, .returning stays))
    (known : Custody.isKnown (.returning stays) =
      Custody.isKnown (.held worker charge.handling))
    (keeps : Custody.keepsLocks (.returning stays) =
      Custody.keepsLocks (.held worker charge.handling)) :
    (house.giveBack worker returned).InOrder := by
  have queueOpen := inOrder.queueOpen running
  have moves := moves_giveBack holds gives
  have tends := inOrder.tends.move moves (Or.inl known) (Or.inl keeps)
  exact inOrder.of_moves moves rfl rfl inOrder.named inOrder.counted running
    queueOpen tends

end Held

theorem work (worker : Nat) (incoming : Source) :
    (house.work worker incoming).InOrder := by
  unfold House.work
  split
  · rename_i free
    exact inOrder.pop running free
  · rename_i connection holds
    exact inOrder.serve running holds rfl rfl
  · rename_i connection holds
    exact inOrder.giveBack running holds rfl rfl rfl
  · rename_i connection holds
    exact inOrder.release running holds
  · rename_i connection locks holds
    exact inOrder.forget running holds
  · rename_i connection holds
    exact inOrder.giveBack running holds rfl rfl rfl

omit running in
theorem step (activity : Activity) : (house.step activity).InOrder := by
  unfold House.step
  split
  · exact inOrder
  · rename_i still
    have running : house.exit = none := by simpa using still
    cases activity with
    | accept => exact inOrder.accept running
    | failSetUp => exact inOrder.failSetUp
    | handOff client => exact inOrder.handOff running client
    | takeBack => exact inOrder.takeBack running
    | react => exact inOrder.react
    | requestShutdown mode => exact inOrder.requestShutdown mode
    | work worker incoming => exact inOrder.work running worker incoming
    | closeOutbox client => exact inOrder.closeOutbox client
    | write client => exact inOrder.write client
    | manage => exact inOrder.manage

end InOrder

theorem inOrder_run (limits : Limits) (activities : List Activity) :
    ((new limits).run activities).InOrder :=
  run_preserves (fun _ activity inOrder => inOrder.step activity) activities
    (inOrder_new limits)

namespace InOrder

variable {house : House} (inOrder : house.InOrder)

include inOrder

/-- The connections that are alive are those that the reception does not know
to be closed. -/
theorem live_eq : house.reception.live =
    (house.accepted.filter (· ∉ house.drained)).length := by
  have counted := inOrder.counted
  have nodup : house.accepted.Nodup :=
    inOrder.increasing.imp Nat.ne_of_lt
  obtain ⟨present, split⟩ : ∃ present,
      (present ++ house.drained).Perm house.accepted := by
    have placed := inOrder.placed
    have drained : house.drained.map (Prod.fst ∘ fun client =>
        (client, Custody.drained)) = house.drained :=
      List.map_id _
    rw [whereabouts, List.map_append, List.map_map, drained] at placed
    exact ⟨_, placed⟩
  have apart := List.disjoint_of_nodup_append (split.nodup_iff.mpr nodup)
  have kept : present.filter (· ∉ house.drained) = present :=
    List.filter_eq_self.mpr fun client here => by simpa using apart here
  have gone : house.drained.filter (· ∉ house.drained) = [] :=
    List.filter_eq_nil_iff.mpr fun client here => by simpa using here
  have alive := (split.filter (· ∉ house.drained)).length_eq
  have all := split.length_eq
  rw [List.filter_append, kept, gone, List.append_nil] at alive
  rw [List.length_append] at all
  omega

/-- When no connection is alive, all of them were closed, and the reception
knows of each. -/
theorem whereabouts_eq (none : house.reception.live = 0) :
    house.whereabouts =
      house.drained.map fun client => (client, .drained) := by
  have placed := inOrder.placed.length_eq
  have counted := inOrder.counted
  simp only [whereabouts, List.length_map, List.length_append] at placed
  have idle : house.reception.idle.entries = [] :=
    List.length_eq_zero_iff.mp (by omega)
  have queued : house.reception.queue.items = [] :=
    List.length_eq_zero_iff.mp (by omega)
  have held : house.workers.entries = [] :=
    List.length_eq_zero_iff.mp (by omega)
  have returning : house.reception.returns = [] :=
    List.length_eq_zero_iff.mp (by omega)
  simp [whereabouts, idle, queued, held, returning]

/-- Once no connection is alive, the hub knows of no client any more. -/
theorem left_behind (none : house.reception.live = 0) :
    (∀ client ∈ house.accepted, client ∈ house.drained ∧
      house.hub.registry.contains client = false ∧
      house.hub.outboxClosed? client = some true) ∧
    ∀ path file, house.hub.store.file? path = some file →
      file.owner = .none ∧ file.waiters = [] := by
  have gone {client : ClientId} {place : Custody}
      (here : (client, place) ∈ house.whereabouts) :
      client ∈ house.drained ∧ place = .drained := by
    rw [inOrder.whereabouts_eq none, List.mem_map] at here
    obtain ⟨other, drained, same⟩ := here
    cases same
    exact ⟨drained, rfl⟩
  have uninvolved (client : ClientId) :
      ¬house.hub.store.Involves client := by
    intro involves
    obtain ⟨place, here, keeps⟩ := inOrder.tends.involved client involves
    rw [(gone here).2] at keeps
    cases keeps
  constructor
  · intro client among
    obtain ⟨place, closed, here, present, closes⟩ :=
      inOrder.tends.outbox client among
    obtain ⟨drained, rfl⟩ := gone here
    refine ⟨drained, ?_, ?_⟩
    · rw [Bool.eq_false_iff]
      intro registers
      obtain ⟨other, there, known⟩ :=
        inOrder.tends.registered client registers
      rw [(gone there).2] at known
      cases known
    · rw [present, closes rfl]
  · intro path file found
    constructor
    · cases held : file.owner with
      | none => rfl
      | some client =>
          exact absurd ⟨path, file, found, Or.inl held⟩ (uninvolved client)
    · refine List.eq_nil_iff_forall_not_mem.mpr fun client waits => ?_
      exact uninvolved client ⟨path, file, found, Or.inr waits⟩

end InOrder

/-- No connection will be accepted any more. -/
def Closing (house : House) : Prop :=
  house.reception.accepting = false ∨ house.exit.isSome = true

theorem accepting_work (worker : Nat) (incoming : Source) (house : House) :
    (house.work worker incoming).accepted = house.accepted ∧
      (house.work worker incoming).reception.accepting =
        house.reception.accepting := by
  unfold work
  split
  · rcases house.pop_cases worker with same | ⟨connection, items, -, -, goes⟩
    · rw [same]
      exact ⟨rfl, rfl⟩
    · rw [goes]
      exact ⟨rfl, rfl⟩
  all_goals exact ⟨rfl, rfl⟩

/-- The reception that acts on a request to stop accepts nobody from then
on. -/
theorem closing_react {house : House}
    (asked : house.reception.shutdown ≠ none) :
    house.react.Closing ∧ house.react.accepted = house.accepted := by
  rcases house.react_cases with ⟨none, -⟩ | goes | ⟨-, goes⟩ | goes
  · exact absurd none asked
  · rw [goes]
    exact ⟨Or.inr rfl, rfl⟩
  · rw [goes]
    exact ⟨Or.inr rfl, rfl⟩
  · rw [goes]
    exact ⟨Or.inl rfl, rfl⟩

namespace Closing

variable {house : House} (closing : house.Closing)

include closing

theorem step (activity : Activity) :
    (house.step activity).Closing ∧
      (house.step activity).accepted = house.accepted := by
  unfold House.step
  split
  · exact ⟨closing, rfl⟩
  rename_i still
  have shut : house.reception.accepting = false := closing.resolve_right still
  cases activity with
  | accept =>
      rcases house.accept_cases with ⟨-, same⟩ | ⟨accepting, -⟩
      · dsimp only
        rw [same]
        exact ⟨closing, rfl⟩
      · rw [shut] at accepting
        cases accepting
  | failSetUp =>
      have same : house.failSetUp = house := by simp [failSetUp, shut]
      dsimp only
      rw [same]
      exact ⟨closing, rfl⟩
  | handOff client =>
      rcases house.handOff_cases client with
        goes | ⟨connection, -, ⟨-, goes⟩ | ⟨-, goes⟩⟩
      all_goals
        dsimp only
        rw [goes]
        exact ⟨Or.inl shut, rfl⟩
  | takeBack =>
      rcases house.takeBack_cases with
        ⟨-, goes⟩ | ⟨connection, returns, -, goes⟩ |
          ⟨client, returns, -, goes⟩
      all_goals
        dsimp only
        rw [goes]
        exact ⟨Or.inl shut, rfl⟩
  | react =>
      by_cases asked : house.reception.shutdown = none
      · have same : house.react = house := by
          simp [House.react, Reception.react, asked]
        dsimp only
        rw [same]
        exact ⟨closing, rfl⟩
      · exact closing_react asked
  | requestShutdown mode => exact ⟨Or.inl shut, rfl⟩
  | work worker incoming =>
      obtain ⟨accepted, accepting⟩ := accepting_work worker incoming house
      exact ⟨Or.inl (accepting.trans shut), accepted⟩
  | closeOutbox client => exact ⟨Or.inl shut, rfl⟩
  | write client => exact ⟨Or.inl shut, rfl⟩
  | manage => exact ⟨Or.inl shut, rfl⟩

theorem run (activities : List Activity) :
    (house.run activities).accepted = house.accepted := by
  induction activities generalizing house with
  | nil => rfl
  | cons activity later ih =>
      obtain ⟨closes, same⟩ := closing.step activity
      exact (ih closes).trans same

end Closing

theorem accepted_run_react {house : House}
    (asked : house.reception.shutdown ≠ none) (later : List Activity) :
    (house.run (.react :: later)).accepted = house.accepted := by
  have stops : (house.step .react).Closing ∧
      (house.step .react).accepted = house.accepted := by
    unfold House.step
    split
    · rename_i closed
      exact ⟨Or.inr closed, rfl⟩
    · exact closing_react asked
  exact (stops.1.run later).trans stops.2

/-- Until the reception closes, the numbers of accepted connections increase,
each of these connections is in exactly one place, those are counted as alive
that the reception does not know to be closed, and it counts down for no other.
Once it has acted on a request to stop, no connection is accepted, and after a
graceful stop it closes only when all of them were disconnected, none of their
clients is known any more, and nobody holds a lock or waits for one. -/
theorem connections_are_never_lost (limits : Limits)
    (activities : List Activity) :
    let house := (new limits).run activities
    house.accepted.Pairwise (· < ·) ∧
    (house.whereabouts.map Prod.fst).Perm house.accepted ∧
    house.reception.live =
      (house.accepted.filter (· ∉ house.drained)).length ∧
    house.reception.returns.length ≤ house.reception.live ∧
    (house.exit = none → house.reception.queue.closed = false) ∧
    (∀ earlier later, activities = earlier ++ .react :: later →
      ((new limits).run earlier).reception.shutdown ≠ none →
        house.accepted = ((new limits).run earlier).accepted) ∧
    (house.exit = some .graceful →
      (∀ client ∈ house.accepted, client ∈ house.drained ∧
        house.hub.registry.contains client = false ∧
        house.hub.outboxClosed? client = some true) ∧
      ∀ path file, house.hub.store.file? path = some file →
        file.owner = none ∧ file.waiters = []) := by
  have inOrder := inOrder_run limits activities
  refine ⟨inOrder.increasing, inOrder.placed, inOrder.live_eq,
    inOrder.length_returns_le, inOrder.queueOpen, ?_, ?_⟩
  · intro earlier later split asked
    rw [split, run_append]
    exact accepted_run_react asked later
  · intro closes
    exact inOrder.left_behind (inOrder.finished closes)

/-- Two clients connect, and one of them creates a file under its lock.  A
graceful stop lets in no third, and waits until two workers have disconnected
both. -/
def lastOrders : List Activity :=
  let serves (request : Request) : List Activity :=
    .handOff 1 ::
      List.replicate 3 (.work 0 (.ofBytes request.frame)) ++ [.takeBack]
  [.accept, .accept] ++ serves { operation := .openConnection } ++
    serves (.openFile "f" { create := true, lock := true }) ++
    [.requestShutdown .graceful, .react, .accept, .handOff 2, .handOff 1] ++
    List.replicate 5 (.work 0 []) ++ List.replicate 5 (.work 1 []) ++
    [.react, .takeBack, .takeBack, .react, .accept]

theorem last_orders_end_the_house :
    ((new {}).run lastOrders).exit = some .graceful ∧
    ((new {}).run lastOrders).accepted = [1, 2] ∧
    (∀ client ∈ [1, 2], client ∈ ((new {}).run lastOrders).drained ∧
      ((new {}).run lastOrders).hub.registry.contains client = false ∧
      ((new {}).run lastOrders).hub.outboxClosed? client = some true) ∧
    ∀ path file, ((new {}).run lastOrders).hub.store.file? path = some file →
      file.owner = none ∧ file.waiters = [] := by
  have closes : ((new {}).run lastOrders).exit = some .graceful := by
    decide +kernel
  have accepted : ((new {}).run lastOrders).accepted = [1, 2] := by
    decide +kernel
  obtain ⟨-, -, -, -, -, -, leaves⟩ := connections_are_never_lost {} lastOrders
  obtain ⟨gone, free⟩ := leaves closes
  rw [accepted] at gone
  exact ⟨closes, accepted, gone, free⟩

end House

end FileDepot
