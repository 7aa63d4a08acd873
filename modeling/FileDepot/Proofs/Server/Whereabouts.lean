import FileDepot.Proofs.Server.Attendance
import FileDepot.Proofs.Server.House

/-!
# Where connections are

A step in the house gets one connection from one place to another, or adds a
new one to those that are idle.  The hub follows: a client is registered only
as long as no worker has forgotten it, and holds and awaits locks only as long
as no worker has made it give them up.
-/

namespace FileDepot

theorem Hub.outboxClosed?_serveOne (hub : Hub) (connection : Connection)
    (client : ClientId) :
    (hub.serveOne connection).2.2.outboxClosed? client =
      hub.outboxClosed? client := by
  cases hub.serves_serveOne connection with
  | opened unopened opened extended => exact extended.outboxClosed? client
  | quiet same extended => exact extended.outboxClosed? client
  | carried operation asked active still extended =>
      exact extended.outboxClosed? client

/-- One connection gets from one place to another. -/
structure Moves (before after : List (ClientId × Custody)) (client : ClientId)
    (source target : Custody) : Prop where
  perm : (after ++ [(client, source)]).Perm (before ++ [(client, target)])
  differ : source ≠ target

namespace Moves

variable {before after : List (ClientId × Custody)} {client : ClientId}
  {source target : Custody} (moves : Moves before after client source target)

include moves

theorem clients {accepted : List ClientId}
    (placed : (before.map Prod.fst).Perm accepted) :
    (after.map Prod.fst).Perm accepted := by
  have same := moves.perm.map Prod.fst
  simp only [List.map_append, List.map_cons, List.map_nil] at same
  exact ((List.perm_append_right_iff _).mp same).trans placed

theorem mem_target : (client, target) ∈ after := by
  have among := moves.perm.mem_iff.mpr
    (List.mem_append_right before (List.mem_singleton_self (client, target)))
  rcases List.mem_append.mp among with here | same
  · exact here
  · rw [List.mem_singleton, Prod.mk.injEq] at same
    exact absurd same.2.symm moves.differ

theorem mem_source : (client, source) ∈ before := by
  have among := moves.perm.mem_iff.mp
    (List.mem_append_right after (List.mem_singleton_self (client, source)))
  rcases List.mem_append.mp among with here | same
  · exact here
  · rw [List.mem_singleton, Prod.mk.injEq] at same
    exact absurd same.2 moves.differ

theorem stays {other : ClientId} {place : Custody}
    (here : (other, place) ∈ before) :
    (other, place) ∈ after ∨ other = client ∧ place = source := by
  have among := moves.perm.mem_iff.mpr (List.mem_append_left _ here)
  rcases List.mem_append.mp among with still | same
  · exact Or.inl still
  · rw [List.mem_singleton, Prod.mk.injEq] at same
    exact Or.inr same

end Moves

namespace House

section Places

variable {house : House}

/-- How often a place is taken, part by part. -/
theorem count_whereabouts (house : House) (entry : ClientId × Custody) :
    house.whereabouts.count entry =
      (house.reception.idle.entries.map
        fun entry => (entry.2.client, Custody.idle)).count entry +
      (house.reception.queue.items.map
        fun connection => (connection.client, Custody.queued)).count entry +
      (house.workers.entries.map fun entry =>
        (entry.2.connection.client,
          Custody.held entry.1 entry.2.handling)).count entry +
      (house.reception.returns.map Returned.custody).count entry +
      (house.drained.map fun client => (client, Custody.drained)).count
        entry := by
  simp only [whereabouts, List.count_append]

theorem moves_handOff {client : ClientId} {connection : Connection}
    (found : house.reception.idle.find? client = some connection)
    (queueOpen : house.reception.queue.closed = false) :
    Moves house.whereabouts (house.handOff client).whereabouts
      connection.client .idle .queued := by
  obtain ⟨before, behind, split, joined⟩ :=
    house.reception.idle.entries_erase_found found
  refine ⟨List.perm_iff_count.mpr fun entry => ?_, by simp⟩
  -- Every place is taken as often as before, but for the two at either end.
  simp only [List.count_append, count_whereabouts, handOff, Reception.handOff,
    found, HandoffQueue.push, queueOpen, Bool.false_eq_true, if_false, split,
    joined, List.map_append, List.map_cons, List.map_nil, List.count_cons,
    List.count_nil]
  omega

theorem moves_pop {worker : Nat} {connection : Connection}
    {items : List Connection} (free : house.workers.find? worker = none)
    (first : house.reception.queue.items = connection :: items)
    (queueOpen : house.reception.queue.closed = false) :
    Moves house.whereabouts (house.pop worker).whereabouts connection.client
      .queued (.held worker .taken) := by
  have workers := house.workers.entries_insert_absent { connection } free
  refine ⟨List.perm_iff_count.mpr fun entry => ?_, by simp⟩
  simp only [List.count_append, count_whereabouts, pop, HandoffQueue.pop,
    queueOpen, Bool.false_eq_true, if_false, first, workers, List.map_append,
    List.map_cons, List.map_nil, List.count_cons, List.count_nil]
  omega

/-- A worker gets on with the connection in its hands. -/
theorem moves_insert {worker : Nat} {old : Charge} (hub : Hub) (new : Charge)
    (holds : house.workers.find? worker = some old)
    (same : new.connection.client = old.connection.client)
    (further : old.handling ≠ new.handling) :
    Moves house.whereabouts
      { house with
        hub, workers := house.workers.insert worker new }.whereabouts
      old.connection.client (.held worker old.handling)
      (.held worker new.handling) := by
  obtain ⟨before, behind, split, joined⟩ :=
    house.workers.entries_insert_found new holds
  refine ⟨List.perm_iff_count.mpr fun entry => ?_, by simpa using further⟩
  simp only [List.count_append, count_whereabouts, split, joined, same,
    List.map_append, List.map_cons, List.count_cons, List.count_nil]
  omega

theorem moves_giveBack {worker : Nat} {charge : Charge} {returned : Returned}
    {stays : Bool} (holds : house.workers.find? worker = some charge)
    (gives : returned.custody =
      (charge.connection.client, .returning stays)) :
    Moves house.whereabouts (house.giveBack worker returned).whereabouts
      charge.connection.client (.held worker charge.handling)
      (.returning stays) := by
  obtain ⟨before, behind, split, joined⟩ :=
    house.workers.entries_erase_found holds
  refine ⟨List.perm_iff_count.mpr fun entry => ?_, by simp⟩
  simp only [List.count_append, count_whereabouts, giveBack, split, joined,
    gives, List.map_append, List.map_cons, List.map_nil, List.count_cons,
    List.count_nil]
  omega

theorem moves_takeBack_rearm {connection : Connection}
    {returns : List Returned}
    (first : house.reception.returns = .rearm connection :: returns)
    (absent : house.reception.idle.find? connection.client = none) :
    Moves house.whereabouts house.takeBack.whereabouts connection.client
      (.returning true) .idle := by
  have idle := house.reception.idle.entries_insert_absent connection absent
  refine ⟨List.perm_iff_count.mpr fun entry => ?_, by simp⟩
  simp only [List.count_append, count_whereabouts, takeBack, first,
    Reception.takeBack, Returned.custody, idle, List.map_append,
    List.map_cons, List.map_nil, List.count_cons, List.count_nil]
  omega

theorem moves_takeBack_closed {client : ClientId} {returns : List Returned}
    (first : house.reception.returns = .closed client :: returns) :
    Moves house.whereabouts house.takeBack.whereabouts client
      (.returning false) .drained := by
  refine ⟨List.perm_iff_count.mpr fun entry => ?_, by simp⟩
  simp only [List.count_append, count_whereabouts, takeBack, first,
    Reception.takeBack, Returned.custody, List.map_append, List.map_cons,
    List.map_nil, List.count_cons, List.count_nil]
  omega

theorem whereabouts_accept
    (absent : house.reception.idle.find? house.reception.nextClient = none)
    (accepting : house.reception.accepting = true) :
    house.accept.whereabouts.Perm
      (house.whereabouts ++ [(house.reception.nextClient, .idle)]) := by
  have idle := house.reception.idle.entries_insert_absent
    { client := house.reception.nextClient } absent
  refine List.perm_iff_count.mpr fun entry => ?_
  simp only [List.count_append, count_whereabouts, accept, Reception.accept,
    accepting, if_true, idle, List.map_append, List.map_cons, List.map_nil]
  omega

end Places

/-- What holds between the hub, the connections that were accepted, and where
they are. -/
structure Tends (hub : Hub) (accepted : List ClientId)
    (places : List (ClientId × Custody)) : Prop where
  sound : hub.store.Sound
  outbox : ∀ client ∈ accepted, ∃ place closed, (client, place) ∈ places ∧
    hub.outboxClosed? client = some closed ∧
      (place.isKnown = false → closed = true)
  registered : ∀ client, hub.registry.contains client = true →
    ∃ place, (client, place) ∈ places ∧ place.isKnown = true
  involved : ∀ client, hub.store.Involves client →
    ∃ place, (client, place) ∈ places ∧ place.keepsLocks = true

namespace Tends

variable {hub : Hub} {accepted : List ClientId}
  {places : List (ClientId × Custody)} (tends : Tends hub accepted places)

include tends

/-- The hub may change if nobody is registered or comes to hold a lock or to
wait for one but those who may. -/
theorem of_hub {after : Hub} (sound : after.store.Sound)
    (outboxes : ∀ client closed, hub.outboxClosed? client = some closed →
      ∃ later, after.outboxClosed? client = some later ∧
        (closed = true → later = true))
    (registered : ∀ client, after.registry.contains client = true →
      hub.registry.contains client = true ∨
        ∃ place, (client, place) ∈ places ∧ place.isKnown = true)
    (involved : ∀ client, after.store.Involves client →
      hub.store.Involves client ∨
        ∃ place, (client, place) ∈ places ∧ place.keepsLocks = true) :
    Tends after accepted places where
  sound := sound
  outbox client among := by
    obtain ⟨place, closed, here, present, gone⟩ := tends.outbox client among
    obtain ⟨later, still, closes⟩ := outboxes client closed present
    exact ⟨place, later, here, still, fun unknown => closes (gone unknown)⟩
  registered client here :=
    (registered client here).elim (tends.registered client) id
  involved client here := (involved client here).elim (tends.involved client) id

/-- The lock manager and a client that gives up its locks change nothing but
the store, where nobody comes to hold a lock or to wait for one. -/
theorem of_store {after : Hub} (registry : after.registry = hub.registry)
    (outboxes : ∀ client,
      after.outboxClosed? client = hub.outboxClosed? client)
    (store : after.store = hub.store ∨ ∃ operation : StoreOperation,
      operation.seeker? = none ∧
        after.store = (hub.store.perform operation).2) :
    Tends after accepted places := by
  have same (client : ClientId) (closed : Bool)
      (present : hub.outboxClosed? client = some closed) :
      ∃ later, after.outboxClosed? client = some later ∧
        (closed = true → later = true) :=
    ⟨closed, (outboxes client).trans present, id⟩
  rcases store with still | ⟨operation, nobody, performed⟩
  · refine tends.of_hub (still ▸ tends.sound) same ?_ ?_
    · exact fun client registers => Or.inl (registry ▸ registers)
    · exact fun client involves => Or.inl (still ▸ involves)
  · refine tends.of_hub (performed ▸ tends.sound.perform operation) same ?_ ?_
    · exact fun client registers => Or.inl (registry ▸ registers)
    · intro client involves
      rw [performed] at involves
      rcases Store.involves_of_perform tends.sound.consistent operation
        involves with before | seeks
      · exact Or.inl before
      · rw [nobody] at seeks
        cases seeks

/-- A connection may get to another place if its client is as well known there
and keeps its locks, or is forgotten or has none. -/
theorem move {after : List (ClientId × Custody)} {client : ClientId}
    {source target : Custody} (moves : Moves places after client source target)
    (known : target.isKnown = source.isKnown ∨
      hub.registry.contains client = false ∧
        hub.outboxClosed? client = some true)
    (keeps : target.keepsLocks = source.keepsLocks ∨
      ¬hub.store.Involves client) :
    Tends hub accepted after where
  sound := tends.sound
  outbox other among := by
    obtain ⟨place, closed, here, present, gone⟩ := tends.outbox other among
    rcases moves.stays here with still | ⟨rfl, rfl⟩
    · exact ⟨place, closed, still, present, gone⟩
    · refine ⟨target, closed, moves.mem_target, present, ?_⟩
      intro unknown
      rcases known with same | ⟨-, closes⟩
      · exact gone (same ▸ unknown)
      · rw [closes, Option.some.injEq] at present
        exact present.symm
  registered other registers := by
    obtain ⟨place, here, isKnown⟩ := tends.registered other registers
    rcases moves.stays here with still | ⟨rfl, rfl⟩
    · exact ⟨place, still, isKnown⟩
    · rcases known with same | ⟨unregistered, -⟩
      · exact ⟨target, moves.mem_target, same.trans isKnown⟩
      · rw [unregistered] at registers
        cases registers
  involved other involves := by
    obtain ⟨place, here, keepsLocks⟩ := tends.involved other involves
    rcases moves.stays here with still | ⟨rfl, rfl⟩
    · exact ⟨place, still, keepsLocks⟩
    · rcases keeps with same | uninvolved
      · exact ⟨target, moves.mem_target, same.trans keepsLocks⟩
      · exact absurd involves uninvolved

theorem accept {client : ClientId} (fresh : client ∉ accepted)
    {after : List (ClientId × Custody)}
    (more : after.Perm (places ++ [(client, .idle)])) :
    Tends (hub.openOutbox client) (accepted ++ [client]) after := by
  have still {entry : ClientId × Custody} (here : entry ∈ places) :
      entry ∈ after :=
    more.mem_iff.mpr (List.mem_append_left _ here)
  constructor
  · exact tends.sound
  · intro other among
    rw [Hub.outboxClosed?_openOutbox]
    rcases List.mem_append.mp among with before | same
    · obtain ⟨place, closed, here, present, gone⟩ := tends.outbox other before
      have different : other ≠ client := by
        rintro rfl
        exact fresh before
      rw [if_neg different]
      exact ⟨place, closed, still here, present, gone⟩
    · rw [List.mem_singleton] at same
      rw [if_pos same]
      have here : (other, Custody.idle) ∈ after :=
        more.mem_iff.mpr (List.mem_append_right _ (by simp [same]))
      exact ⟨.idle, false, here, rfl, by simp [Custody.isKnown]⟩
  · intro other registers
    obtain ⟨place, here, isKnown⟩ := tends.registered other registers
    exact ⟨place, still here, isKnown⟩
  · intro other involves
    obtain ⟨place, here, keepsLocks⟩ := tends.involved other involves
    exact ⟨place, still here, keepsLocks⟩

theorem serve {connection : Connection} {place : Custody}
    (here : (connection.client, place) ∈ places)
    (known : place.isKnown = true) (keeps : place.keepsLocks = true) :
    Tends (hub.serveOne connection).2.2 accepted places := by
  have outboxes (client : ClientId) (closed : Bool)
      (present : hub.outboxClosed? client = some closed) :
      ∃ later, (hub.serveOne connection).2.2.outboxClosed? client =
        some later ∧ (closed = true → later = true) :=
    ⟨closed, (hub.outboxClosed?_serveOne connection client).trans present, id⟩
  cases hub.serves_serveOne connection with
  | opened unopened opened extended =>
      refine tends.of_hub (extended.store ▸ tends.sound) outboxes ?_ ?_
      · intro client registers
        rw [extended.registry, Registry.contains_register] at registers
        rcases registers with rfl | before
        · exact Or.inr ⟨place, here, known⟩
        · exact Or.inl before
      · intro client involves
        rw [extended.store] at involves
        exact Or.inl involves
  | quiet same extended =>
      refine tends.of_hub (extended.store ▸ tends.sound) outboxes ?_ ?_
      · intro client registers
        rw [extended.registry] at registers
        exact Or.inl registers
      · intro client involves
        rw [extended.store] at involves
        exact Or.inl involves
  | carried operation asked active still extended =>
      have store := extended.store
      refine tends.of_hub (store ▸ tends.sound.perform operation)
        outboxes ?_ ?_
      · intro client registers
        rw [extended.registry] at registers
        exact Or.inl registers
      · intro client involves
        rw [store] at involves
        rcases Store.involves_of_perform tends.sound.consistent operation
          involves with before | seeks
        · exact Or.inl before
        · have asker := Hub.client?_of_asked asked
          rw [StoreOperation.client?_of_seeker seeks,
            Option.some.injEq] at asker
          exact Or.inr ⟨place, asker ▸ here, keeps⟩

theorem forget {client : ClientId} {closed : Bool}
    (present : hub.outboxClosed? client = some closed) (after : Hub)
    (store : after.store = hub.store)
    (registry : after.registry = hub.registry.unregister client)
    (outboxes : after.outboxes = (hub.closeOutbox client).outboxes) :
    Tends after accepted places ∧ after.registry.contains client = false ∧
      after.outboxClosed? client = some true := by
  have closes (other : ClientId) : after.outboxClosed? other =
      if other = client then (hub.outboxClosed? other).map fun _ => true
      else hub.outboxClosed? other := by
    rw [← Hub.outboxClosed?_closeOutbox]
    simp only [Hub.outboxClosed?, Hub.outbox?, outboxes]
  refine ⟨tends.of_hub (store ▸ tends.sound) ?_ ?_ ?_, ?_, ?_⟩
  · intro other before there
    rw [closes]
    split
    · exact ⟨true, by simp [there], fun _ => rfl⟩
    · exact ⟨before, there, id⟩
  · intro other registers
    rw [registry, Registry.contains_unregister] at registers
    exact Or.inl registers.2
  · intro other involves
    rw [store] at involves
    exact Or.inl involves
  · rw [Bool.eq_false_iff]
    intro registers
    rw [registry, Registry.contains_unregister] at registers
    exact registers.1 rfl
  · rw [closes, if_pos rfl, present]
    rfl

end Tends

end House

end FileDepot
