import FileDepot.Proofs.Server.RoomSteps

/-!
# Who works for whom

Only a worker of a client queues replies for it, and as long as any of a reply
is left to be queued it has the outbox of the client reserved.
-/

namespace FileDepot

/-- What a worker still has to queue of the reply to a request. -/
def Job.left (number : Nat) : Job → List Response
  | replying current left _ => if current = number then left else []
  | _ => []

namespace Mailroom

/-- What is left to be queued of the reply to a request of a client. -/
def left (room : Mailroom) (client : ClientId) (number : Nat) :
    List Response :=
  match room.jobs client with
  | some job => job.left number
  | none => []

theorem left_of_job {room : Mailroom} {client : ClientId} {job : Job}
    (works : room.jobs client = some job) (number : Nat) :
    room.left client number = job.left number := by
  simp [left, works]

theorem left_congr {room after : Mailroom} {client : ClientId}
    (same : after.jobs client = room.jobs client) (number : Nat) :
    after.left client number = room.left client number := by
  rw [left, same, left]

/-- A worker goes on with another job that has as much left to be queued. -/
theorem left_update {room after : Mailroom} {client : ClientId}
    {old? job? : Option Job} (worked : room.jobs client = old?)
    (jobs : after.jobs = Function.update room.jobs client job?)
    (same : ∀ number, (job?.elim [] fun job => job.left number) =
      old?.elim [] fun job => job.left number)
    (other : ClientId) (number : Nat) :
    after.left other number = room.left other number := by
  by_cases here : other = client
  · subst here
    rw [left, left, jobs, Function.update_self, worked]
    cases job? <;> cases old? <;> exact same number
  · exact left_congr (by rw [jobs, Function.update_of_ne here]) number

/-- Who works on a connection is a worker of its client, and holds the
reservation of its outbox from before dispatch until the reply is queued. -/
structure Staffed (room : Mailroom) : Prop where
  seated : ∀ client seat, room.seats.find? client = some seat →
    seat.connection.client = client ∧ client < room.nextClient
  working : ∀ client job, room.jobs client = some job →
    client < room.nextClient
  holding : ∀ client job, room.jobs client = some job →
    job.holds = true → room.reserved client = true

theorem staffed_new (limits : Limits) : (new limits).Staffed where
  seated _ _ seated := by cases seated
  working _ _ working := by cases working
  holding _ _ working := by cases working

namespace Staffed

variable {room : Mailroom} (staffed : room.Staffed)

include staffed

theorem left_of_free {client : ClientId}
    (free : room.reserved client = false) (number : Nat) :
    room.left client number = [] := by
  cases works : room.jobs client with
  | none => simp [left, works]
  | some job =>
      rw [left_of_job works]
      cases job with
      | asking | notifying => rfl
      | replying =>
          have held := staffed.holding client _ works rfl
          rw [free] at held
          cases held

/-- A step in which only one worker does something, and no connection comes
to be. -/
theorem of_update {after : Mailroom} {client : ClientId}
    (current : client < room.nextClient)
    (nextClient : after.nextClient = room.nextClient)
    (seats : ∀ other seat, after.seats.find? other = some seat →
      ∃ old, room.seats.find? other = some old ∧
        seat.connection.client = old.connection.client)
    (others : ∀ other, other ≠ client →
      after.jobs other = room.jobs other ∧
        after.reserved other = room.reserved other)
    (own : ∀ job, after.jobs client = some job → job.holds = true →
      after.reserved client = true) : after.Staffed where
  seated := by
    intro other seat found
    obtain ⟨old, foundOld, same⟩ := seats other seat found
    rw [same, nextClient]
    exact staffed.seated other old foundOld
  working := by
    intro other job works
    rw [nextClient]
    by_cases same : other = client
    · exact same ▸ current
    · rw [(others other same).1] at works
      exact staffed.working other job works
  holding := by
    intro other job works holds
    by_cases same : other = client
    · subst same
      exact own job works holds
    · rw [(others other same).1] at works
      rw [(others other same).2]
      exact staffed.holding other job works holds

omit staffed in
theorem seats_insert {client : ClientId} {connection behind : Connection}
    {old stage : Stage}
    (seated : room.seats.find? client = some ⟨connection, old⟩)
    (named : behind.client = connection.client) (other : ClientId)
    (seat : Seat)
    (found : (room.seats.insert client ⟨behind, stage⟩).find? other =
      some seat) :
    ∃ old, room.seats.find? other = some old ∧
      seat.connection.client = old.connection.client := by
  rw [Index.find?_insert] at found
  by_cases same : other = client
  · rw [if_pos same, Option.some.injEq] at found
    exact ⟨_, same ▸ seated, by rw [← found, named]⟩
  · rw [if_neg same] at found
    exact ⟨seat, found, rfl⟩

theorem step {after : Mailroom} (step : room.Step after) :
    after.Staffed := by
  have sameSeats : ∀ other seat, room.seats.find? other = some seat →
      ∃ old, room.seats.find? other = some old ∧
        seat.connection.client = old.connection.client :=
    fun _ seat found => ⟨seat, found, rfl⟩
  have current {client : ClientId} {job : Job}
      (works : room.jobs client = some job) : client < room.nextClient :=
    staffed.working client job works
  cases step with
  | idle => exact staffed
  | granted => exact ⟨staffed.seated, staffed.working, staffed.holding⟩
  | beside beside =>
      refine ⟨?_, ?_, staffed.holding⟩
      · intro client seat found
        rcases beside.seats client seat found with
          ⟨old, foundOld, same⟩ | fresh
        · obtain ⟨named, old⟩ := staffed.seated client old foundOld
          exact ⟨same ▸ named, Nat.lt_of_lt_of_le old beside.nextClient⟩
        · exact fresh
      · intro client job works
        exact Nat.lt_of_lt_of_le (current works) beside.nextClient
  | @reserved client _ _ _ seated named _ =>
      refine staffed.of_update (staffed.seated client _ seated).2 rfl
        (seats_insert seated named) ?_ ?_
      · intro other different
        simp [different]
      · intro job works holds
        simp
  | @dispatched client _ _ _ _ _ seated asking goes =>
      refine staffed.of_update (current asking) rfl
        (seats_insert seated (Hub.client_dispatchRead goes)) ?_ ?_
      · intro other different
        simp [dispatched, different]
      · intro _ _ _
        exact staffed.holding client _ asking rfl
  | @pushed client _ _ _ _ _ replying =>
      refine staffed.of_update (current replying) rfl sameSeats ?_ ?_
      · intro other different
        simp [different]
      · intro _ _ _
        exact staffed.holding client _ replying rfl
  | @refused client _ _ _ _ _ replying =>
      refine staffed.of_update (current replying) rfl sameSeats ?_ ?_
      · intro other different
        simp [different]
      · intro _ _ _
        exact staffed.holding client _ replying rfl
  | dropped replying =>
      refine staffed.of_update (current replying) rfl sameSeats ?_ ?_
      · intro other different
        simp [different]
      · intro job works holds
        simp only [Function.update_self, Option.some.injEq] at works
        simp [← works, Job.holds] at holds
  | notified notifying | unheard notifying =>
      refine staffed.of_update (current notifying) rfl sameSeats ?_ ?_
      · intro other different
        simp [different]
      · intro job works holds
        simp only [Function.update_self, Option.some.injEq] at works
        simp [← works, Job.holds] at holds
  | finished seated notifying =>
      refine staffed.of_update (current notifying) rfl
        (seats_insert seated rfl) ?_ ?_
      · intro other different
        simp [different]
      · intro job works
        simp at works

end Staffed

end Mailroom

end FileDepot
