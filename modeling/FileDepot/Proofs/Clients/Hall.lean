import FileDepot.Proofs.Clients.Requests
import FileDepot.Proofs.Server.WaitEndings

/-!
# Clients and their server

Any number of clients make one call after another, each on a connection of its
own, while the server goes about its moves.  A client sends the request of a
call, reads responses until the call is finished, and only then starts another
one or hangs up.  Requests arrive as frames and responses as a whole.  Nothing
is lost on the way, and no client is disconnected before its connection has
ended.
-/

namespace FileDepot

/-- A client as it makes its calls. -/
structure Caller where
  /-- The call that is under way, and what it waits for. -/
  call? : Option (Call × Awaiting) := none
  /-- The request of the call, until a worker takes it. -/
  sent? : Option Request := none
  /-- What the server has replied to the call. -/
  replied : List Response := []
  /-- What the client has read during the call. -/
  heard : List Response := []
  deriving DecidableEq

/-- A server together with its clients. -/
structure Hall where
  floor : Floor
  callers : ClientId → Caller := fun _ => {}
  /-- What was written to the socket of each client and is still unread. -/
  arrived : ClientId → List Response := fun _ => []

namespace Hall

def new (limits : Limits) : Hall where
  floor := .new limits

/-- A client connects. -/
def accept (hall : Hall) : Hall where
  floor := hall.floor.accept
  callers := Function.update hall.callers hall.floor.nextClient {}
  arrived := Function.update hall.arrived hall.floor.nextClient []

/-- A client starts a call, if its connection is open and no other call of its
is under way. -/
def start (client : ClientId) (call : Call) (hall : Hall) : Hall :=
  match hall.floor.seats.find? client, (hall.callers client).call?,
      call.request? with
  | some ⟨_, .inUse⟩, none, some request =>
      if call.blocks = true ∧ request.Sendable then
        { hall with
          callers := Function.update hall.callers client
            { call? := some (call, call.start), sent? := some request } }
      else
        hall
  | _, _, _ => hall

/-- A worker serves the request that a client has sent. -/
def serve (client : ClientId) (hall : Hall) : Hall :=
  match (hall.callers client).sent? with
  | none => hall
  | some request =>
      let incoming := Source.ofBytes request.frame
      { hall with
        floor := hall.floor.serve client incoming
        callers := Function.update hall.callers client
          { hall.callers client with
            sent? := none
            replied := hall.floor.replied (.serve client incoming) client } }

/-- The writer of a client's socket writes the next response. -/
def write (client : ClientId) (hall : Hall) : Hall :=
  match hall.floor.hub.queued client with
  | [] => hall
  | response :: _ =>
      { hall with
        floor := hall.floor.write client
        arrived := Function.update hall.arrived client
          (hall.arrived client ++ [response]) }

/-- A client whose call is under way reads the next response. -/
def read (client : ClientId) (hall : Hall) : Hall :=
  match (hall.callers client).call?, hall.arrived client with
  | some (call, awaiting), response :: later =>
      { hall with
        callers := Function.update hall.callers client
          { hall.callers client with
            call? :=
              match awaiting.receive response with
              | .waiting next => some (call, next)
              | .finished _ => none
            heard := (hall.callers client).heard ++ [response] }
        arrived := Function.update hall.arrived client later }
  | _, _ => hall

/-- A client that has no call under way hangs up, and a worker finds out. -/
def leave (client : ClientId) (hall : Hall) : Hall :=
  match (hall.callers client).call? with
  | none => { hall with floor := hall.floor.serve client [] }
  | some _ => hall

/-- A worker gives up all locks of a client whose connection has ended. -/
def release (client : ClientId) (hall : Hall) : Hall :=
  match hall.floor.seats.find? client with
  | some ⟨_, .ended⟩ => { hall with floor := hall.floor.release client }
  | _ => hall

/-- A worker forgets a client whose locks it has given up. -/
def forget (client : ClientId) (hall : Hall) : Hall :=
  { hall with floor := hall.floor.forget client }

/-- The lock manager takes its next step. -/
def manage (hall : Hall) : Hall :=
  { hall with floor := hall.floor.manage }

end Hall

inductive HallMove
  | accept
  | start (client : ClientId) (call : Call)
  | serve (client : ClientId)
  | write (client : ClientId)
  | read (client : ClientId)
  | leave (client : ClientId)
  | release (client : ClientId)
  | forget (client : ClientId)
  | manage

namespace Hall

def move (hall : Hall) : HallMove → Hall
  | .accept => hall.accept
  | .start client call => hall.start client call
  | .serve client => hall.serve client
  | .write client => hall.write client
  | .read client => hall.read client
  | .leave client => hall.leave client
  | .release client => hall.release client
  | .forget client => hall.forget client
  | .manage => hall.manage

def run : List HallMove → Hall → Hall
  | [], hall => hall
  | move :: later, hall => run later (hall.move move)

theorem run_preserves {invariant : Hall → Prop}
    (step : ∀ hall move, invariant hall → invariant (hall.move move))
    (moves : List HallMove) {hall : Hall} (start : invariant hall) :
    invariant (hall.run moves) := by
  induction moves generalizing hall with
  | nil => exact start
  | cons move later ih => exact ih (step hall move start)

section Cases

variable (client : ClientId) (hall : Hall)

theorem start_cases (call : Call) :
    hall.start client call = hall ∨
    ∃ connection request,
      hall.floor.seats.find? client = some ⟨connection, .inUse⟩ ∧
      (hall.callers client).call? = none ∧
      call.request? = some request ∧ call.blocks = true ∧
      request.Sendable ∧
      hall.start client call =
        { hall with
          callers := Function.update hall.callers client
            { call? := some (call, call.start), sent? := some request } } := by
  unfold start
  split
  · rename_i connection request seated idle asks
    split
    · rename_i both
      exact Or.inr ⟨connection, request, seated, idle, asks, both.1, both.2,
        rfl⟩
    · exact Or.inl rfl
  · exact Or.inl rfl

theorem read_cases :
    hall.read client = hall ∨
    ∃ call awaiting response later,
      (hall.callers client).call? = some (call, awaiting) ∧
      hall.arrived client = response :: later ∧
      hall.read client =
        { hall with
          callers := Function.update hall.callers client
            { hall.callers client with
              call? :=
                match awaiting.receive response with
                | .waiting next => some (call, next)
                | .finished _ => none
              heard := (hall.callers client).heard ++ [response] }
          arrived := Function.update hall.arrived client later } := by
  unfold read
  split
  · rename_i call awaiting response later called arrived
    exact Or.inr ⟨call, awaiting, response, later, called, arrived, rfl⟩
  · exact Or.inl rfl

theorem leave_cases :
    hall.leave client = hall ∨
    ∃ connection,
      hall.floor.seats.find? client = some ⟨connection, .inUse⟩ ∧
      (hall.callers client).call? = none ∧
      hall.leave client =
        { hall with
          floor := { hall.floor with
            seats := hall.floor.seats.insert client
              ⟨{ connection with incoming := [] }, .ended⟩ } } := by
  unfold leave
  split
  · rename_i idle
    rcases hall.floor.serve_cases client [] with
      same | ⟨connection, seated, goes⟩
    · rw [same]
      exact Or.inl rfl
    · exact Or.inr ⟨connection, seated, idle, by rw [goes]; rfl⟩
  · exact Or.inl rfl

end Cases

/-- A hall that everybody has just connected to, and where the second client
waits for a lock of the first, which gives it up. -/
def handover : List HallMove :=
  let performs (client : ClientId) (call : Call) : List HallMove :=
    [.start client call, .serve client, .write client, .read client]
  [.accept, .accept] ++ performs 1 .openConnection ++
    performs 2 .openConnection ++
    performs 1 (.openFile "f" { create := true, lock := true }) ++
    performs 2 (.openFile "f" { lock := true }) ++
    performs 1 (.closeFile "f") ++
    [.manage, .manage, .manage, .write 2]

end Hall

end FileDepot
