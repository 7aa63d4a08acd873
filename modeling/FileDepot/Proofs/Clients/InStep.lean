import FileDepot.Proofs.Clients.Hall
import FileDepot.Proofs.Store.HeldLocks

/-!
# Keeping in step

Between two calls nothing is on its way to a client.  During a call, what is on
its way is the rest of the reply, and behind it at most the news of the lock
that the call waits for.
-/

namespace FileDepot

/-- The grants that were handed out and whose clients were not told yet. -/
def ManagerPhase.untold : ManagerPhase → List LockGrant
  | telling grants _ => grants
  | undoing grant others _ => grant :: others
  | waiting | granting => []

namespace Hall

/-- What is on its way to a client. -/
def unread (hall : Hall) (client : ClientId) : List Response :=
  hall.arrived client ++ hall.floor.hub.queued client

/-- The grants of which a client is still to be told. -/
def due (hall : Hall) (client : ClientId) : List LockGrant :=
  hall.floor.manager.untold.filter fun grant => grant.client = client

/-- The connection of a client is open. -/
def InUse (hall : Hall) (client : ClientId) : Prop :=
  ∃ connection, hall.floor.seats.find? client = some ⟨connection, .inUse⟩

theorem InUse.beside {before after : Hall} {client other : ClientId}
    {seat : Seat} (inUse : before.InUse other) (different : other ≠ client)
    (seats : after.floor.seats = before.floor.seats.insert client seat) :
    after.InUse other := by
  obtain ⟨connection, seated⟩ := inUse
  refine ⟨connection, ?_⟩
  rw [seats, Index.find?_insert, if_neg different, seated]

def Holds (hall : Hall) (client : ClientId) (path : String) : Prop :=
  hall.floor.hub.store.Holds client path

def Awaits (hall : Hall) (client : ClientId) (path : String) : Prop :=
  hall.floor.hub.store.Awaits client path

/-- A client waits for the lock of one file, and this is the news that is on
its way. -/
inductive LockWait (hall : Hall) (client : ClientId) (path : String) :
    List Response → Prop
  | queued (awaits : hall.Awaits client path)
      (only : ∀ other, hall.Awaits client other → other = path)
      (nothingDue : hall.due client = []) : LockWait hall client path []
  | granted (holds : hall.Holds client path)
      (free : ∀ other, ¬ hall.Awaits client other)
      (isDue : hall.due client = [{ client, path }]) :
      LockWait hall client path []
  | told (holds : hall.Holds client path)
      (free : ∀ other, ¬ hall.Awaits client other)
      (nothingDue : hall.due client = []) :
      LockWait hall client path [Hub.grantNotice path]
  | gone (free : ∀ other, ¬ hall.Awaits client other)
      (nothingDue : hall.due client = []) :
      LockWait hall client path [Hub.goneNotice path]

/-- A call has been told to wait for a lock, or will be when it has read the
rest of its reply. -/
structure Pending (hall : Hall) (client : ClientId) (call : Call)
    (awaiting : Awaiting) (path : String) (rest : List Response) : Prop where
  during : (hall.callers client).call? = some (call, awaiting)
  unsent : (hall.callers client).sent? = none
  locks : call.lockPath? = some path
  inUse : hall.InUse client
  leads : ∃ answer, awaiting.LeadsTo rest (.grant path answer)
  reply : (hall.callers client).heard ++ rest = (hall.callers client).replied

/-- How a client and the server stand to each other. -/
inductive InStep (hall : Hall) (client : ClientId) : Prop
  | idle (between : (hall.callers client).call? = none)
      (unsent : (hall.callers client).sent? = none)
      (allRead : hall.unread client = [])
      (free : ∀ path, ¬ hall.Awaits client path)
      (nothingDue : hall.due client = [])
  | asking {call : Call} {request : Request}
      (asks : call.request? = some request) (blocks : call.blocks = true)
      (sendable : request.Sendable)
      (caller : hall.callers client =
        { call? := some (call, call.start), sent? := some request })
      (inUse : hall.InUse client)
      (allRead : hall.unread client = [])
      (free : ∀ path, ¬ hall.Awaits client path)
      (nothingDue : hall.due client = [])
  | answered {call : Call} {awaiting : Awaiting}
      {outcome : Except Error CallAnswer}
      (during : (hall.callers client).call? = some (call, awaiting))
      (unsent : (hall.callers client).sent? = none)
      (concludes : awaiting.Concludes (hall.unread client) outcome)
      (expected : ∀ reason, outcome ≠ .error (.invalidState reason))
      (reply : (hall.callers client).heard ++ hall.unread client =
        (hall.callers client).replied)
      (locked : ∀ answer path, outcome = .ok answer →
        call.lockPath? = some path →
        hall.InUse client ∧ hall.Holds client path)
      (free : ∀ path, ¬ hall.Awaits client path)
      (nothingDue : hall.due client = [])
  | waiting {call : Call} {awaiting : Awaiting} {path : String}
      {rest news : List Response}
      (pending : hall.Pending client call awaiting path rest)
      (unread : hall.unread client = rest ++ news)
      (wait : hall.LockWait client path news)

/-- Nothing that concerns a client has changed for the worse. -/
structure Undisturbed (client : ClientId) (before after : Hall) : Prop where
  caller : after.callers client = before.callers client
  unread : after.unread client = before.unread client
  due : after.due client = before.due client
  free : ∀ path, after.Awaits client path → before.Awaits client path
  kept : before.InUse client → after.InUse client ∧
    (∀ path, before.Holds client path → after.Holds client path) ∧
    ∀ path, before.Awaits client path → after.Awaits client path

section Undisturbed

variable {client : ClientId} {before after : Hall}

theorem Undisturbed.of_store
    (caller : after.callers client = before.callers client)
    (unread : after.unread client = before.unread client)
    (due : after.due client = before.due client)
    (store : after.floor.hub.store = before.floor.hub.store)
    (inUse : before.InUse client → after.InUse client) :
    Undisturbed client before after where
  caller := caller
  unread := unread
  due := due
  free path awaits := by
    rw [Awaits, ← store]
    exact awaits
  kept used := by
    simp only [Holds, Awaits, store]
    exact ⟨inUse used, fun _ => id, fun _ => id⟩

/-- Nobody is disturbed by what another client has the store do, if the files
that they wait for stay. -/
theorem Undisturbed.of_perform {asker : ClientId} {operation : StoreOperation}
    (asks : operation.client? = some asker) (different : client ≠ asker)
    (consistent : before.floor.hub.store.Consistent)
    (caller : after.callers client = before.callers client)
    (unread : after.unread client = before.unread client)
    (due : after.due client = before.due client)
    (store : after.floor.hub.store =
      (before.floor.hub.store.perform operation).2)
    (stays : ∀ path, before.Awaits client path →
      (before.floor.hub.store.perform operation).2.file? path ≠ none)
    (inUse : before.InUse client → after.InUse client) :
    Undisturbed client before after where
  caller := caller
  unread := unread
  due := due
  free path awaits := by
    rw [Awaits, store] at awaits
    refine Store.awaits_before consistent operation ?_ awaits
    rw [asks]
    exact fun same => different (Option.some.inj same).symm
  kept used := by
    refine ⟨inUse used, ?_, ?_⟩
    · intro path holds
      rw [Holds, store]
      refine holds.perform consistent ?_
      rw [asks]
      exact fun same => different (Option.some.inj same).symm
    · intro path awaits
      rw [Awaits, store]
      exact Store.awaits_after consistent operation asks different awaits
        (stays path awaits)

theorem LockWait.mono {path : String} {news : List Response}
    (wait : before.LockWait client path news)
    (due : after.due client = before.due client)
    (holds : ∀ path, before.Holds client path → after.Holds client path)
    (awaits : ∀ path, before.Awaits client path → after.Awaits client path)
    (free : ∀ path, after.Awaits client path → before.Awaits client path) :
    after.LockWait client path news := by
  cases wait with
  | queued awaited only nothingDue =>
      exact .queued (awaits path awaited)
        (fun other waits => only other (free other waits))
        (due.trans nothingDue)
  | granted held unawaited isDue =>
      exact .granted (holds path held)
        (fun other waits => unawaited other (free other waits))
        (due.trans isDue)
  | told held unawaited nothingDue =>
      exact .told (holds path held)
        (fun other waits => unawaited other (free other waits))
        (due.trans nothingDue)
  | gone unawaited nothingDue =>
      exact .gone (fun other waits => unawaited other (free other waits))
        (due.trans nothingDue)

theorem Pending.of_caller {call : Call} {awaiting : Awaiting} {path : String}
    {rest : List Response}
    (pending : before.Pending client call awaiting path rest)
    (caller : after.callers client = before.callers client)
    (inUse : after.InUse client) :
    after.Pending client call awaiting path rest where
  during := caller ▸ pending.during
  unsent := caller ▸ pending.unsent
  locks := pending.locks
  inUse := inUse
  leads := pending.leads
  reply := by rw [caller, pending.reply]

theorem InStep.undisturbed (inStep : before.InStep client)
    (undisturbed : Undisturbed client before after) :
    after.InStep client := by
  have caller := undisturbed.caller
  have unread := undisturbed.unread
  have due := undisturbed.due
  cases inStep with
  | idle between unsent allRead free nothingDue =>
      exact .idle (caller ▸ between) (caller ▸ unsent) (unread.trans allRead)
        (fun path waits => free path (undisturbed.free path waits))
        (due.trans nothingDue)
  | asking asks blocks sendable called inUse allRead free nothingDue =>
      exact .asking asks blocks sendable (caller.trans called)
        (undisturbed.kept inUse).1 (unread.trans allRead)
        (fun path waits => free path (undisturbed.free path waits))
        (due.trans nothingDue)
  | answered during unsent concludes expected reply locked free nothingDue =>
      refine .answered (caller ▸ during) (caller ▸ unsent)
        (unread ▸ concludes) expected (by rw [caller, unread, reply]) ?_
        (fun path waits => free path (undisturbed.free path waits))
        (due.trans nothingDue)
      intro answer path returned locks
      obtain ⟨inUse, holds⟩ := locked answer path returned locks
      obtain ⟨stillInUse, stillHolds, -⟩ := undisturbed.kept inUse
      exact ⟨stillInUse, stillHolds path holds⟩
  | waiting pending split wait =>
      obtain ⟨inUse, holds, awaits⟩ := undisturbed.kept pending.inUse
      exact .waiting (pending.of_caller caller inUse) (unread.trans split)
        (wait.mono due holds awaits undisturbed.free)

end Undisturbed

section Views

variable {hall : Hall} {client : ClientId}

theorem InStep.of_idle (inStep : hall.InStep client)
    (idle : (hall.callers client).call? = none) :
    (hall.callers client).sent? = none ∧ hall.unread client = [] ∧
      (∀ path, ¬ hall.Awaits client path) ∧ hall.due client = [] := by
  cases inStep with
  | idle between unsent allRead free nothingDue =>
      exact ⟨unsent, allRead, free, nothingDue⟩
  | asking _ _ _ caller => simp [caller] at idle
  | answered during => simp [during] at idle
  | waiting pending => simp [pending.during] at idle

/-- A client waits for a lock only during a call that asked for it. -/
theorem InStep.pending_of_awaits (inStep : hall.InStep client)
    {path : String} (awaits : hall.Awaits client path) :
    ∃ call awaiting, hall.Pending client call awaiting path
        (hall.unread client) ∧
      (∀ other, hall.Awaits client other → other = path) ∧
      hall.due client = [] := by
  cases inStep with
  | idle between unsent allRead free => exact absurd awaits (free path)
  | asking asks blocks sendable caller inUse allRead free =>
      exact absurd awaits (free path)
  | answered during unsent concludes expected reply locked free =>
      exact absurd awaits (free path)
  | waiting pending split wait =>
      cases wait with
      | queued awaited only nothingDue =>
          obtain rfl := only path awaits
          rw [List.append_nil] at split
          exact ⟨_, _, split ▸ pending, only, nothingDue⟩
      | granted _ free | told _ free | gone free =>
          exact absurd awaits (free path)

theorem InStep.pending_of_due (inStep : hall.InStep client)
    {grant : LockGrant} (isDue : grant ∈ hall.due client) :
    ∃ call awaiting path, hall.Pending client call awaiting path
        (hall.unread client) ∧
      hall.Holds client path ∧ (∀ other, ¬ hall.Awaits client other) ∧
      hall.due client = [{ client, path }] := by
  have notDue (nothingDue : hall.due client = []) : False := by
    rw [nothingDue] at isDue
    cases isDue
  cases inStep with
  | idle between unsent allRead free nothingDue =>
      exact (notDue nothingDue).elim
  | asking asks blocks sendable caller inUse allRead free nothingDue =>
      exact (notDue nothingDue).elim
  | answered during unsent concludes expected reply locked free nothingDue =>
      exact (notDue nothingDue).elim
  | waiting pending split wait =>
      cases wait with
      | granted holds free oneDue =>
          rw [List.append_nil] at split
          exact ⟨_, _, _, split ▸ pending, holds, free, oneDue⟩
      | queued _ _ nothingDue | told _ _ nothingDue | gone _ nothingDue =>
          exact (notDue nothingDue).elim

theorem InStep.due_of_not_inUse (inStep : hall.InStep client)
    (ended : ¬ hall.InUse client) : hall.due client = [] := by
  cases due : hall.due client with
  | nil => rfl
  | cons grant others =>
      obtain ⟨_, _, _, pending, -⟩ :=
        inStep.pending_of_due (due ▸ List.mem_cons_self)
      exact absurd pending.inUse ended

/-- What a client reads is the next response of the reply to its call or,
behind the reply, the news of the lock that it waits for. -/
def Expected (hall : Hall) (client : ClientId) (call : Call)
    (awaiting : Awaiting) (response : Response) : Prop :=
  (hall.callers client).heard ++ [response] <+: (hall.callers client).replied ∨
    ∃ path answer, call.lockPath? = some path ∧
      awaiting = .grant path answer ∧
      (hall.callers client).heard = (hall.callers client).replied ∧
      (response = Hub.grantNotice path ∨ response = Hub.goneNotice path)

/-- The client has read a response, and goes on with its call. -/
def GoesOn (before : Hall) (client : ClientId) (call : Call)
    (next : Awaiting) (response : Response) (later : List Response)
    (after : Hall) : Prop :=
  after.floor = before.floor ∧
    after.callers client =
      { before.callers client with
        call? := some (call, next)
        heard := (before.callers client).heard ++ [response] } ∧
    after.unread client = later

/-- What comes of reading a response: it was expected, and either the call
goes on and stays in step, or it is finished, and then nothing more is on its
way and a lock that it returns with is held. -/
theorem InStep.reading (inStep : hall.InStep client) {call : Call}
    {awaiting : Awaiting} {response : Response} {later : List Response}
    (during : (hall.callers client).call? = some (call, awaiting))
    (arriving : hall.unread client = response :: later) :
    hall.Expected client call awaiting response ∧
    ((∃ next, awaiting.receive response = .waiting next ∧
        ∀ after, hall.GoesOn client call next response later after →
          after.InStep client) ∨
      ∃ outcome, awaiting.receive response = .finished outcome ∧
        (∀ reason, outcome ≠ .error (.invalidState reason)) ∧
        (∀ answer path, outcome = .ok answer → call.lockPath? = some path →
          hall.Holds client path) ∧
        (hall.callers client).sent? = none ∧ later = [] ∧
        (∀ path, ¬ hall.Awaits client path) ∧ hall.due client = []) := by
  cases inStep with
  | idle between => simp [between] at during
  | asking asks blocks sendable caller inUse allRead =>
      rw [allRead] at arriving
      cases arriving
  | answered called unsent concludes expected reply locked free nothingDue =>
      rw [during, Option.some.injEq, Prod.mk.injEq] at called
      obtain ⟨rfl, rfl⟩ := called
      rw [arriving] at concludes reply
      have isReply : (hall.callers client).heard ++ [response] <+:
          (hall.callers client).replied :=
        ⟨later, by rw [← reply, List.append_assoc]; rfl⟩
      refine ⟨Or.inl isReply, ?_⟩
      rcases concludes.cons_cases with
        ⟨nothing, finishes⟩ | ⟨next, goesOn, concludes⟩
      · refine Or.inr ⟨_, finishes, expected, ?_, unsent, nothing, free,
          nothingDue⟩
        intro answer path returned locks
        exact (locked answer path returned locks).2
      · refine Or.inl ⟨next, goesOn, ?_⟩
        rintro after ⟨floor, caller, unread⟩
        refine .answered (by rw [caller]) (by rw [caller]; exact unsent)
          (unread ▸ concludes) expected ?_ ?_ ?_ ?_
        · rw [caller, unread, ← reply, List.append_assoc]
          rfl
        · intro answer path returned locks
          simp only [InUse, Holds, floor]
          exact locked answer path returned locks
        · simp only [Awaits, floor]
          exact free
        · simp only [due, floor]
          exact nothingDue
  | waiting pending split wait =>
      rename_i path rest news
      have called := pending.during
      rw [during, Option.some.injEq, Prod.mk.injEq] at called
      obtain ⟨rfl, rfl⟩ := called
      obtain ⟨answer, leads⟩ := pending.leads
      have reply := pending.reply
      rw [arriving] at split
      cases rest with
      | cons first rest =>
          -- The reply to the request is not read to its end.
          rw [List.cons_append, List.cons.injEq] at split
          obtain ⟨rfl, rfl⟩ := split
          obtain ⟨next, goesOn, leads⟩ := leads.cons_inv
          have isReply : (hall.callers client).heard ++ [response] <+:
              (hall.callers client).replied :=
            ⟨rest, by rw [← reply, List.append_assoc]; rfl⟩
          refine ⟨Or.inl isReply, Or.inl ⟨next, goesOn, ?_⟩⟩
          rintro after ⟨floor, caller, unread⟩
          refine .waiting ⟨by rw [caller], by rw [caller]; exact pending.unsent,
            pending.locks, ?_, ⟨answer, leads⟩, ?_⟩ unread
            (wait.mono ?_ ?_ ?_ ?_)
          · simp only [InUse, floor]
            exact pending.inUse
          · rw [caller, ← reply, List.append_assoc]
            rfl
          · simp only [due, floor]
          · simp only [Holds, floor]
            exact fun _ => id
          · simp only [Awaits, floor]
            exact fun _ => id
          · simp only [Awaits, floor]
            exact fun _ => id
      | nil =>
          -- The news of the lock is all that is left.
          rw [List.append_nil] at reply
          rw [List.nil_append] at split
          have isGrant := leads.nil_inv
          have isNews (notice : response = Hub.grantNotice path ∨
              response = Hub.goneNotice path) :
              hall.Expected client call awaiting response :=
            Or.inr ⟨path, answer, pending.locks, isGrant, reply, notice⟩
          cases wait with
          | queued | granted => cases split
          | told holds free nothingDue =>
              obtain ⟨rfl, nothing⟩ := List.cons.inj split
              refine ⟨isNews (Or.inl rfl), Or.inr ⟨.ok answer, ?_, by simp, ?_,
                pending.unsent, nothing, free, nothingDue⟩⟩
              · rw [isGrant]
                simp [Awaiting.receive, Hub.grantNotice, Status.isSuccess]
              · intro _ other _ locks
                rw [pending.locks, Option.some.injEq] at locks
                exact locks ▸ holds
          | gone free nothingDue =>
              obtain ⟨rfl, nothing⟩ := List.cons.inj split
              refine ⟨isNews (Or.inr rfl),
                Or.inr ⟨.error (.refused .notFound path), ?_, by simp, ?_,
                  pending.unsent, nothing, free, nothingDue⟩⟩
              · rw [isGrant]
                rfl
              · intro _ _ impossible
                cases impossible

end Views

end Hall

end FileDepot
