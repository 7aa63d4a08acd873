import FileDepot.Proofs.Server.Replies
import FileDepot.Proofs.Server.WholeReplies

/-!
# Waits and their announcements

The lock manager may hand a lock on, and others may remove a file, as soon as
a client stands in a queue, long before the client was told that it does.  As
long as the end of its wait is still to be told, the announcement of the wait
was queued for the client, or is left to be queued by a worker that has its
outbox reserved.
-/

namespace FileDepot

/-- The notice that a client has to wait for a lock. -/
def pendingNotice (path : String) : Response where
  status := .lockPending
  path := path

/-- By its request a client came into the queue for a lock. -/
structure Service.Enters (service : Service) (path : String) : Prop where
  asked : ∃ request, service.read = .ok request ∧
    request.wantsLock = true ∧ request.path = path
  before : ¬ service.before.Awaits service.client path
  after : service.after.Awaits service.client path

namespace Hub

variable {hub after : Hub} {connection kept : Connection}
  {read : Except Error Request} {reply : Reply}

/-- Dispatching carries out at most one operation on the store, whose orphans
the reply names. -/
theorem store_dispatchRead
    (goes : hub.dispatchRead connection read = (reply, kept, after)) :
    (after.store = hub.store ∧ reply.orphans = []) ∨
    ∃ request operation, read = .ok request ∧
      request.asks? connection.client = some operation ∧
      after.store = (hub.store.perform operation).2 ∧
      reply.orphans = (hub.store.perform operation).1.orphans := by
  cases read with
  | error error =>
      left
      unfold dispatchRead at goes
      split at goes
      · cases ‹Except.error error = _›
      · cases goes
        exact ⟨rfl, rfl⟩
      · split at goes <;> cases goes <;> exact ⟨rfl, rfl⟩
  | ok request =>
      have dispatched := Scope.dispatch_cases connection.client request
        (hub.scope connection)
      simp only [dispatchRead, Prod.mk.injEq] at goes
      obtain ⟨rfl, -, rfl⟩ := goes
      rcases dispatched with
        ⟨-, opened⟩ | ⟨same, orphans, -⟩ | ⟨operation, asks, -, carried⟩
      · left
        rw [opened]
        exact ⟨rfl, rfl⟩
      · left
        rw [same]
        exact ⟨rfl, orphans⟩
      · exact Or.inr ⟨request, operation, rfl, asks, carried.store,
          carried.orphans⟩

/-- Those who are named as orphans waited until then. -/
theorem awaited_of_orphan (consistent : hub.store.Consistent)
    (goes : hub.dispatchRead connection read = (reply, kept, after))
    {orphan : Orphan} (named : orphan ∈ reply.orphans) :
    hub.store.Awaits orphan.client orphan.path := by
  rcases store_dispatchRead goes with
    ⟨-, nobody⟩ | ⟨request, operation, -, -, -, orphans⟩
  · rw [nobody] at named
    cases named
  · rw [orphans] at named
    exact ((Store.mem_orphans_iff consistent operation orphan).mp named).1

/-- Whoever comes into a queue is told so in the reply to its request. -/
theorem announced_of_entry (consistent : hub.store.Consistent)
    (inOrder : hub.store.QueuesInOrder)
    (goes : hub.dispatchRead connection read = (reply, kept, after))
    {client : ClientId} {path : String}
    (before : ¬ hub.store.Awaits client path)
    (awaits : after.store.Awaits client path) :
    client = connection.client ∧ pendingNotice path ∈ reply.responses ∧
      ∃ request, read = .ok request ∧ request.wantsLock = true ∧
        request.path = path := by
  rcases store_dispatchRead goes with
    ⟨same, -⟩ | ⟨request, operation, rfl, asks, store, -⟩
  · exact absurd (same ▸ awaits) before
  · have performed := store ▸ awaits
    have queues := (Store.awaits_of_perform consistent operation
      performed).resolve_left before
    obtain ⟨wants, rfl, rfl⟩ := Request.wantsLock_of_asks asks queues
    refine ⟨rfl, ?_, request, rfl, wants, rfl⟩
    have settled := Scope.settles_dispatch connection.client request
      (hub.scope connection)
    simp only [dispatchRead, Prod.mk.injEq] at goes
    obtain ⟨rfl, -, rfl⟩ := goes
    cases settled with
    | refused error refusal answer same =>
        rw [same] at awaits
        exact absurd awaits before
    | met expelled final single success answer locked =>
        have queues := inOrder.perform consistent operation
        rw [← store] at queues
        exact absurd awaits (queues.not_awaits_of_holds (locked wants).1)
    | listed files many =>
        simp [Request.wantsLock, many] at wants
    | queued _ answer =>
        rw [answer]
        exact List.mem_singleton.mpr rfl

end Hub

/-- What a job leaves to be done once the reply is queued. -/
def Job.errand? : Job → Option Errand
  | asking _ => none
  | replying _ _ errand | notifying errand => some errand

namespace Mailroom

/-- A client that came into a queue by the request of a number was told so, or
is told so next, or cannot be told anything any more. -/
structure Announced (room : Mailroom) (number : Nat) (client : ClientId)
    (path : String) : Prop where
  current : client < room.nextClient
  entry : ∃ service, room.Served number service ∧ service.client = client ∧
    service.Enters path
  told : ⟨.reply number, pendingNotice path⟩ ∈ room.mail client ∨
    pendingNotice path ∈ room.left client number ∨
    room.hub.outboxClosed? client ≠ some false

/-- The wait that the request of a number began is not over, or somebody still
has to tell its end. -/
inductive Outstanding (room : Mailroom) (number : Nat) (client : ClientId)
    (path : String) : Prop
  | waiting (awaits : room.hub.store.Awaits client path)
      (entered : room.entered client path = number)
  | granted (pending : { client, path } ∈ room.manager.grants)
      (entered : room.granted client path = number)
  | orphaned {worker : ClientId} {job : Job} {errand : Errand}
      (works : room.jobs worker = some job)
      (leaves : job.errand? = some errand)
      (named : { client, path } ∈ errand.orphans)
      (entered : errand.entered client path = number)

theorem mem_mailWith {room : Mailroom} {client other : ClientId}
    {letter last : Letter} (old : letter ∈ room.mail client) :
    letter ∈ room.mailWith other last client := by
  by_cases same : client = other
  · subst same
    simp [mailWith, old]
  · simpa [mailWith, same] using old

namespace Announced

variable {room after : Mailroom} {number : Nat} {client : ClientId}
  {path : String} (announced : room.Announced number client path)

include announced

theorem mono (nextClient : room.nextClient ≤ after.nextClient)
    (served : ∀ number service, room.Served number service →
      after.Served number service)
    (mail : ∀ letter ∈ room.mail client, letter ∈ after.mail client)
    (opened : after.hub.outboxClosed? client = some false →
      room.hub.outboxClosed? client = some false)
    (left : ∀ response ∈ room.left client number,
      response ∈ after.left client number ∨
      ⟨.reply number, response⟩ ∈ after.mail client ∨
      after.hub.outboxClosed? client ≠ some false) :
    after.Announced number client path where
  current := Nat.lt_of_lt_of_le announced.current nextClient
  entry := by
    obtain ⟨service, found, owner⟩ := announced.entry
    exact ⟨service, served number service found, owner⟩
  told := by
    rcases announced.told with told | next | isClosed
    · exact Or.inl (mail _ told)
    · rcases left _ next with still | told | isClosed
      · exact Or.inr (Or.inl still)
      · exact Or.inl told
      · exact Or.inr (Or.inr isClosed)
    · exact Or.inr (Or.inr fun isOpen => isClosed (opened isOpen))

/-- What a client was told, or is about to be told, stays so. -/
theorem step (step : room.Step after) :
    after.Announced number client path := by
  have still {next : Mailroom}
      (same : next.left client number = room.left client number)
      (response : Response) (owes : response ∈ room.left client number) :
      response ∈ next.left client number ∨
      ⟨.reply number, response⟩ ∈ next.mail client ∨
      next.hub.outboxClosed? client ≠ some false :=
    Or.inl (same ▸ owes)
  cases step with
  | idle => exact announced
  | beside beside =>
      exact announced.mono beside.nextClient (fun _ _ => id) (fun _ => id)
        (beside.opened client announced.current) (still rfl)
  | reserved seated named free =>
      refine announced.mono (Nat.le_refl _) (fun _ _ => id) (fun _ => id) id
        (still ?_)
      exact left_update free rfl (fun _ => by rfl) client number
  | @dispatched worker _ _ _ _ _ seated asking goes =>
      refine announced.mono (Nat.le_refl _) ?_ (fun _ => id) ?_ ?_
      · intro request service served
        exact (served_append_iff rfl).mpr (Or.inl served)
      · intro isOpen
        exact Hub.outboxClosed?_dispatchRead goes client ▸ isOpen
      · intro response owes
        by_cases same : client = worker
        · subst same
          rw [left_of_job asking] at owes
          cases owes
        · exact still (left_congr (Function.update_of_ne same ..) number)
            response owes
  | @pushed worker current response rest errand hub replying _ extended =>
      refine announced.mono (Nat.le_refl _) (fun _ _ => id)
        (fun letter => mem_mailWith) (extended.wasOpen client) ?_
      intro other owes
      -- The response just pushed moves from what is left into the mail; the
      -- later ones of the same reply stay left.
      by_cases same : client = worker
      · subst same
        rw [left_of_job replying, Job.left] at owes
        split at owes
        · rename_i here
          subst here
          rcases List.mem_cons.mp owes with rfl | later
          · right
            left
            simp [mailWith]
          · left
            simpa [left, Job.left] using later
        · cases owes
      · exact still (left_congr (Function.update_of_ne same ..) number) other
          owes
  | @refused worker _ _ _ _ _ replying isClosed _ _ extended =>
      refine announced.mono (Nat.le_refl _) (fun _ _ => id) (fun _ => id)
        (extended.wasOpen client) ?_
      intro response owes
      by_cases same : client = worker
      · subst same
        right
        right
        rw [extended.outboxClosed?]
        exact isClosed
      · exact still (left_congr (Function.update_of_ne same ..) number)
          response owes
  | dropped replying =>
      refine announced.mono (Nat.le_refl _) (fun _ _ => id) (fun _ => id) id
        (still ?_)
      exact left_update replying rfl (fun _ => (ite_self _).symm) client number
  | notified notifying _ _ extended =>
      refine announced.mono (Nat.le_refl _) (fun _ _ => id)
        (fun letter => mem_mailWith) (extended.wasOpen client) (still ?_)
      exact left_update notifying rfl (fun _ => by rfl) client number
  | unheard notifying extended =>
      refine announced.mono (Nat.le_refl _) (fun _ _ => id) (fun _ => id)
        (extended.wasOpen client) (still ?_)
      exact left_update notifying rfl (fun _ => by rfl) client number
  | granted _ _ _ extended =>
      exact announced.mono (Nat.le_refl _) (fun _ _ => id)
        (fun letter => mem_mailWith) (extended.wasOpen client) (still rfl)
  | finished seated notifying =>
      refine announced.mono (Nat.le_refl _) (fun _ _ => id) (fun _ => id) id
        (still ?_)
      exact left_update notifying rfl (fun _ => by rfl) client number

end Announced

/-- No worker has more orphans to tell than it had. -/
def NoMoreOrphans (room after : Mailroom) : Prop :=
  ∀ worker job errand, after.jobs worker = some job →
    job.errand? = some errand →
    ∃ old earlier, room.jobs worker = some old ∧
      old.errand? = some earlier ∧ errand.orphans ⊆ earlier.orphans ∧
      errand.entered = earlier.entered

theorem NoMoreOrphans.of_jobs {room after : Mailroom}
    (jobs : after.jobs = room.jobs) : room.NoMoreOrphans after := by
  intro worker job errand works leaves
  exact ⟨job, errand, jobs ▸ works, leaves, List.Subset.refl _, rfl⟩

theorem NoMoreOrphans.of_update {room after : Mailroom} {worker : ClientId}
    {job? : Option Job}
    (jobs : after.jobs = Function.update room.jobs worker job?)
    (own : ∀ errand, job?.bind Job.errand? = some errand →
      ∃ old earlier, room.jobs worker = some old ∧
        old.errand? = some earlier ∧ errand.orphans ⊆ earlier.orphans ∧
        errand.entered = earlier.entered) : room.NoMoreOrphans after := by
  intro other job errand works leaves
  rw [jobs] at works
  by_cases same : other = worker
  · subst same
    rw [Function.update_self] at works
    exact own errand (by rw [works]; exact leaves)
  · rw [Function.update_of_ne same] at works
    exact ⟨job, errand, works, leaves, List.Subset.refl _, rfl⟩

theorem NoMoreOrphans.of_errand {room after : Mailroom} {worker : ClientId}
    {old job : Job} {earlier errand : Errand}
    (jobs : after.jobs = Function.update room.jobs worker (some job))
    (worked : room.jobs worker = some old)
    (had : old.errand? = some earlier) (has : job.errand? = some errand)
    (fewer : errand.orphans ⊆ earlier.orphans)
    (same : errand.entered = earlier.entered) : room.NoMoreOrphans after := by
  refine .of_update jobs ?_
  intro current leaves
  obtain rfl : errand = current := Option.some.inj (has.symm.trans leaves)
  exact ⟨old, earlier, worked, had, fewer, same⟩

namespace Outstanding

variable {room after : Mailroom} {number : Nat} {client : ClientId}
  {path : String}

/-- A step in which nobody comes into a queue or loses a lock or a file that
it awaits. -/
theorem of_fewer (outstanding : after.Outstanding number client path)
    (awaits : after.hub.store.Awaits client path →
      room.hub.store.Awaits client path)
    (entered : after.entered = room.entered)
    (grants : ∀ grant ∈ after.manager.grants, grant ∈ room.manager.grants)
    (granted : after.granted = room.granted)
    (orphans : room.NoMoreOrphans after) :
    room.Outstanding number client path := by
  cases outstanding with
  | waiting waits began => exact .waiting (awaits waits) (entered ▸ began)
  | granted pending began =>
      exact .granted (grants _ pending) (granted ▸ began)
  | orphaned works leaves named began =>
      obtain ⟨old, earlier, worked, left, fewer, same⟩ :=
        orphans _ _ _ works leaves
      exact .orphaned worked left (fewer named) (same ▸ began)

theorem awaits_before_of_unsought {store : Store}
    (consistent : store.Consistent) {operation : StoreOperation}
    (unsought : operation.seeker? = none)
    (awaits : (store.perform operation).2.Awaits client path) :
    store.Awaits client path := by
  rcases Store.awaits_of_perform consistent operation awaits with
    earlier | rfl | rfl
  · exact earlier
  · cases unsought
  · cases unsought

/-- A request that puts its client into a queue announces the wait, and takes
files away only from clients that wait already. -/
theorem dispatch {worker : ClientId} {connection kept : Connection}
    {read : Except Error Request} {reply : Reply} {hub : Hub}
    (sound : room.hub.store.Sound) (inOrder : room.hub.store.QueuesInOrder)
    (staffed : room.Staffed)
    (seated : room.seats.find? worker = some ⟨connection, .inUse⟩)
    (goes : room.hub.dispatchRead connection read = (reply, kept, hub))
    (outstanding : (room.dispatched worker read reply kept hub).Outstanding
      number client path) :
    room.Outstanding number client path ∨
      (room.dispatched worker read reply kept hub).Announced number client
        path := by
  obtain ⟨named, current⟩ := staffed.seated worker _ seated
  cases outstanding with
  | waiting awaits entered =>
      by_cases before : room.hub.store.Awaits client path
      · left
        refine .waiting before ?_
        simpa [dispatched, enteredBy, before] using entered
      · right
        obtain ⟨rfl, pending, asked⟩ := Hub.announced_of_entry
          sound.consistent inOrder goes before awaits
        simp only at named
        subst named
        have last : room.journal.length = number :=
          (if_pos ⟨awaits, before⟩).symm.trans entered
        subst last
        refine ⟨current, ⟨_, (served_append_iff rfl).mpr
          (Or.inr ⟨rfl, rfl⟩), rfl, asked, before, awaits⟩, Or.inr (Or.inl ?_)⟩
        simpa [left, dispatched, Job.left] using pending
  | granted pending entered => exact Or.inl (.granted pending entered)
  | @orphaned teller job errand works leaves orphan entered =>
      left
      by_cases same : teller = worker
      · -- Whoever this request made an orphan was waiting until then.
        subst same
        simp only [dispatched, Function.update_self,
          Option.some.injEq] at works
        subst works
        cases leaves
        exact .waiting
          (Hub.awaited_of_orphan sound.consistent goes orphan) entered
      · simp only [dispatched, ne_eq, same, not_false_eq_true,
          Function.update_of_ne] at works
        exact .orphaned works leaves orphan entered

/-- What is still to be told was to be told before, or is announced. -/
theorem step (sound : room.hub.store.Sound)
    (inOrder : room.hub.store.QueuesInOrder) (staffed : room.Staffed)
    (step : room.Step after)
    (outstanding : after.Outstanding number client path) :
    room.Outstanding number client path ∨
      after.Announced number client path := by
  have sameStore {added : ClientId → List Response} {hub : Hub}
      (extended : Hub.Extends room.hub added hub) :
      hub.store.Awaits client path → room.hub.store.Awaits client path := by
    rw [extended.store]
    exact id
  cases step with
  | idle => exact Or.inl outstanding
  | @beside floor granted beside =>
      left
      cases outstanding with
      | waiting awaits entered =>
          refine .waiting ?_ entered
          rcases beside.store with same | ⟨operation, unsought, goes⟩
          · exact same ▸ awaits
          · exact awaits_before_of_unsought sound.consistent unsought
              (goes ▸ awaits)
      | granted pending entered =>
          rcases beside.grants _ pending with
            ⟨still, same⟩ | ⟨fresh, same⟩
          · exact .granted still (same ▸ entered)
          · -- What is handed on now was awaited until now.
            exact .waiting (sound.consistent.holds_of_granted fresh).1
              (same ▸ entered)
      | orphaned works leaves named entered =>
          exact .orphaned works leaves named entered
  | reserved =>
      exact Or.inl (outstanding.of_fewer id rfl (fun _ => id) rfl
        (.of_update rfl nofun))
  | dispatched seated asking goes =>
      exact outstanding.dispatch sound inOrder staffed seated goes
  | pushed replying _ extended =>
      exact Or.inl (outstanding.of_fewer (sameStore extended) rfl
        (fun _ => id) rfl
        (.of_errand rfl replying rfl rfl (List.Subset.refl _) rfl))
  | refused replying _ sameOrphans sameEntries extended =>
      exact Or.inl (outstanding.of_fewer (sameStore extended) rfl
        (fun _ => id) rfl
        (.of_errand rfl replying rfl rfl (sameOrphans ▸ List.Subset.refl _)
          sameEntries))
  | dropped replying =>
      exact Or.inl (outstanding.of_fewer id rfl (fun _ => id) rfl
        (.of_errand rfl replying rfl rfl (List.Subset.refl _) rfl))
  | notified notifying _ _ extended | unheard notifying extended =>
      exact Or.inl (outstanding.of_fewer (sameStore extended) rfl
        (fun _ => id) rfl
        (.of_errand rfl notifying rfl rfl (List.subset_cons_self _ _) rfl))
  | granted telling _ _ extended =>
      refine Or.inl (outstanding.of_fewer (sameStore extended) rfl ?_ rfl
        (.of_jobs rfl))
      intro grant pending
      rw [telling]
      exact List.mem_cons_of_mem _ pending
  | finished =>
      exact Or.inl (outstanding.of_fewer id rfl (fun _ => id) rfl
        (.of_update rfl nofun))

end Outstanding

namespace Step

variable {room after : Mailroom} (step : room.Step after)

include step

/-- Every step carries out at most one operation on the store. -/
theorem store : after.hub.store = room.hub.store ∨
    ∃ operation, after.hub.store = (room.hub.store.perform operation).2 := by
  cases step with
  | idle | reserved | dropped | finished => exact Or.inl rfl
  | beside beside =>
      rcases beside.store with same | ⟨operation, -, goes⟩
      · exact Or.inl same
      · exact Or.inr ⟨operation, goes⟩
  | dispatched seated asking goes =>
      rcases Hub.store_dispatchRead goes with
        ⟨same, -⟩ | ⟨-, operation, -, -, performed, -⟩
      · exact Or.inl same
      · exact Or.inr ⟨operation, performed⟩
  | pushed _ _ extended => exact Or.inl extended.store
  | refused _ _ _ _ extended => exact Or.inl extended.store
  | notified _ _ _ extended => exact Or.inl extended.store
  | unheard _ extended => exact Or.inl extended.store
  | granted _ _ _ extended => exact Or.inl extended.store

theorem served {number : Nat} {service : Service}
    (served : room.Served number service) : after.Served number service := by
  cases step with
  | dispatched => exact (served_append_iff rfl).mpr (Or.inl served)
  | _ => exact served

/-- At most one letter is queued, of a reply or of an end that somebody still
has to tell, and the latter only where the outbox is not reserved. -/
theorem mail : after.mail = room.mail ∨
    (∃ client number response,
      after.mail = room.mailWith client ⟨.reply number, response⟩) ∨
    ∃ client number path response,
      room.Outstanding number client path ∧
      (response = Hub.grantNotice path ∨ response = Hub.goneNotice path) ∧
      room.reserved client = false ∧
      room.hub.outboxClosed? client = some false ∧
      after.mail = room.mailWith client ⟨.ending number, response⟩ := by
  cases step with
  | pushed => exact Or.inr (Or.inl ⟨_, _, _, rfl⟩)
  | notified notifying free isOpen =>
      exact Or.inr (Or.inr ⟨_, _, _, _,
        .orphaned notifying rfl List.mem_cons_self rfl, Or.inr rfl, free,
        isOpen, rfl⟩)
  | granted telling free isOpen =>
      refine Or.inr (Or.inr ⟨_, _, _, _, .granted ?_ rfl, Or.inl rfl, free,
        isOpen, rfl⟩)
      rw [telling]
      exact List.mem_cons_self
  | _ => exact Or.inl rfl

/-- Unless a step dispatches a request, it records nothing, and nobody comes
into a queue. -/
theorem awaits (consistent : room.hub.store.Consistent)
    (staffed : room.Staffed) :
    (∃ connection kept read reply hub,
      room.hub.dispatchRead connection read = (reply, kept, hub) ∧
      after = room.dispatched connection.client read reply kept hub) ∨
    (after.journal = room.journal ∧ after.entered = room.entered ∧
      ∀ client path, after.hub.store.Awaits client path →
        room.hub.store.Awaits client path) := by
  cases step with
  | idle | reserved | dropped | finished =>
      exact Or.inr ⟨rfl, rfl, fun _ _ => id⟩
  | beside beside =>
      refine Or.inr ⟨rfl, rfl, ?_⟩
      intro client path awaits
      rcases beside.store with same | ⟨operation, unsought, goes⟩
      · exact same ▸ awaits
      · exact Outstanding.awaits_before_of_unsought consistent unsought
          (goes ▸ awaits)
  | @dispatched worker connection kept read reply hub seated asking goes =>
      have named := (staffed.seated worker _ seated).1
      exact Or.inl ⟨connection, kept, read, reply, hub, goes, by rw [← named]⟩
  | pushed _ _ extended | refused _ _ _ _ extended
  | notified _ _ _ extended | unheard _ extended | granted _ _ _ extended =>
      refine Or.inr ⟨rfl, rfl, ?_⟩
      intro client path awaits
      rwa [extended.store] at awaits

end Step

end Mailroom

end FileDepot
