import FileDepot.Client
import FileDepot.Proofs.Server.Replies

/-!
# Calls and their replies

Every reply that the server gives to a request takes the call that made it to
its end, or to the point where it waits for a lock.
-/

namespace FileDepot

namespace Awaiting

/-- These responses, one after the other, finish a call. -/
inductive Concludes :
    Awaiting → List Response → Except Error CallAnswer → Prop
  | last {awaiting : Awaiting} {response : Response}
      {outcome : Except Error CallAnswer}
      (finishes : awaiting.receive response = .finished outcome) :
      Concludes awaiting [response] outcome
  | more {awaiting next : Awaiting} {response : Response}
      {later : List Response} {outcome : Except Error CallAnswer}
      (goesOn : awaiting.receive response = .waiting next)
      (concludes : Concludes next later outcome) :
      Concludes awaiting (response :: later) outcome

/-- These responses, one after the other, leave a call waiting. -/
inductive LeadsTo : Awaiting → List Response → Awaiting → Prop
  | refl (awaiting : Awaiting) : LeadsTo awaiting [] awaiting
  | more {awaiting next last : Awaiting} {response : Response}
      {later : List Response}
      (goesOn : awaiting.receive response = .waiting next)
      (leads : LeadsTo next later last) :
      LeadsTo awaiting (response :: later) last

theorem LeadsTo.concludes {awaiting next : Awaiting}
    {earlier later : List Response} {outcome : Except Error CallAnswer}
    (leads : awaiting.LeadsTo earlier next)
    (concludes : next.Concludes later outcome) :
    awaiting.Concludes (earlier ++ later) outcome := by
  induction leads with
  | refl awaiting => exact concludes
  | more goesOn leads ih => exact .more goesOn (ih concludes)

theorem Concludes.cons_cases {awaiting : Awaiting} {response : Response}
    {later : List Response} {outcome : Except Error CallAnswer}
    (concludes : awaiting.Concludes (response :: later) outcome) :
    (later = [] ∧ awaiting.receive response = .finished outcome) ∨
      ∃ next, awaiting.receive response = .waiting next ∧
        next.Concludes later outcome := by
  cases concludes with
  | last finishes => exact Or.inl ⟨rfl, finishes⟩
  | more goesOn concludes => exact Or.inr ⟨_, goesOn, concludes⟩

theorem LeadsTo.cons_inv {awaiting last : Awaiting} {response : Response}
    {later : List Response}
    (leads : awaiting.LeadsTo (response :: later) last) :
    ∃ next, awaiting.receive response = .waiting next ∧
      next.LeadsTo later last := by
  cases leads with
  | more goesOn leads => exact ⟨_, goesOn, leads⟩

theorem LeadsTo.nil_inv {awaiting last : Awaiting}
    (leads : awaiting.LeadsTo [] last) : awaiting = last := by
  cases leads
  rfl

theorem leadsTo_expelled (call : Call) (expelled gathered : List EvictedFile) :
    (reply call gathered).LeadsTo (expelled.map Reply.expelled)
      (reply call (gathered ++ expelled)) := by
  induction expelled generalizing gathered with
  | nil =>
      rw [List.append_nil]
      exact .refl _
  | cons file others ih =>
      have later := ih (gathered ++ [file])
      rw [List.append_assoc] at later
      exact .more rfl later

theorem leadsTo_files {files : List (String × Bytes)}
    (named : ∀ file ∈ files, file.1 ≠ "") (gathered : List (String × Bytes)) :
    (moreFiles gathered).LeadsTo (files.map Scope.found)
      (moreFiles (gathered ++ files)) := by
  induction files generalizing gathered with
  | nil =>
      rw [List.map_nil, List.append_nil]
      exact .refl _
  | cons file others ih =>
      have later := ih (fun other among =>
        named other (List.mem_cons_of_mem _ among)) (gathered ++ [file])
      rw [List.append_assoc] at later
      refine .more ?_ later
      simp [receive, Scope.found, Status.isSuccess,
        named file List.mem_cons_self]

end Awaiting

theorem Request.flags_openFile (path : String) (flags : OpenFlags) :
    (openFile path flags).flags = .ok flags := by
  have whole : flags.bits.toNat % Bytes.capacity flagsWidth =
      flags.bits.toNat :=
    Nat.mod_eq_of_lt flags.bits.toNat_lt
  have width : (Bytes.ofNat flagsWidth flags.bits.toNat).length = flagsWidth :=
    Bytes.length_ofNat flagsWidth flags.bits.toNat
  simp only [Request.flags, openFile, width, Bytes.value_ofNat, whole,
    UInt32.ofNat_toNat, OpenFlags.ofBits?_bits]
  rfl

namespace Call

/-- Whether a call is over only when nothing more will come of it. -/
def blocks : Call → Bool
  | tryLockFile _ | waitForLock _ => false
  | _ => true

/-- The path of the lock that a call asks for. -/
def lockPath? : Call → Option String
  | openFile path flags => if flags.lock then some path else none
  | lockFile path => some path
  | _ => none

variable {call : Call} {request : Request}

theorem lockPath?_eq_some_iff (blocks : call.blocks = true)
    (asks : call.request? = some request) {path : String} :
    call.lockPath? = some path ↔
      request.wantsLock = true ∧ request.path = path := by
  cases call with
  | openFile target flags =>
      cases asks
      simp only [lockPath?, Request.wantsLock, Request.flags_openFile]
      simp [Request.openFile]
  | lockFile target =>
      cases asks
      simp [lockPath?, Request.wantsLock]
  | tryLockFile | waitForLock => cases blocks
  | _ =>
      cases asks
      simp [lockPath?, Request.wantsLock, Request.readNFiles]

theorem concludes_refusal (blocks : call.blocks = true) {response : Response}
    (refusal : response.status.isRefusal = true) :
    call.start.Concludes [response]
      (.error (.refused response.status response.path)) := by
  apply Awaiting.Concludes.last
  rcases response with ⟨status, path, body⟩
  cases call with
  | waitForLock => cases blocks
  | _ => cases status <;> first | rfl | cases refusal

theorem conclude_success (blocks : call.blocks = true)
    (gathered : List EvictedFile) {final : Response}
    (success : final.status = .success) :
    ∃ answer, (Awaiting.reply call gathered).receive final =
      .finished (.ok answer) := by
  rcases final with ⟨status, path, body⟩
  cases success
  cases call with
  | tryLockFile | waitForLock => cases blocks
  | _ => exact ⟨_, rfl⟩

/-- A call that asks for a lock waits for it when it is told to. -/
theorem leadsTo_grant {path : String} (locks : call.lockPath? = some path) :
    ∃ answer, call.start.LeadsTo
      [{ status := .lockPending, path := path }] (.grant path answer) := by
  cases call with
  | openFile target flags =>
      cases wants : flags.lock with
      | false => simp [lockPath?, wants] at locks
      | true =>
          simp only [lockPath?, wants, if_true, Option.some.injEq] at locks
          subst locks
          exact ⟨_, .more rfl (.refl _)⟩
  | lockFile target =>
      cases locks
      exact ⟨_, .more rfl (.refl _)⟩
  | _ => cases locks

/-- What a call makes of the reply to its request: it is finished, and then it
says rightly that a lock is held or that it failed without effect, or it waits
for the lock. -/
inductive Answered (call : Call) (client : ClientId) (before : Store)
    (responses : List Response) (after : Store) (stays : Bool) : Prop
  | finished (outcome : Except Error CallAnswer)
      (concludes : call.start.Concludes responses outcome)
      (expected : ∀ reason, outcome ≠ .error (.invalidState reason))
      (unchanged : ∀ error, outcome = .error error → after = before)
      (locked : ∀ answer path, outcome = .ok answer →
        call.lockPath? = some path →
        after.Holds client path ∧ stays = true)
  | pending (path : String) (answer : CallAnswer)
      (locks : call.lockPath? = some path)
      (leads : call.start.LeadsTo responses (.grant path answer))
      (awaits : after.Awaits client path) (stays : stays = true)

theorem Answered.of_refusal (blocks : call.blocks = true) {client : ClientId}
    {response : Response} (refusal : response.status.isRefusal = true)
    {before after : Store} (same : after = before) (stays : Bool) :
    call.Answered client before [response] after stays := by
  refine .finished _ (concludes_refusal blocks refusal) ?_
    (fun _ _ => same) ?_
  · intro reason impossible
    cases impossible
  · intro answer path returned
    cases returned

/-- Whatever the server makes of a request is an answer to its call, as long
as no file is stored without a path. -/
theorem answered_of_settles (blocks : call.blocks = true)
    (asks : call.request? = some request) {client : ClientId}
    {scope after : Scope} {reply : Reply}
    (settles : scope.Settles client request reply after)
    (unnamed : scope.store.file? "" = none) :
    call.Answered client scope.store reply.responses after.store
      !reply.close := by
  have locks_iff {path : String} : call.lockPath? = some path ↔
      request.wantsLock = true ∧ request.path = path :=
    lockPath?_eq_some_iff blocks asks
  cases settles with
  | refused error refusal answer same =>
      subst answer
      exact .of_refusal blocks refusal (by rw [same]) _
  | met expelled final single success answer locked =>
      have start : call.start = .reply call [] := by
        cases call with
        | waitForLock => cases blocks
        | readMany count =>
            cases asks
            exact absurd rfl single
        | _ => rfl
      obtain ⟨returned, returns⟩ := conclude_success blocks expelled success
      refine .finished (.ok returned) ?_ (by simp) (by simp) ?_
      · rw [answer, start]
        have gathers := Awaiting.leadsTo_expelled call expelled []
        exact gathers.concludes (.last returns)
      · intro _ path _ locks
        obtain ⟨wants, rfl⟩ := locks_iff.mp locks
        obtain ⟨holds, stays⟩ := locked wants
        exact ⟨holds, by rw [stays]; rfl⟩
  | listed files many stored answer =>
      have called : ∃ count, call = .readMany count := by
        cases call with
        | readMany count => exact ⟨count, rfl⟩
        | waitForLock => cases asks
        | _ =>
            cases asks
            cases many
      obtain ⟨count, rfl⟩ := called
      refine .finished (.ok (.files files)) ?_ (by simp) (by simp) ?_
      · rw [answer]
        have pathed : ∀ file ∈ files, file.1 ≠ "" := by
          intro file among pathless
          exact stored file among (pathless ▸ unnamed)
        have gathers := Awaiting.leadsTo_files pathed []
        exact gathers.concludes (.last rfl)
      · intro _ path _ locks
        cases locks
  | queued wants answer awaits stays =>
      have locks : call.lockPath? = some request.path :=
        locks_iff.mpr ⟨wants, rfl⟩
      obtain ⟨returned, leads⟩ := leadsTo_grant locks
      refine .pending request.path returned locks ?_ awaits ?_
      · rw [answer]
        exact leads
      · rw [stays]
        rfl

end Call

end FileDepot
