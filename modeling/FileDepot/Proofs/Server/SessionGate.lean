import FileDepot.Desk
import FileDepot.Proofs.Server.Replies

/-!
# The gate of a session

What a client may ask for follows from the requests that it made itself and
from how they ended.  Before it opened its session it is turned away, and from
then on the files that stand open to it are those that it opened last and did
not close or remove since.  Nobody else has a say in this.
-/

namespace FileDepot

/-- The status that ends a reply. -/
def Reply.final? (reply : Reply) : Option Status :=
  reply.responses.getLast?.map Response.status

/-- Whether a request opened the file at a path for its client, or closed it,
if it did either. -/
def Request.opens? (path : String) (request : Request) (reply : Reply) :
    Option Bool :=
  if request.path = path then
    match request.operation, reply.final? with
    | .openFile, some .success | .openFile, some .lockPending => some true
    | .closeFile, some .success | .removeFile, some .success => some false
    | _, _ => none
  else
    none

/-- Whether the last request that opened or closed the file at a path opened
it. -/
def leavesOpen (path : String) (exchanges : List (Request × Reply)) : Bool :=
  let verdicts := exchanges.filterMap fun exchange =>
    exchange.1.opens? path exchange.2
  verdicts.getLast?.getD false

theorem leavesOpen_append_singleton (path : String)
    (exchanges : List (Request × Reply)) (request : Request) (reply : Reply) :
    leavesOpen path (exchanges ++ [(request, reply)]) =
      (request.opens? path reply).getD (leavesOpen path exchanges) := by
  unfold leavesOpen
  rw [List.filterMap_append]
  cases verdict : request.opens? path reply with
  | none => simp [verdict]
  | some opens => simp [verdict]

namespace Request

variable {request : Request} {reply : Reply}

theorem opens?_of_other {path : String} (other : request.path ≠ path)
    (reply : Reply) : request.opens? path reply = none :=
  if_neg other

theorem opens?_of_refused {error : Error}
    (refusal : error.status.isRefusal = true) (path : String) :
    request.opens? path (.ofError error request.path) = none := by
  obtain ⟨notMet, -, -, notPending⟩ := Status.isRefusal_spec refusal
  have final : (Reply.ofError error request.path).final? =
      some error.status :=
    rfl
  unfold Request.opens?
  rw [final]
  split
  · split <;> simp_all
  · rfl

end Request

namespace Session

theorem isOpen_markOpen {session : Session} (active : session.isActive = true)
    (path other : String) :
    (session.markOpen path).isOpen other =
      (decide (path = other) || session.isOpen other) := by
  cases session with
  | unopened => cases active
  | active opened =>
      by_cases same : path = other
      · subst same
        by_cases known : path ∈ opened
        · simp [markOpen, isOpen, known]
        · simp [markOpen, isOpen, known]
      · by_cases known : path ∈ opened
        · simp [markOpen, isOpen, known, same]
        · simp [markOpen, isOpen, known, same, Ne.symm same]

theorem isOpen_markClosed (session : Session) (path other : String) :
    (session.markClosed path).isOpen other =
      (!decide (path = other) && session.isOpen other) := by
  cases session with
  | unopened => simp [markClosed, isOpen]
  | active opened =>
      by_cases same : path = other
      · simp [markClosed, isOpen, same]
      · simp [markClosed, isOpen, same, Ne.symm same]

end Session

namespace Scope

/-- What a request makes of a session goes by the verdict on each path. -/
def FollowsVerdicts (request : Request) (session : Session) (reply : Reply)
    (after : Session) : Prop :=
  ∀ path, after.isOpen path =
    (request.opens? path reply).getD (session.isOpen path)

section Handlers

variable {client : ClientId} {request : Request} {scope : Scope}

theorem follows_of_refused {error : Error}
    (refusal : error.status.isRefusal = true) (session : Session) :
    FollowsVerdicts request session (.ofError error request.path) session := by
  intro path
  rw [Request.opens?_of_refused refusal]
  rfl

theorem follows_of_idle (idle : request.operation ∉
      [OpCode.openFile, .closeFile, .removeFile])
    (session : Session) (reply : Reply) :
    FollowsVerdicts request session reply session := by
  intro path
  have none : request.opens? path reply = none := by
    unfold Request.opens?
    split
    · split <;> simp_all
    · rfl
  rw [none]
  rfl

theorem follows_of_opened (code : request.operation = .openFile)
    {session : Session} (active : session.isActive = true) {reply : Reply}
    (met : reply.final? = some .success ∨ reply.final? = some .lockPending) :
    FollowsVerdicts request session reply (session.markOpen request.path) := by
  intro path
  rw [Session.isOpen_markOpen active]
  by_cases same : request.path = path
  · have verdict : request.opens? path reply = some true := by
      rcases met with success | pending
      · simp [Request.opens?, same, code, success]
      · simp [Request.opens?, same, code, pending]
    simp [verdict, same]
  · simp [Request.opens?_of_other same, same]

theorem follows_of_closed
    (code : request.operation = .closeFile ∨ request.operation = .removeFile)
    (session : Session) {reply : Reply}
    (met : reply.final? = some .success) :
    FollowsVerdicts request session reply
      (session.markClosed request.path) := by
  intro path
  rw [Session.isOpen_markClosed]
  by_cases same : request.path = path
  · have verdict : request.opens? path reply = some false := by
      rcases code with closes | removes
      · simp [Request.opens?, same, closes, met]
      · simp [Request.opens?, same, removes, met]
    simp [verdict, same]
  · simp [Request.opens?_of_other same, same]

theorem follows_createFile (code : request.operation = .openFile)
    (active : scope.session.isActive = true) (lock : Bool) :
    FollowsVerdicts request scope.session
      (.ofResult request.path
        (scope.createFile client request.path lock).1)
      (scope.createFile client request.path lock).2.session := by
  unfold createFile
  rcases goes : scope.store.create request.path client lock with
    ⟨error | evicted, after⟩
  · exact follows_of_refused (Store.refuses_create goes).2 _
  · apply follows_of_opened code active
    simp [Reply.ofResult, Reply.withEvicted, Reply.ofStatus, Reply.final?]

theorem follows_openExisting (code : request.operation = .openFile)
    (active : scope.session.isActive = true) (lock : Bool) :
    FollowsVerdicts request scope.session
      (.ofResult request.path
        (scope.openExisting client request.path lock).1)
      (scope.openExisting client request.path lock).2.session := by
  unfold openExisting
  rcases goes : scope.store.open request.path client lock with
    ⟨error | outcome?, after⟩
  · exact follows_of_refused (Store.refuses_open goes).2 _
  · apply follows_of_opened code active
    rcases outcome? with _ | _ | _
    · exact Or.inl rfl
    · exact Or.inl rfl
    · exact Or.inr rfl

theorem follows_openFile (code : request.operation = .openFile)
    (active : scope.session.isActive = true) :
    FollowsVerdicts request scope.session
      (.ofResult request.path (scope.openFile client request).1)
      (scope.openFile client request).2.session := by
  unfold openFile
  cases read : request.flags with
  | error error => exact follows_of_refused (refusal_of_flags read) _
  | ok flags =>
      dsimp only
      split
      · exact follows_createFile code active flags.lock
      · exact follows_openExisting code active flags.lock

theorem follows_removeFile (code : request.operation = .removeFile) :
    FollowsVerdicts request scope.session
      (.ofResult request.path (scope.removeFile client request.path).1)
      (scope.removeFile client request.path).2.session := by
  unfold removeFile
  rcases goes : scope.store.remove request.path client with
    ⟨error | orphans, after⟩
  · exact follows_of_refused (Store.refuses_remove goes).2 _
  · exact follows_of_closed (Or.inr code) _ rfl

/-- No other handler touches the session. -/
theorem session_handle_of_idle (opened : scope.session.isActive = true)
    (idle : request.operation ∉
      [OpCode.openFile, .closeFile, .removeFile]) :
    (scope.handle client request).2.session = scope.session := by
  unfold handle
  cases code : request.operation with
  | openFile | closeFile | removeFile => simp [code] at idle
  | openConnection =>
      dsimp only
      unfold openConnection
      cases session : scope.session with
      | unopened => simp [session, Session.isActive] at opened
      | active paths => exact session
  | closeConnection => rfl
  | writeFile =>
      dsimp only
      unfold writeFile
      split <;> rfl
  | readFile =>
      dsimp only
      unfold readFile
      split <;> rfl
  | readNFiles =>
      dsimp only
      unfold readNFiles
      split <;> rfl
  | lockFile =>
      dsimp only
      unfold lockFile
      split <;> rfl
  | unlockFile =>
      dsimp only
      unfold unlockFile
      split <;> rfl

theorem follows_handle (active : scope.session.isActive = true) :
    FollowsVerdicts request scope.session
      (.ofResult request.path (scope.handle client request).1)
      (scope.handle client request).2.session := by
  by_cases idle : request.operation ∉
      [OpCode.openFile, .closeFile, .removeFile]
  · rw [session_handle_of_idle active idle]
    exact follows_of_idle idle _ _
  · unfold handle
    cases code : request.operation with
    | openFile => exact follows_openFile code active
    | closeFile => exact follows_of_closed (Or.inl code) _ rfl
    | removeFile => exact follows_removeFile code
    | _ => simp [code] at idle

end Handlers

section Dispatching

variable (client : ClientId) (request : Request) (scope : Scope)

/-- Without a session a client may do nothing but open one. -/
theorem dispatch_unopened (unopened : scope.session.isActive = false)
    (notOpening : request.operation ≠ .openConnection) :
    scope.dispatch client request =
      (.ofStatus .unauthorized request.path, scope) := by
  have turnedAway : request.check scope.session = .error .notConnected := by
    simp [Request.check, notOpening, unopened]
  simp only [dispatch, turnedAway]
  rfl

theorem isActive_dispatch :
    (scope.dispatch client request).2.session.isActive =
      (scope.session.isActive ||
        decide (request.operation = .openConnection)) := by
  cases active : scope.session.isActive with
  | true =>
      rw [Bool.true_or]
      rcases dispatch_cases client request scope with
        ⟨unopened, -⟩ | ⟨same, -⟩ | ⟨operation, -, -, carried⟩
      · rw [unopened] at active
        cases active
      · rw [same, active]
      · rw [carried.active, active]
  | false =>
      rw [Bool.false_or]
      by_cases opening : request.operation = .openConnection
      · have checked : request.check scope.session = .ok () := by
          simp [Request.check, opening]
        rw [dispatch_of_checked checked]
        cases session : scope.session with
        | unopened =>
            simp [handle, opening, openConnection, session, Session.activate,
              Session.isActive]
        | active paths => simp [session, Session.isActive] at active
      · rw [dispatch_unopened client request scope active opening]
        simp [active, opening]

theorem follows_dispatch :
    FollowsVerdicts request scope.session (scope.dispatch client request).1
      (scope.dispatch client request).2.session := by
  cases checked : request.check scope.session with
  | error error =>
      simp only [dispatch, checked]
      exact follows_of_refused (refusal_of_check checked) _
  | ok _ =>
      rw [dispatch_of_checked checked]
      cases active : scope.session.isActive with
      | true => exact follows_handle active
      | false =>
          -- Only the opening of the session passes the check here.
          have opening : request.operation = .openConnection := by
            by_contra other
            rw [isActive_of_checked checked other] at active
            cases active
          cases session : scope.session with
          | active paths => simp [session, Session.isActive] at active
          | unopened =>
              have keeps : request.operation ∉
                  [OpCode.openFile, .closeFile, .removeFile] := by
                simp [opening]
              have idle := follows_of_idle keeps (.active [])
                (.ofResult request.path (scope.handle client request).1)
              have after : (scope.handle client request).2.session =
                  .active [] := by
                simp [handle, opening, openConnection, session,
                  Session.activate]
              intro path
              rw [after, idle path]
              rfl

/-- What is answered to a request for a file that is not open. -/
def turnedAway (path : String) : Reply :=
  .ofStatus
    (if path.isEmpty || decide (maxPathLength < path.utf8ByteSize) then
      .badRequest
    else
      .unauthorized) path

theorem check_not_opened {session : Session}
    (active : session.isActive = true)
    (targets : request.operation.targetsFile = true)
    (other : request.operation ≠ .openFile)
    (closed : session.isOpen request.path = false) :
    ∃ error, request.check session = .error error ∧
      Reply.ofError error request.path = turnedAway request.path := by
  have inSession : request.operation ≠ .openConnection := by
    intro opening
    rw [opening] at targets
    cases targets
  by_cases empty : request.path.isEmpty = true
  · refine ⟨.invalidPath "empty path", ?_, ?_⟩
    · simp [Request.check, inSession, active, targets, empty]
    · rw [turnedAway, empty]
      rfl
  · by_cases long : maxPathLength < request.path.utf8ByteSize
    · refine ⟨.invalidPath
        s!"{request.path.utf8ByteSize} bytes exceeds {maxPathLength}", ?_, ?_⟩
      · simp only [Request.check, inSession, active, targets, empty, long,
          Bool.not_true, Bool.false_eq_true, if_false, if_true]
      · rw [turnedAway, if_pos (by simp [long])]
        rfl
    · refine ⟨.notOpened request.path, ?_, ?_⟩
      · simp [Request.check, inSession, active, targets, empty, long, other,
          closed]
      · rw [turnedAway, if_neg (by simp [empty, long])]
        rfl

/-- A request for a file that is not open gets no further than the gate. -/
theorem dispatch_not_opened (active : scope.session.isActive = true)
    (targets : request.operation.targetsFile = true)
    (other : request.operation ≠ .openFile)
    (closed : scope.session.isOpen request.path = false) :
    scope.dispatch client request = (turnedAway request.path, scope) := by
  obtain ⟨error, refused, answer⟩ :=
    check_not_opened request active targets other closed
  simp only [dispatch, refused, answer]

end Dispatching

end Scope

namespace Desk

/-- The session of a client, which is not open if the client never came. -/
def sessionOf (desk : Desk) (client : ClientId) : Session :=
  (desk.session? client).getD .unopened

/-- Answers requests of any clients, one after the other. -/
def run : List (ClientId × Request) → Desk → Desk
  | [], desk => desk
  | (client, request) :: later, desk => run later (desk.answer client request).2

/-- The requests of one client in a run, with their replies. -/
def exchanges (client : ClientId) :
    List (ClientId × Request) → Desk → List (Request × Reply)
  | [], _ => []
  | (asker, request) :: later, desk =>
      let (reply, next) := desk.answer asker request
      if asker = client then
        (request, reply) :: exchanges client later next
      else
        exchanges client later next

/-- What a request of a client may change. -/
def scopeOf (desk : Desk) (client : ClientId) : Scope where
  session := desk.sessionOf client
  store := desk.hub.store
  registry := desk.hub.registry

theorem answer_eq (desk : Desk) (client : ClientId) (request : Request) :
    desk.answer client request =
      (((desk.scopeOf client).dispatch client request).1,
        { hub :=
            { desk.hub with
              store := ((desk.scopeOf client).dispatch client request).2.store
              registry :=
                ((desk.scopeOf client).dispatch client request).2.registry }
          sessions := desk.sessions.insert client
            ((desk.scopeOf client).dispatch client request).2.session }) :=
  rfl

/-- Nobody's session changes but that of the client that asks. -/
theorem sessionOf_answer (desk : Desk) (client other : ClientId)
    (request : Request) :
    (desk.answer client request).2.sessionOf other =
      if other = client then
        ((desk.scopeOf client).dispatch client request).2.session
      else
        desk.sessionOf other := by
  rw [answer_eq]
  simp only [sessionOf, session?, Index.find?_insert]
  split <;> rfl

/-- A session is what its client's own requests made of it. -/
structure Follows (client : ClientId) (past : List (Request × Reply))
    (desk : Desk) : Prop where
  isActive : (desk.sessionOf client).isActive =
    past.any fun exchange => exchange.1.operation = .openConnection
  isOpen : ∀ path,
    (desk.sessionOf client).isOpen path = leavesOpen path past

namespace Follows

variable {client : ClientId} {past : List (Request × Reply)} {desk : Desk}
  (follows : desk.Follows client past)

include follows

theorem answer_self (request : Request) :
    (desk.answer client request).2.Follows client
      (past ++ [(request, (desk.answer client request).1)]) where
  isActive := by
    rw [sessionOf_answer, if_pos rfl, Scope.isActive_dispatch,
      List.any_append, ← follows.isActive]
    simp [scopeOf]
  isOpen := by
    intro path
    rw [sessionOf_answer, if_pos rfl, leavesOpen_append_singleton,
      ← follows.isOpen]
    exact Scope.follows_dispatch client request (desk.scopeOf client) path

theorem answer_other {other : ClientId} (different : other ≠ client)
    (request : Request) :
    (desk.answer other request).2.Follows client past := by
  have same : (desk.answer other request).2.sessionOf client =
      desk.sessionOf client := by
    rw [sessionOf_answer, if_neg different.symm]
  exact ⟨same ▸ follows.isActive, same ▸ follows.isOpen⟩

theorem run (requests : List (ClientId × Request)) :
    (desk.run requests).Follows client
      (past ++ desk.exchanges client requests) := by
  induction requests generalizing past desk with
  | nil => simpa [Desk.run, exchanges] using follows
  | cons asked later ih =>
      rcases asked with ⟨asker, request⟩
      by_cases own : asker = client
      · subst own
        have rest := ih (follows.answer_self request)
        simpa [Desk.run, exchanges] using rest
      · have rest := ih (follows.answer_other own request)
        simpa [Desk.run, exchanges, own] using rest

theorem answer_unopened
    (unopened : ∀ exchange ∈ past, exchange.1.operation ≠ .openConnection)
    {request : Request} (notOpening : request.operation ≠ .openConnection) :
    (desk.answer client request).1 = .ofStatus .unauthorized request.path ∧
      (desk.answer client request).2.hub = desk.hub ∧
      ∀ other, (desk.answer client request).2.sessionOf other =
        desk.sessionOf other := by
  have inactive : (desk.scopeOf client).session.isActive = false := by
    refine follows.isActive.trans (List.any_eq_false.mpr ?_)
    intro exchange among
    simpa using unopened exchange among
  have goes := Scope.dispatch_unopened client request
    (desk.scopeOf client) inactive notOpening
  refine ⟨?_, ?_, ?_⟩
  · rw [answer_eq, goes]
  · rw [answer_eq, goes]
    rfl
  · intro other
    rw [sessionOf_answer, goes]
    split
    · rename_i same
      rw [same]
      rfl
    · rfl

/-- Once the session is open, it lists the files that stand open. -/
theorem session_opened
    (opening : ∃ exchange ∈ past, exchange.1.operation = .openConnection) :
    ∃ opened, desk.session? client = some (.active opened) ∧
      ∀ path, path ∈ opened ↔ leavesOpen path past = true := by
  have active : (desk.sessionOf client).isActive = true := by
    obtain ⟨exchange, among, opens⟩ := opening
    refine follows.isActive.trans (List.any_eq_true.mpr ?_)
    exact ⟨exchange, among, by simpa using opens⟩
  have isOpen := follows.isOpen
  unfold sessionOf at active isOpen
  cases found : desk.session? client with
  | none =>
      rw [found] at active
      cases active
  | some session =>
      rw [found] at active isOpen
      cases session with
      | unopened => cases active
      | active opened =>
          refine ⟨opened, rfl, ?_⟩
          intro path
          rw [← isOpen path]
          simp [Session.isOpen]

end Follows

theorem answer_not_opened {desk : Desk} {client : ClientId}
    {opened : List String}
    (session : desk.session? client = some (.active opened))
    {request : Request} (targets : request.operation.targetsFile = true)
    (other : request.operation ≠ .openFile)
    (closed : request.path ∉ opened) :
    desk.answer client request = (Scope.turnedAway request.path, desk) := by
  have present : (desk.scopeOf client).session = .active opened := by
    simp [scopeOf, sessionOf, session]
  have goes := Scope.dispatch_not_opened client request (desk.scopeOf client)
    (by rw [present]; rfl) targets other
    (by rw [present]; simpa [Session.isOpen] using closed)
  have kept : desk.sessions.insert client (.active opened) = desk.sessions :=
    desk.sessions.insert_found session
  rw [answer_eq, goes, present, kept]
  rfl

/-- A client's own requests decide what its session lets it do.  Until one of
them opens the session, every other one is turned away.  From then on the
files that stand open to it are those whose last opening was not followed by
a closing or a removal of its own, and a request for any other file is turned
away, whatever the store holds.  Nothing is changed by turning away, and
nobody else changes the session. -/
theorem sessions_follow_their_own_requests (hub : Hub)
    (requests : List (ClientId × Request)) (client : ClientId) :
    let desk := ({ hub } : Desk).run requests
    let own := ({ hub } : Desk).exchanges client requests
    ((∀ exchange ∈ own, exchange.1.operation ≠ .openConnection) →
      ∀ request : Request, request.operation ≠ .openConnection →
        (desk.answer client request).1 =
            .ofStatus .unauthorized request.path ∧
          (desk.answer client request).2.hub = desk.hub ∧
          ∀ other, (desk.answer client request).2.sessionOf other =
            desk.sessionOf other) ∧
    ((∃ exchange ∈ own, exchange.1.operation = .openConnection) →
      ∃ opened, desk.session? client = some (.active opened) ∧
        (∀ path, path ∈ opened ↔ leavesOpen path own = true) ∧
        ∀ request : Request,
          request.operation ∈ [OpCode.readFile, .writeFile, .lockFile,
            .unlockFile, .removeFile, .closeFile] →
          request.path ∉ opened → ∀ store : Store,
            let here := { desk with hub := { desk.hub with store } }
            here.answer client request =
              (.ofStatus
                (if request.path.isEmpty ||
                    decide (maxPathLength < request.path.utf8ByteSize) then
                  .badRequest
                else
                  .unauthorized) request.path, here)) ∧
    ∀ (other : ClientId) (request : Request), other ≠ client →
      (desk.answer other request).2.sessionOf client =
        desk.sessionOf client := by
  intro desk own
  have start : Follows client [] ({ hub } : Desk) := ⟨rfl, fun _ => rfl⟩
  have follows : desk.Follows client own := start.run requests
  refine ⟨?_, ?_, ?_⟩
  · intro unopened request notOpening
    exact follows.answer_unopened unopened notOpening
  · intro opening
    obtain ⟨opened, session, stands⟩ := follows.session_opened opening
    refine ⟨opened, session, stands, ?_⟩
    intro request operation closed store here
    have targets : request.operation.targetsFile = true := by
      revert operation
      cases request.operation <;> decide
    have other : request.operation ≠ .openFile := by
      rintro same
      rw [same] at operation
      revert operation
      decide
    have standing : here.session? client = some (.active opened) := session
    exact answer_not_opened standing targets other closed
  · intro other request different
    rw [sessionOf_answer, if_neg different.symm]

/-- A client waits for the lock of a file when the owner of the lock removes
the file. -/
def removal : List (ClientId × Request) :=
  [(1, { operation := .openConnection }),
    (1, .openFile "f" { create := true, lock := true }),
    (2, { operation := .openConnection }),
    (2, .openFile "f" { lock := true }),
    (1, { operation := .removeFile, path := "f" })]

/-- A file stands open to the client that was told to wait for it, even after
somebody else removed it, and no other file does. -/
theorem pending_file_stands_open :
    let desk := ({ hub := .new {} } : Desk).run removal
    ∃ opened, desk.session? 2 = some (.active opened) ∧ "f" ∈ opened ∧
      desk.answer 2 { operation := .readFile, path := "g" } =
        (.ofStatus .unauthorized "g", desk) := by
  intro desk
  obtain ⟨-, gate, -⟩ :=
    sessions_follow_their_own_requests (.new {}) removal 2
  obtain ⟨opened, session, stands, turnsAway⟩ := gate (by decide +kernel)
  have pending : "f" ∈ opened := (stands "f").mpr (by decide +kernel)
  have closed : "g" ∉ opened := (stands "g").not.mpr (by decide +kernel)
  refine ⟨opened, session, pending, ?_⟩
  exact turnsAway { operation := .readFile, path := "g" } (by decide) closed
    desk.hub.store

end Desk

end FileDepot
