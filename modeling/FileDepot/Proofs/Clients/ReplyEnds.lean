import FileDepot.Proofs.Clients.Receiving
import FileDepot.Proofs.Server.Deliverables
import FileDepot.Proofs.Server.Expulsions
import FileDepot.Proofs.Wire.HealthySinks

/-!
# Where a reply ends

Client and server agree on the end of every reply: the client reads all that
the server has written for its request, and nothing behind it.
-/

namespace FileDepot

namespace Request

theorem count_readNFiles (count : Int64) :
    (readNFiles count.toInt).count = .ok count.toInt := by
  have least := count.le_toInt
  have most := count.toInt_lt
  have width : (readNFiles count.toInt).body.length = countWidth :=
    Bytes.length_ofNat countWidth _
  have positive : (0 : Int) < (Bytes.capacity countWidth : Int) := by decide
  have nonneg := Int.emod_nonneg count.toInt (Int.ne_of_gt positive)
  have digits : Bytes.value (readNFiles count.toInt).body =
      (count.toInt % (Bytes.capacity countWidth : Int)).toNat := by
    have below := Int.emod_lt_of_pos count.toInt positive
    change Bytes.value (Bytes.ofNat countWidth _) = _
    rw [Bytes.value_ofNat, Nat.mod_eq_of_lt]
    omega
  have restored : Bytes.signed (readNFiles count.toInt).body =
      count.toInt := by
    rw [Bytes.signed, digits, width, Int.toNat_of_nonneg nonneg,
      Int.emod_bmod]
    have capacity : Bytes.capacity countWidth = 2 ^ 64 := by decide
    rw [capacity]
    apply Int.bmod_eq_of_le <;> omega
  rw [Request.count, width, restored]
  rfl

end Request

theorem Deliverable.fits {path : String} {content : Bytes}
    (deliverable : Deliverable path content) (status : Status) :
    Response.Fits { status, path, body := content } :=
  ⟨deliverable.path_le, deliverable.content_lt⟩

theorem Response.Fits.of_status (status : Status) {path : String}
    (short : (Bytes.ofText path).length ≤ maxPathLength) :
    Response.Fits { status, path } :=
  ⟨short, Nat.lt_of_le_of_lt (Nat.zero_le _) maxPathLength_lt⟩

namespace Scope

/-- What a request for many files is to be answered. -/
def listing (scope : Scope) (client : ClientId) (request : Request) :
    Except Error (List (String × Bytes)) := do
  request.check scope.session
  return scope.store.readMany (← request.count) client

theorem dispatch_of_listing_ok {scope : Scope} {client : ClientId}
    {request : Request} {files : List (String × Bytes)}
    (many : request.operation = .readNFiles)
    (lists : scope.listing client request = .ok files) :
    (scope.dispatch client request).1.responses =
        files.map found ++ [{ status := .success }] ∧
      ∃ count, files = scope.store.readMany count client := by
  unfold listing at lists
  cases checked : request.check scope.session with
  | error error =>
      rw [checked] at lists
      cases lists
  | ok _ =>
      cases read : request.count with
      | error error =>
          rw [checked, read] at lists
          cases lists
      | ok count =>
          rw [checked, read] at lists
          obtain rfl := Except.ok.inj lists
          refine ⟨?_, count, rfl⟩
          simp only [dispatch, checked, handle, many, readNFiles, read]

theorem dispatch_of_listing_error {scope : Scope} {client : ClientId}
    {request : Request} {error : Error}
    (many : request.operation = .readNFiles)
    (fails : scope.listing client request = .error error) :
    (scope.dispatch client request).1 = .ofError error request.path ∧
      error.status.isRefusal = true := by
  unfold listing at fails
  cases checked : request.check scope.session with
  | error refusal =>
      rw [checked] at fails
      obtain rfl := Except.error.inj fails
      simp only [dispatch, checked]
      exact ⟨trivial, refusal_of_check checked⟩
  | ok _ =>
      cases read : request.count with
      | error refusal =>
          rw [checked, read] at fails
          obtain rfl := Except.error.inj fails
          simp only [dispatch, checked, handle, many, readNFiles, read]
          exact ⟨trivial, refusal_of_count read⟩
      | ok count =>
          rw [checked, read] at fails
          cases fails

/-- The request for so many files is met in an open session, and nowhere
else. -/
theorem listing_readNFiles (scope : Scope) (client : ClientId)
    (count : Int64) :
    scope.listing client (.readNFiles count.toInt) =
      if scope.session.isActive then
        .ok (scope.store.readMany count.toInt client)
      else
        .error .notConnected := by
  have checked : (Request.readNFiles count.toInt).check scope.session =
      if scope.session.isActive then .ok () else .error .notConnected := by
    cases active : scope.session.isActive <;>
      simp [Request.check, Request.readNFiles, OpCode.targetsFile, active]
  rw [listing, checked, Request.count_readNFiles]
  split <;> rfl

end Scope

section Ends

variable {scope : Scope} (client : ClientId) {request : Request}
  (deliverable : scope.store.AllDeliverable)
  (short : (Bytes.ofText request.path).length ≤ maxPathLength)

include deliverable short

/-- What is reported fits its frames. -/
theorem Scope.Reported.fits {reply : Reply} {expelled : List EvictedFile}
    {final : Response}
    (reported : Reported scope request reply expelled final) :
    final.Fits := by
  constructor
  · rcases reported.path with same | ⟨-, pathless⟩
    · exact same ▸ short
    · rw [pathless]
      decide
  · rcases reported.body with empty | ⟨file, found, same⟩
    · rw [empty]
      decide
    · rw [same]
      exact (deliverable _ file found).content_lt

/-- The client reads a reply to its last byte, and finds in it what was
expelled and how the request ended. -/
theorem Reply.read_dispatch (consistent : scope.store.Consistent)
    (single : request.operation ≠ .readNFiles) (rest : Bytes) :
    ∃ final,
      (scope.dispatch client request).1.responses.getLast? = some final ∧
      (request.operation.targetsFile = true → final.path = request.path) ∧
      Reply.read [] (.ofBytes
          ((scope.dispatch client request).1.responses.flatMap
            Response.frame ++ rest)) =
        (.ok (scope.expelledBy client request, final), .ofBytes rest) := by
  obtain ⟨final, reported, ends⟩ :=
    Scope.reports_dispatch client scope single
  refine ⟨final, ?_, ?_, ?_⟩
  · rw [reported.responses, List.getLast?_concat]
  · intro targets
    rcases reported.path with same | ⟨untargeted, -⟩
    · exact same
    · rw [targets] at untargeted
      cases untargeted
  · have fit : ∀ file ∈ scope.expelledBy client request,
        (Reply.expelled file).Fits := by
      intro file among
      obtain ⟨stored, found, content⟩ :=
        (scope.expelledBy_in_order consistent client request).2 file among
      have carried := deliverable _ stored found
      rw [content] at carried
      exact carried.fits .filesExpelled
    rw [reported.responses]
    exact Reply.read_responses fit (reported.fits deliverable short) ends []
      rest

theorem Awaiting.read_dispatch (many : request.operation = .readNFiles)
    (rest : Bytes) :
    (Awaiting.moreFiles []).read (.ofBytes
        ((scope.dispatch client request).1.responses.flatMap
          Response.frame ++ rest)) =
      ((match scope.listing client request with
        | .ok files => .ok (.files files)
        | .error error => .error (.refused error.status request.path)),
        .ofBytes rest) := by
  cases lists : scope.listing client request with
  | ok files =>
      obtain ⟨responses, count, rfl⟩ :=
        Scope.dispatch_of_listing_ok many lists
      have stored : ∀ file ∈ scope.store.readMany count client,
          Deliverable file.1 file.2 := by
        intro file listed
        obtain ⟨kept, found, content⟩ := Store.content_of_readMany listed
        exact content ▸ deliverable _ kept found
      have leads := Awaiting.leadsTo_files
        (fun file listed => (stored file listed).named) []
      have fit : ∀ response ∈
          (scope.store.readMany count client).map Scope.found,
          response.Fits := by
        intro response listed
        obtain ⟨file, among, rfl⟩ := List.mem_map.mp listed
        exact (stored file among).fits .success
      have last : Response.Fits { status := .success } :=
        .of_status .success (by decide)
      rw [responses, List.flatMap_append, List.append_assoc,
        leads.read fit, List.flatMap_singleton,
        Awaiting.read_of_ok (Response.decode_frame last rest)]
      rfl
  | error error =>
      obtain ⟨answered, refusal⟩ := Scope.dispatch_of_listing_error many lists
      have fits : (Response.ofError error request.path).Fits :=
        .of_status error.status short
      have unmet : (Response.ofError error request.path).status.isSuccess =
          false := by
        change error.status.isSuccess = false
        cases status : error.status with
        | success =>
            rw [status] at refusal
            cases refusal
        | _ => rfl
      rw [answered]
      change (Awaiting.moreFiles []).read (.ofBytes
        ([Response.ofError error request.path].flatMap Response.frame ++
          rest)) = _
      rw [List.flatMap_singleton,
        Awaiting.read_of_ok (Response.decode_frame fits rest),
        Awaiting.receive, unmet]
      rfl

end Ends

/-- In every reachable state, the client's loop for a request reads all that
the server has written for it, and nothing behind it.  A reply that is no list
of files gives the expelled files, oldest first and with their content, and
the last response; the request for many files gives what the store reads, or
the refusal of the server. -/
theorem Floor.clients_find_ends_of_replies (limits : Limits)
    (moves : List Move) (client : ClientId) (session : Session)
    {request : Request}
    (short : (Bytes.ofText request.path).length ≤ maxPathLength)
    (rest : Bytes) :
    let hub := ((new limits).run moves).hub
    let scope : Scope :=
      { session, store := hub.store, registry := hub.registry }
    let responses := (scope.dispatch client request).1.responses
    let expelled := scope.expelledBy client request
    ∃ written, (Response.encodeAll responses).Writes written ∧
      (request.operation ≠ .readNFiles → ∃ final,
        Reply.read [] (.ofBytes (written ++ rest)) =
          (.ok (expelled, final), .ofBytes rest) ∧
        responses.getLast? = some final ∧
        (request.operation.targetsFile = true →
          final.path = request.path) ∧
        ∀ call : Call, call.request? = some request →
          call.start.read (.ofBytes (written ++ rest)) =
            (call.conclude expelled final).resume (.ofBytes rest)) ∧
      ((expelled.map EvictedFile.path).Sublist hub.store.order ∧
        ∀ evicted ∈ expelled, ∃ file,
          hub.store.file? evicted.path = some file ∧
            file.content = evicted.content) ∧
      (request.operation = .readNFiles →
        (Awaiting.moreFiles []).read (.ofBytes (written ++ rest)) =
          ((match scope.listing client request with
            | .ok files => .ok (.files files)
            | .error error => .error (.refused error.status request.path)),
            .ofBytes rest)) ∧
      ∀ count : Int64, request = .readNFiles count.toInt →
        (Call.readMany count.toInt).start.read (.ofBytes (written ++ rest)) =
          (if session.isActive then
              .ok (.files (hub.store.readMany count.toInt client))
            else
              .error (.refused Error.notConnected.status ""),
            .ofBytes rest) := by
  intro hub scope responses expelled
  have deliverable : scope.store.AllDeliverable :=
    allDeliverable_run limits moves
  have consistent : scope.store.Consistent :=
    (attended_run limits moves).sound.consistent
  refine ⟨responses.flatMap Response.frame, Response.writes_encodeAll _,
    ?_, scope.expelledBy_in_order consistent client request,
    fun many => Awaiting.read_dispatch client deliverable short many rest, ?_⟩
  · intro single
    obtain ⟨final, last, targeted, reads⟩ :=
      Reply.read_dispatch client deliverable short consistent single rest
    refine ⟨final, reads, last, targeted, ?_⟩
    intro call asks
    have start : call.start = .reply call [] := by
      cases call with
      | readMany count =>
          cases asks
          exact absurd rfl single
      | waitForLock path => cases asks
      | _ => rfl
    rw [start, Reply.read_awaiting, reads]
  · rintro count rfl
    have reads :=
      Awaiting.read_dispatch client deliverable short rfl rest
    rw [scope.listing_readNFiles] at reads
    rw [Call.start, reads]
    cases session.isActive <;> rfl

/-- A client opens a session and writes a file. -/
def Floor.crowded : List Turn :=
  let sends (request : Request) : Turn := .serve 1 (.ofBytes request.frame)
  [.accept, sends { operation := .openConnection },
    sends (.openFile "a" { create := true, lock := true }),
    sends { operation := .writeFile, path := "a", body := [1, 2] }]

/-- Where there is room for one file only, creating another one expels it, and
its creator reads so, and leaves alone what follows. -/
theorem Floor.creator_reads_of_expelled_file :
    let request : Request := .openFile "b" { create := true }
    let hub := ((new { maxFiles := 1 }).run (crowded.flatMap Turn.moves)).hub
    let scope : Scope :=
      { session := .active ["a"], store := hub.store, registry := hub.registry }
    (Bytes.ofText request.path).length ≤ maxPathLength ∧
      ∃ written,
        (Response.encodeAll
          (scope.dispatch 1 request).1.responses).Writes written ∧
        Reply.read [] (.ofBytes (written ++ [9, 9])) =
          (.ok ([⟨"a", [1, 2]⟩], { status := .success, path := "b" }),
            .ofBytes [9, 9]) := by
  intro request hub scope
  have short : (Bytes.ofText request.path).length ≤ maxPathLength := by
    decide
  obtain ⟨written, writes, single, -⟩ := clients_find_ends_of_replies
    { maxFiles := 1 } (crowded.flatMap Turn.moves) 1 (.active ["a"]) short
    [9, 9]
  obtain ⟨final, reads, last, -⟩ := single (by decide)
  have expelled : scope.expelledBy 1 request = [⟨"a", [1, 2]⟩] := by
    decide +kernel
  have success : (scope.dispatch 1 request).1.responses.getLast? =
      some { status := .success, path := "b" } := by
    decide +kernel
  obtain rfl := Option.some.inj (last.symm.trans success)
  exact ⟨short, written, writes, expelled ▸ reads⟩

end FileDepot
