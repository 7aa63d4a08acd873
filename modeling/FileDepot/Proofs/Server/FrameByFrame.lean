import FileDepot.Proofs.Server.Expulsions
import FileDepot.Proofs.Server.Serving
import FileDepot.Proofs.Wire.ByteStreams

/-!
# Frame by frame

A connection that is served until it closes is served as if its frames came
one by one: every request is dispatched, every frame that cannot be a request
is refused, and nothing of one frame is taken for a part of another.
-/

namespace FileDepot

namespace Hub

/-- A worker has looked at a connection once and come to this reply, and to
this state of the session, the store and the registry. -/
structure Visit (hub : Hub) (connection : Connection) (reply : Reply)
    (scope : Scope) (stays : Bool) (kept : Connection) (after : Hub) :
    Prop where
  serves : hub.serveOne connection = (stays, kept, after)
  client : kept.client = connection.client
  session : kept.session = scope.session
  extended : Extends
    { hub with
      store := scope.store
      registry := scope.registry
      lockTrigger := hub.lockTrigger || reply.released }
    (fun other => onlyFor connection.client reply.responses other ++
      noticesTo { hub with registry := scope.registry } reply.orphans other)
    after

section Visits

variable {hub : Hub} {connection : Connection}
  (isOpen : hub.outboxClosed? connection.client = some false)

include isOpen

theorem visit_of_reply (reply : Reply) (scope : Scope) {behind : Source}
    (serves : hub.serveOne connection =
      ((deliverReply
          { hub with store := scope.store, registry := scope.registry }
          connection.client reply).1,
        { connection with session := scope.session, incoming := behind },
        (deliverReply
          { hub with store := scope.store, registry := scope.registry }
          connection.client reply).2)) :
    ∃ kept after, Visit hub connection reply scope (!reply.close) kept after ∧
      kept.incoming = behind := by
  have reachable : outboxClosed?
      { hub with store := scope.store, registry := scope.registry }
      connection.client = some false := isOpen
  have delivered := extends_deliverReply
    { hub with store := scope.store, registry := scope.registry }
    connection.client reply
  simp only [repliesTo, if_pos reachable] at delivered
  rw [deliverReply_stays reachable] at serves
  exact ⟨_, _, ⟨serves, rfl, rfl, delivered⟩, rfl⟩

theorem visit_of_request {request : Request} {behind : Source}
    (read : Request.decode (bodyLimit hub.store.limits.maxBytes)
      connection.incoming = .ok request behind) :
    ∃ kept after,
      Visit hub connection
        ((hub.scope connection).dispatch connection.client request).1
        ((hub.scope connection).dispatch connection.client request).2
        (!((hub.scope connection).dispatch connection.client request).1.close)
        kept after ∧
      kept.incoming = behind := by
  apply visit_of_reply isOpen
  simp only [serveOne, read]
  rfl

/-- A frame that is no request is refused, and nothing else happens. -/
theorem visit_of_refusal {error : Error} {behind : Source}
    (read : Request.decode (bodyLimit hub.store.limits.maxBytes)
      connection.incoming = .error error behind)
    (inStep : Request.keepsStep error = true) :
    ∃ kept after,
      Visit hub connection (.ofError error "") (hub.scope connection) true
        kept after ∧
      kept.incoming = behind := by
  refine visit_of_reply isOpen (.ofError error "") (hub.scope connection) ?_
  have notClosed : error ≠ .peerClosed := by
    rintro rfl
    cases inStep
  simp only [serveOne, read]
  cases error with
  | peerClosed => exact absurd rfl notClosed
  | _ =>
      simp only [serveRead, inStep, if_true]
      rfl

/-- What is no frame gets one response, and the connection ends. -/
theorem visit_of_broken {reason : String} {behind : Source}
    (read : Request.decode (bodyLimit hub.store.limits.maxBytes)
      connection.incoming = .error (.malformed reason) behind) :
    ∃ kept after,
      Visit hub connection (.ofStatus .badRequest "") (hub.scope connection)
        false kept after := by
  have pushed := (extends_push_open isOpen [{ status := .badRequest }]).2
  refine ⟨{ connection with incoming := behind },
    (hub.push connection.client [{ status := .badRequest }]).2, ?_, rfl, rfl,
    ?_⟩
  · simp only [serveOne, read]
    rfl
  · simp only [Reply.ofStatus, Bool.or_false, noticesTo_nil, List.append_nil]
    exact pushed

omit isOpen in
theorem visit_of_end {behind : Source}
    (read : Request.decode (bodyLimit hub.store.limits.maxBytes)
      connection.incoming = .error .peerClosed behind) :
    ∃ kept,
      Visit hub connection { responses := [] } (hub.scope connection) false
        kept hub ∧
      kept.incoming = behind := by
  refine ⟨{ connection with incoming := behind }, ⟨?_, rfl, rfl, ?_⟩, rfl⟩
  · simp only [serveOne, read]
    rfl
  · simp only [Bool.or_false, noticesTo_nil, List.append_nil]
    have silent : (fun other => onlyFor connection.client [] other) =
        fun _ => [] := by
      funext other
      exact ite_self []
    rw [silent]
    exact .refl hub

end Visits

/-- Serving a connection until it closes, one frame after the other: what is
given back after each of them, and the hub at the end.  After every frame that
the connection outlives, exactly the later frames are still to be read. -/
inductive FrameByFrame (limit : Nat) :
    Hub → Connection → List Envelope → Bytes → List Returned → Hub → Prop
  /-- A client that closes behind its last frame is told nothing. -/
  | ended {hub : Hub} {connection kept : Connection}
      (visit : Visit hub connection { responses := [] }
        (hub.scope connection) false kept hub)
      (unread : kept.incoming.Delivers []) :
      FrameByFrame limit hub connection [] [] [.closed connection.client]
        (hub.disconnect connection.client)
  /-- What no whole frame starts gets one response and ends the connection. -/
  | broken {hub after : Hub} {connection kept : Connection} {tail : Bytes}
      (broken : Broken tail)
      (visit : Visit hub connection (.ofStatus .badRequest "")
        (hub.scope connection) false kept after) :
      FrameByFrame limit hub connection [] tail [.closed connection.client]
        (after.disconnect connection.client)
  /-- A body above the limit is refused, whatever the code of its frame. -/
  | oversized {hub after final : Hub} {connection kept : Connection}
      {frame : Envelope} {frames : List Envelope} {tail : Bytes}
      {returned : List Returned} (large : limit < frame.body.length)
      (visit : Visit hub connection (.ofStatus .fileTooBig "")
        (hub.scope connection) true kept after)
      (unread : kept.incoming.Delivers
        (frames.flatMap Envelope.bytes ++ tail))
      (later : FrameByFrame limit after kept frames tail returned final) :
      FrameByFrame limit hub connection (frame :: frames) tail
        (.rearm kept :: returned) final
  /-- Any other frame is refused if no operation has its code. -/
  | unknown {hub after final : Hub} {connection kept : Connection}
      {frame : Envelope} {frames : List Envelope} {tail : Bytes}
      {returned : List Returned} (small : frame.body.length ≤ limit)
      (unknown : ∀ operation : OpCode, operation.code ≠ frame.code)
      (visit : Visit hub connection (.ofStatus .badRequest "")
        (hub.scope connection) true kept after)
      (unread : kept.incoming.Delivers
        (frames.flatMap Envelope.bytes ++ tail))
      (later : FrameByFrame limit after kept frames tail returned final) :
      FrameByFrame limit hub connection (frame :: frames) tail
        (.rearm kept :: returned) final
  /-- A request is dispatched. -/
  | served {hub after final : Hub} {connection kept : Connection}
      {frame : Envelope} {frames : List Envelope} {tail : Bytes}
      {returned : List Returned} {request : Request}
      (asks : frame.request? limit = .ok request)
      (goesOn : ¬(request.operation = .closeConnection ∧
        connection.session.isActive = true))
      (visit : Visit hub connection
        ((hub.scope connection).dispatch connection.client request).1
        ((hub.scope connection).dispatch connection.client request).2
        true kept after)
      (unread : kept.incoming.Delivers
        (frames.flatMap Envelope.bytes ++ tail))
      (later : FrameByFrame limit after kept frames tail returned final) :
      FrameByFrame limit hub connection (frame :: frames) tail
        (.rearm kept :: returned) final
  /-- The first request to close in an open session is the last one that is
  read. -/
  | closed {hub after : Hub} {connection kept : Connection}
      {frame : Envelope} {frames : List Envelope} {tail : Bytes}
      {request : Request} (asks : frame.request? limit = .ok request)
      (closing : request.operation = .closeConnection)
      (active : connection.session.isActive = true)
      (visit : Visit hub connection
        ((hub.scope connection).dispatch connection.client request).1
        ((hub.scope connection).dispatch connection.client request).2
        false kept after)
      (unread : kept.incoming.Delivers
        (frames.flatMap Envelope.bytes ++ tail)) :
      FrameByFrame limit hub connection (frame :: frames) tail
        [.closed connection.client] (after.disconnect connection.client)

namespace Visit

variable {hub after : Hub} {connection kept : Connection} {reply : Reply}
  {scope : Scope}

theorem workOn_of_stays
    (visit : Visit hub connection reply scope true kept after) (fuel : Nat) :
    hub.workOn (fuel + 1) connection =
      (.rearm kept :: (after.workOn fuel kept).1,
        (after.workOn fuel kept).2) := by
  simp only [workOn, work, visit.serves]

theorem workOn_of_ends
    (visit : Visit hub connection reply scope false kept after) (fuel : Nat) :
    hub.workOn (fuel + 1) connection =
      ([.closed connection.client],
        after.disconnect connection.client) := by
  simp only [workOn, work, visit.serves]

theorem isOpen {stays : Bool}
    (visit : Visit hub connection reply scope stays kept after)
    (isOpen : hub.outboxClosed? connection.client = some false) :
    after.outboxClosed? kept.client = some false := by
  rw [visit.client, visit.extended.outboxClosed?]
  exact isOpen

theorem limits {stays : Bool}
    (visit : Visit hub connection reply scope stays kept after)
    (same : scope.store.limits = hub.store.limits) :
    after.store.limits = hub.store.limits := by
  rw [visit.extended.store]
  exact same

end Visit

/-- As long as there are no more frames than rounds, a connection is served
frame by frame. -/
theorem frameByFrame_workOn {limit : Nat} {tail : Bytes}
    (ends : tail = [] ∨ Broken tail) (frames : List Envelope) {fuel : Nat}
    {hub : Hub} {connection : Connection} (enough : frames.length < fuel)
    (isOpen : hub.outboxClosed? connection.client = some false)
    (limited : bodyLimit hub.store.limits.maxBytes = limit)
    (delivers : connection.incoming.Delivers
      (frames.flatMap Envelope.bytes ++ tail)) :
    FrameByFrame limit hub connection frames tail
      (hub.workOn fuel connection).1 (hub.workOn fuel connection).2 := by
  induction frames generalizing fuel hub connection with
  | nil =>
      obtain ⟨fuel, rfl⟩ := Nat.exists_eq_add_of_lt enough
      rcases ends with rfl | broken
      · obtain ⟨behind, unread, fails⟩ :=
          Request.decode_delivered_nil limit delivers
        rw [← limited] at fails
        obtain ⟨kept, visit, rfl⟩ := visit_of_end fails
        rw [visit.workOn_of_ends]
        exact .ended visit unread
      · obtain ⟨reason, behind, fails⟩ :=
          Request.decode_delivered_broken limit broken delivers
        rw [← limited] at fails
        obtain ⟨kept, after, visit⟩ := visit_of_broken isOpen fails
        rw [visit.workOn_of_ends]
        exact .broken broken visit
  | cons frame frames ih =>
      obtain ⟨fuel, rfl⟩ : ∃ fewer, fuel = fewer + 1 := ⟨fuel - 1, by omega⟩
      have fewer : frames.length < fuel := Nat.lt_of_succ_lt_succ enough
      subst limited
      rw [List.flatMap_cons, List.append_assoc] at delivers
      obtain ⟨behind, unread, reads⟩ := Request.decode_delivered
        (bodyLimit hub.store.limits.maxBytes) delivers
      -- A visit that leaves the connection in use keeps what the induction
      -- needs: an open outbox, the same limits and the remaining frames.
      have goOn {reply : Reply} {scope : Scope} {kept : Connection}
          {after : Hub}
          (visit : Visit hub connection reply scope true kept after)
          (same : scope.store.limits = hub.store.limits)
          (left : kept.incoming.Delivers
            (frames.flatMap Envelope.bytes ++ tail)) :
          FrameByFrame (bodyLimit hub.store.limits.maxBytes) after kept
            frames tail (after.workOn fuel kept).1
            (after.workOn fuel kept).2 := by
        refine ih fewer (visit.isOpen isOpen) ?_ left
        rw [visit.limits same]
      rcases frame.request?_cases (bodyLimit hub.store.limits.maxBytes) with
        ⟨request, asks⟩ | ⟨large, refuses⟩ | ⟨small, unknown, refuses⟩
      · rw [asks] at reads
        obtain ⟨kept, after, visit, rfl⟩ := visit_of_request isOpen reads
        have closes := Scope.close_dispatch connection.client request
          (hub.scope connection)
        cases close : ((hub.scope connection).dispatch connection.client
          request).1.close with
        | true =>
            obtain ⟨closing, active⟩ := closes.mp close
            rw [close] at visit
            rw [visit.workOn_of_ends]
            exact .closed asks closing active visit unread
        | false =>
            rw [close] at visit
            rw [visit.workOn_of_stays]
            refine .served asks ?_ visit unread
              (goOn visit (Scope.limits_dispatch _ _ _) unread)
            intro closing
            rw [closes.mpr closing] at close
            cases close
      · rw [refuses] at reads
        obtain ⟨kept, after, visit, rfl⟩ := visit_of_refusal isOpen reads rfl
        rw [visit.workOn_of_stays]
        exact .oversized large visit unread (goOn visit rfl unread)
      · rw [refuses] at reads
        obtain ⟨kept, after, visit, rfl⟩ := visit_of_refusal isOpen reads rfl
        rw [visit.workOn_of_stays]
        exact .unknown small unknown visit unread (goOn visit rfl unread)

/-- Whatever bytes a client sends, and however they are delivered, they are
whole frames and an end in exactly one way, and its connection is served frame
by frame. -/
theorem connections_are_served_frame_by_frame {hub : Hub}
    {connection : Connection} {bytes : Bytes}
    (isOpen : hub.outboxClosed? connection.client = some false)
    (delivers : connection.incoming.Delivers bytes) :
    ∃ stream : ByteStream, stream.bytes = bytes ∧
      (∀ other : ByteStream, other.bytes = bytes → other = stream) ∧
      FrameByFrame (bodyLimit hub.store.limits.maxBytes) hub connection
        stream.frames stream.tail (hub.workThrough connection).1
        (hub.workThrough connection).2 := by
  obtain ⟨stream, rfl⟩ := ByteStream.exists_bytes_eq bytes
  refine ⟨stream, rfl, fun _ => ByteStream.bytes_injective, ?_⟩
  refine frameByFrame_workOn stream.ends stream.frames ?_ isOpen rfl delivers
  rw [delivers.bytes_eq]
  exact Nat.lt_succ_of_le stream.length_frames_le

/-- A session is opened, a code is unknown, a body is too long, and a request
to close follows. -/
def mixedFrames : List Envelope :=
  [{ code := OpCode.openConnection.code }, { code := 99, path := "f" },
    { code := OpCode.writeFile.code, body := List.replicate 9 0 },
    { code := OpCode.closeConnection.code }]

/-- The frames and the beginning of another one. -/
def mixedBytes : Bytes :=
  mixedFrames.flatMap Envelope.bytes ++ [7]

/-- They arrive cut inside the first code, with an interruption there. -/
def mixedConnection : Connection where
  client := 1
  incoming :=
    [.data (mixedBytes.take 3),
      .fault (.reported .interrupted "a signal came"),
      .data (mixedBytes.drop 3)]

/-- Every frame gets its answer, and the request to close is the last one that
is read. -/
theorem mixed_frames_are_served :
    let hub := (Hub.new { maxBytes := 8 }).openOutbox 1
    hub.outboxClosed? mixedConnection.client = some false ∧
      mixedConnection.incoming.Delivers mixedBytes ∧
      (∃ stream : ByteStream, stream.bytes = mixedBytes ∧
        FrameByFrame 8 hub mixedConnection stream.frames stream.tail
          (hub.workThrough mixedConnection).1
          (hub.workThrough mixedConnection).2) ∧
      (hub.workThrough mixedConnection).2.queued 1 =
        [{ status := .success }, { status := .badRequest },
          { status := .fileTooBig }, { status := .success }] := by
  intro hub
  have isOpen : hub.outboxClosed? mixedConnection.client = some false := by
    decide
  have delivers : mixedConnection.incoming.Delivers mixedBytes := by
    have pieces : mixedConnection.incoming.Delivers
        (mixedBytes.take 3 ++ (mixedBytes.drop 3 ++ [])) :=
      .piece (by decide) (.interrupted rfl (.piece (by decide) .ended))
    rwa [List.append_nil, List.take_append_drop] at pieces
  obtain ⟨stream, same, -, served⟩ :=
    connections_are_served_frame_by_frame isOpen delivers
  exact ⟨isOpen, delivers, ⟨stream, same, served⟩, by decide +kernel⟩

end Hub

end FileDepot
