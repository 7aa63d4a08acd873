import FileDepot.Proofs.Wire.Envelopes
import FileDepot.Proofs.Wire.HealthySinks
import FileDepot.Proofs.Wire.Progress

/-!
# The grammar of requests

What the reader of requests makes of a byte string says exactly how the string
begins, and requests are read just as they are written.
-/

namespace FileDepot

theorem OpCode.ofCode?_eq_none_iff {code : UInt32} :
    ofCode? code = none ↔ ∀ operation : OpCode, operation.code ≠ code := by
  constructor
  · rintro none operation rfl
    rw [ofCode?_code] at none
    cases none
  · intro unknown
    cases found : ofCode? code with
    | none => rfl
    | some operation => exact absurd (code_of_ofCode? found) (unknown operation)

theorem Source.ofBytes_inj {first second : Bytes}
    (same : ofBytes first = ofBytes second) : first = second := by
  have bytes := congrArg Source.bytes same
  rwa [(delivers_ofBytes first).bytes_eq, (delivers_ofBytes second).bytes_eq]
    at bytes

namespace Envelope

variable {limit : Nat} {envelope : Envelope}

theorem bytes_append (envelope : Envelope) (rest : Bytes) :
    envelope.bytes ++ rest = Bytes.ofNat 4 envelope.code.toNat ++
      (Bytes.measured (Bytes.ofText envelope.path) ++
        (Bytes.measured envelope.body ++ rest)) := by
  simp only [bytes, List.append_assoc]

theorem bytes_ne_nil (envelope : Envelope) : envelope.bytes ≠ [] := by
  have digits := Bytes.length_ofNat 4 envelope.code.toNat
  intro none
  obtain ⟨code, -⟩ := List.append_eq_nil_iff.mp none
  rw [code] at digits
  cases digits

theorem path_lt (envelope : Envelope) :
    (Bytes.ofText envelope.path).length < Bytes.capacity 8 :=
  Nat.lt_of_le_of_lt envelope.path_le maxPathLength_lt

theorem eq_of_fields {first second : Envelope}
    (code : first.code = second.code) (path : first.path = second.path)
    (body : first.body = second.body) : first = second := by
  cases first
  cases second
  simp only [Envelope.mk.injEq]
  exact ⟨code, path, body⟩

/-- A byte string begins with one whole frame at most. -/
theorem append_inj {first second : Envelope} {restFirst restSecond : Bytes}
    (same : first.bytes ++ restFirst = second.bytes ++ restSecond) :
    first = second ∧ restFirst = restSecond := by
  rw [bytes_append, bytes_append] at same
  obtain ⟨codes, behindCode⟩ := List.append_inj same (by simp)
  obtain ⟨paths, behindPath⟩ :=
    Bytes.measured_append_inj first.path_lt second.path_lt behindCode
  obtain ⟨bodies, rests⟩ :=
    Bytes.measured_append_inj first.body_lt second.body_lt behindPath
  have code := UInt32.toNat.inj
    (Bytes.ofNat_inj first.code.toNat_lt second.code.toNat_lt codes)
  have path : first.path = second.path := by
    have texts := congrArg Bytes.text? paths
    rwa [Bytes.text?_ofText, Bytes.text?_ofText, Option.some.injEq] at texts
  exact ⟨eq_of_fields code path bodies, rests⟩

/-- The frame of a request that is short enough. -/
def ofRequest (request : Request)
    (path_le : (Bytes.ofText request.path).length ≤ maxPathLength)
    (body_lt : request.body.length < Bytes.capacity 8) : Envelope where
  code := request.operation.code
  path := request.path
  body := request.body
  path_le := path_le
  body_lt := body_lt

theorem bytes_eq_frame {request : Request}
    (code : envelope.code = request.operation.code)
    (path : envelope.path = request.path)
    (body : envelope.body = request.body) :
    envelope.bytes = request.frame := by
  rw [← List.append_nil request.frame, Request.frame_append, bytes, code, path,
    body]
  simp only [Bytes.measured, List.append_assoc, List.append_nil]

theorem bytes_ofRequest {request : Request}
    (path_le : (Bytes.ofText request.path).length ≤ maxPathLength)
    (body_lt : request.body.length < Bytes.capacity 8) :
    (ofRequest request path_le body_lt).bytes = request.frame :=
  bytes_eq_frame rfl rfl rfl

theorem request?_eq_ok_iff {request : Request} :
    envelope.request? limit = .ok request ↔
      envelope.code = request.operation.code ∧ envelope.path = request.path ∧
        envelope.body = request.body ∧ request.body.length ≤ limit := by
  unfold request?
  constructor
  · intro asks
    split at asks
    · cases asks
    · rename_i short
      split at asks
      · rename_i operation found
        cases asks
        exact ⟨(OpCode.code_of_ofCode? found).symm, rfl, rfl,
          Nat.le_of_not_lt short⟩
      · cases asks
  · rintro ⟨code, path, body, short⟩
    rw [body, if_neg (Nat.not_lt_of_le short), code, OpCode.ofCode?_code, path]

theorem request?_eq_bodyTooLarge_iff {length : Nat} :
    envelope.request? limit = .error (.bodyTooLarge length) ↔
      envelope.body.length = length ∧ limit < length := by
  unfold request?
  constructor
  · intro refuses
    split at refuses
    · rename_i large
      cases refuses
      exact ⟨rfl, large⟩
    · split at refuses <;> cases refuses
  · rintro ⟨rfl, large⟩
    rw [if_pos large]

theorem request?_eq_unknownOpCode_iff {code : UInt32} :
    envelope.request? limit = .error (.unknownOpCode code) ↔
      envelope.body.length ≤ limit ∧ envelope.code = code ∧
        ∀ operation : OpCode, operation.code ≠ code := by
  rw [← OpCode.ofCode?_eq_none_iff]
  unfold request?
  constructor
  · intro refuses
    split at refuses
    · cases refuses
    · rename_i short
      split at refuses
      · cases refuses
      · rename_i none
        cases refuses
        exact ⟨Nat.le_of_not_lt short, rfl, none⟩
  · rintro ⟨short, rfl, none⟩
    rw [if_neg (Nat.not_lt_of_le short), none]

/-- A whole frame is a request, or its body is too long, or no operation has
its code. -/
theorem request?_cases (limit : Nat) (envelope : Envelope) :
    (∃ request, envelope.request? limit = .ok request) ∨
    (limit < envelope.body.length ∧ envelope.request? limit =
      .error (.bodyTooLarge envelope.body.length)) ∨
    (envelope.body.length ≤ limit ∧
      (∀ operation : OpCode, operation.code ≠ envelope.code) ∧
      envelope.request? limit = .error (.unknownOpCode envelope.code)) := by
  by_cases large : limit < envelope.body.length
  · exact Or.inr (Or.inl ⟨large,
      request?_eq_bodyTooLarge_iff.mpr ⟨rfl, large⟩⟩)
  · have small := Nat.le_of_not_lt large
    cases found : OpCode.ofCode? envelope.code with
    | none =>
        have unknown := OpCode.ofCode?_eq_none_iff.mp found
        exact Or.inr (Or.inr ⟨small, unknown,
          request?_eq_unknownOpCode_iff.mpr ⟨small, rfl, unknown⟩⟩)
    | some operation =>
        left
        rw [request?, if_neg large, found]
        exact ⟨_, rfl⟩

theorem keepsStep_of_request? {error : Error}
    (refuses : envelope.request? limit = .error error) :
    Request.keepsStep error = true := by
  rcases envelope.request?_cases limit with
    ⟨request, asks⟩ | ⟨-, large⟩ | ⟨-, -, unknown⟩
  · rw [asks] at refuses
    cases refuses
  · rw [large] at refuses
    cases refuses
    rfl
  · rw [unknown] at refuses
    cases refuses
    rfl

/-- What is read of whole frames, one after the other, before these bytes. -/
def readings (limit : Nat) :
    List Envelope → Bytes → List (Except Error Request × Source)
  | [], _ => []
  | envelope :: others, rest =>
      (envelope.request? limit, .ofBytes (others.flatMap bytes ++ rest)) ::
        readings limit others rest

end Envelope

namespace Request

variable {limit : Nat} {envelope : Envelope} {rest : Bytes} {left : Source}

theorem ok_of_envelope {request : Request}
    (reads : Request.decode limit (.ofBytes (envelope.bytes ++ rest)) =
      .ok request left) :
    envelope.request? limit = .ok request ∧ left = .ofBytes rest := by
  rw [decode_envelope] at reads
  cases asks : envelope.request? limit with
  | ok asked =>
      rw [asks] at reads
      obtain ⟨rfl, rfl⟩ := EStateM.Result.ok.inj reads
      exact ⟨rfl, rfl⟩
  | error error =>
      rw [asks] at reads
      cases reads

/-- An error behind a whole frame leaves the reader in step. -/
theorem error_of_envelope {error : Error}
    (fails : Request.decode limit (.ofBytes (envelope.bytes ++ rest)) =
      .error error left) :
    keepsStep error = true ∧ envelope.request? limit = .error error ∧
      left = .ofBytes rest := by
  rw [decode_envelope] at fails
  cases asks : envelope.request? limit with
  | ok asked =>
      rw [asks] at fails
      cases fails
  | error cause =>
      rw [asks] at fails
      obtain ⟨rfl, rfl⟩ := EStateM.Result.error.inj fails
      exact ⟨Envelope.keepsStep_of_request? asks, rfl, rfl⟩

end Request

theorem broken_iff {bytes : Bytes} :
    Broken bytes ↔ bytes ≠ [] ∧
      ∀ (envelope : Envelope) (rest : Bytes), bytes ≠ envelope.bytes ++ rest := by
  constructor
  · intro broken
    obtain ⟨reason, left, fails⟩ := Request.decode_broken 0 broken
    constructor
    · rintro rfl
      cases fails
    · rintro envelope rest rfl
      cases (Request.error_of_envelope fails).1
  · rintro ⟨some, unwhole⟩
    rcases frame_trichotomy bytes with none | ⟨envelope, rest, whole⟩ | broken
    · exact absurd none some
    · exact absurd whole (unwhole envelope rest)
    · exact broken

/-- A whole frame that is cut anywhere is broken. -/
theorem broken_of_cut {envelope : Envelope} {bytes missing : Bytes}
    (cut : envelope.bytes = bytes ++ missing) (some : bytes ≠ [])
    (missed : missing ≠ []) : Broken bytes := by
  refine broken_iff.mpr ⟨some, ?_⟩
  rintro shorter rest rfl
  have same : envelope.bytes ++ [] = shorter.bytes ++ (rest ++ missing) := by
    rw [List.append_nil, cut, List.append_assoc]
  obtain ⟨-, none⟩ := Envelope.append_inj same
  exact missed (List.append_eq_nil_iff.mp none.symm).2

namespace Request

open Reading

variable {limit : Nat} {bytes : Bytes}

theorem decode_nil (limit : Nat) :
    Request.decode limit (.ofBytes []) = .error .peerClosed [] :=
  rfl

theorem decode_eq_peerClosed_iff :
    (∃ left, Request.decode limit (.ofBytes bytes) = .error .peerClosed left) ↔
      bytes = [] := by
  constructor
  · rintro ⟨left, closed⟩
    rcases frame_trichotomy bytes with none | ⟨envelope, rest, rfl⟩ | broken
    · exact none
    · cases (error_of_envelope closed).1
    · obtain ⟨reason, behind, fails⟩ := decode_broken limit broken
      rw [fails] at closed
      cases closed
  · rintro rfl
    exact ⟨[], decode_nil limit⟩

theorem decode_eq_ok_iff {request : Request} {rest : Bytes} :
    Request.decode limit (.ofBytes bytes) = .ok request (.ofBytes rest) ↔
      ∃ envelope : Envelope, bytes = envelope.bytes ++ rest ∧
        envelope.request? limit = .ok request := by
  constructor
  · intro reads
    rcases frame_trichotomy bytes with rfl | ⟨envelope, behind, rfl⟩ | broken
    · cases reads
    · obtain ⟨asks, same⟩ := ok_of_envelope reads
      exact ⟨envelope, by rw [Source.ofBytes_inj same], asks⟩
    · obtain ⟨reason, left, fails⟩ := decode_broken limit broken
      rw [fails] at reads
      cases reads
  · rintro ⟨envelope, rfl, asks⟩
    rw [decode_envelope, asks]

theorem decode_eq_error_iff {error : Error} {rest : Bytes}
    (kept : keepsStep error = true) :
    Request.decode limit (.ofBytes bytes) = .error error (.ofBytes rest) ↔
      ∃ envelope : Envelope, bytes = envelope.bytes ++ rest ∧
        envelope.request? limit = .error error := by
  constructor
  · intro refuses
    rcases frame_trichotomy bytes with rfl | ⟨envelope, behind, rfl⟩ | broken
    · rw [decode_nil] at refuses
      obtain ⟨rfl, -⟩ := EStateM.Result.error.inj refuses
      cases kept
    · obtain ⟨-, asks, same⟩ := error_of_envelope refuses
      exact ⟨envelope, by rw [Source.ofBytes_inj same], asks⟩
    · obtain ⟨reason, left, fails⟩ := decode_broken limit broken
      rw [fails] at refuses
      obtain ⟨rfl, -⟩ := EStateM.Result.error.inj refuses
      cases kept
  · rintro ⟨envelope, rfl, asks⟩
    rw [decode_envelope, asks]

theorem decode_eq_malformed_iff :
    (∃ reason left, Request.decode limit (.ofBytes bytes) =
      .error (.malformed reason) left) ↔ Broken bytes := by
  constructor
  · rintro ⟨reason, left, fails⟩
    rcases frame_trichotomy bytes with rfl | ⟨envelope, rest, rfl⟩ | broken
    · cases fails
    · cases (error_of_envelope fails).1
    · exact broken
  · exact decode_broken limit

theorem decode_eq_bodyTooLarge_iff {length : Nat} {rest : Bytes} :
    Request.decode limit (.ofBytes bytes) =
        .error (.bodyTooLarge length) (.ofBytes rest) ↔
      ∃ envelope : Envelope, bytes = envelope.bytes ++ rest ∧
        envelope.body.length = length ∧ limit < length := by
  have kept : keepsStep (.bodyTooLarge length) = true := rfl
  simp only [decode_eq_error_iff kept, Envelope.request?_eq_bodyTooLarge_iff]

theorem decode_eq_unknownOpCode_iff {code : UInt32} {rest : Bytes} :
    Request.decode limit (.ofBytes bytes) =
        .error (.unknownOpCode code) (.ofBytes rest) ↔
      ∃ envelope : Envelope, bytes = envelope.bytes ++ rest ∧
        envelope.body.length ≤ limit ∧ envelope.code = code ∧
        ∀ operation : OpCode, operation.code ≠ code := by
  have kept : keepsStep (.unknownOpCode code) = true := rfl
  simp only [decode_eq_error_iff kept, Envelope.request?_eq_unknownOpCode_iff]

/-- A request is read exactly where the writer of requests has put it. -/
theorem decode_eq_ok_iff_writes {limit : UInt64} {request : Request}
    {rest : Bytes} :
    Request.decode limit.toNat (.ofBytes bytes) =
        .ok request (.ofBytes rest) ↔
      ∃ frame, request.encode.Writes frame ∧ bytes = frame ++ rest ∧
        (Bytes.ofText request.path).length ≤ maxPathLength ∧
        request.body.length ≤ limit.toNat := by
  rw [decode_eq_ok_iff]
  constructor
  · rintro ⟨envelope, rfl, asks⟩
    obtain ⟨code, path, body, short⟩ := Envelope.request?_eq_ok_iff.mp asks
    refine ⟨request.frame, request.writes_encode, ?_, ?_, short⟩
    · rw [Envelope.bytes_eq_frame code path body]
    · exact path ▸ envelope.path_le
  · rintro ⟨frame, writes, rfl, path_le, short⟩
    obtain rfl := writes.unique request.writes_encode
    have body_lt : request.body.length < Bytes.capacity 8 :=
      Nat.lt_of_le_of_lt short limit.toNat_lt
    refine ⟨.ofRequest request path_le body_lt, ?_, ?_⟩
    · rw [Envelope.bytes_ofRequest]
    · exact Envelope.request?_eq_ok_iff.mpr ⟨rfl, rfl, rfl, short⟩

theorem results_envelope (limit : Nat) (envelope : Envelope) (rest : Bytes) :
    results (Request.decode limit) keepsStep
        (.ofBytes (envelope.bytes ++ rest)) =
      (envelope.request? limit, .ofBytes rest) ::
        results (Request.decode limit) keepsStep (.ofBytes rest) := by
  have reads := decode_envelope limit envelope rest
  cases asks : envelope.request? limit with
  | ok request =>
      rw [asks] at reads
      exact (advances_request limit).results_of_ok reads
  | error error =>
      rw [asks] at reads
      exact (advances_request limit).results_of_error reads
        (Envelope.keepsStep_of_request? asks)

theorem results_envelopes (limit : Nat) (envelopes : List Envelope)
    (rest : Bytes) :
    results (Request.decode limit) keepsStep
        (.ofBytes (envelopes.flatMap Envelope.bytes ++ rest)) =
      Envelope.readings limit envelopes rest ++
        results (Request.decode limit) keepsStep (.ofBytes rest) := by
  induction envelopes with
  | nil => rfl
  | cons envelope others ih =>
      rw [List.flatMap_cons, List.append_assoc, results_envelope, ih,
        Envelope.readings, List.cons_append]

/-- The reader of requests meets the end of the stream exactly where there are
no bytes, reads a request exactly behind what the writer of requests makes of
it, refuses a whole frame for its body or its code alone, and takes everything
else for broken.  Frames in a row are read one by one. -/
theorem read_exactly_as_written (limit : UInt64) (bytes : Bytes) :
    let decoded := Request.decode limit.toNat (.ofBytes bytes)
    ((∃ left, decoded = .error .peerClosed left) ↔ bytes = []) ∧
    (∀ request rest, decoded = .ok request (.ofBytes rest) ↔
      ∃ frame, request.encode.Writes frame ∧ bytes = frame ++ rest ∧
        (Bytes.ofText request.path).length ≤ maxPathLength ∧
        request.body.length ≤ limit.toNat) ∧
    (∀ length rest, decoded = .error (.bodyTooLarge length) (.ofBytes rest) ↔
      ∃ envelope : Envelope, bytes = envelope.bytes ++ rest ∧
        envelope.body.length = length ∧ limit.toNat < length) ∧
    (∀ code rest, decoded = .error (.unknownOpCode code) (.ofBytes rest) ↔
      ∃ envelope : Envelope, bytes = envelope.bytes ++ rest ∧
        envelope.body.length ≤ limit.toNat ∧ envelope.code = code ∧
        ∀ operation : OpCode, operation.code ≠ code) ∧
    ((∃ reason left, decoded = .error (.malformed reason) left) ↔
      bytes ≠ [] ∧ ∀ (envelope : Envelope) (rest : Bytes),
        bytes ≠ envelope.bytes ++ rest) ∧
    ((∃ reason left, decoded = .error (.malformed reason) left) ↔
      Broken bytes) ∧
    (∀ (envelope : Envelope) (missing : Bytes),
      envelope.bytes = bytes ++ missing → bytes ≠ [] → missing ≠ [] →
        ∃ reason left, decoded = .error (.malformed reason) left) ∧
    ∀ envelopes : List Envelope,
      results (Request.decode limit.toNat) keepsStep
          (.ofBytes (envelopes.flatMap Envelope.bytes ++ bytes)) =
        Envelope.readings limit.toNat envelopes bytes ++
          results (Request.decode limit.toNat) keepsStep (.ofBytes bytes) := by
  refine ⟨decode_eq_peerClosed_iff, fun _ _ => decode_eq_ok_iff_writes,
    fun _ _ => decode_eq_bodyTooLarge_iff,
    fun _ _ => decode_eq_unknownOpCode_iff,
    decode_eq_malformed_iff.trans broken_iff, decode_eq_malformed_iff, ?_,
    fun envelopes => results_envelopes limit.toNat envelopes bytes⟩
  intro envelope missing cut some missed
  exact decode_eq_malformed_iff.mpr (broken_of_cut cut some missed)

end Request

end FileDepot
