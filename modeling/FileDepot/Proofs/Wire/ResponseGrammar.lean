import FileDepot.Proofs.Wire.RequestGrammar
import FileDepot.Proofs.Wire.ResponseFrames

/-!
# The grammar of responses

Without its phrase, a response is laid out like a request.  What the reader of
responses makes of a byte string says how the string begins, up to the phrase
that it skips, and responses come back as they were written, however many of
them are written in a row.
-/

namespace FileDepot

theorem Status.ofCode?_eq_none_iff {code : UInt32} :
    ofCode? code = none ↔ ∀ status : Status, status.code ≠ code := by
  constructor
  · rintro none status rfl
    rw [ofCode?_code] at none
    cases none
  · intro unknown
    cases found : ofCode? code with
    | none => rfl
    | some status => exact absurd (code_of_ofCode? found) (unknown status)

/-- A whole response frame, whatever its code may mean: an envelope with a
phrase behind its code. -/
structure PhrasedEnvelope extends Envelope where
  phrase : Bytes
  width : phrase.length = phraseWidth

namespace PhrasedEnvelope

/-- What stands behind the phrase. -/
def behind (envelope : PhrasedEnvelope) : Bytes :=
  Bytes.measured (Bytes.ofText envelope.path) ++ Bytes.measured envelope.body

/-- The bytes of a response frame. -/
def bytes (envelope : PhrasedEnvelope) : Bytes :=
  Bytes.ofNat 4 envelope.code.toNat ++ (envelope.phrase ++ envelope.behind)

/-- What a reader makes of a response frame. -/
def response? (envelope : PhrasedEnvelope) : Except Error Response :=
  match Status.ofCode? envelope.code with
  | some status => .ok { status, path := envelope.path, body := envelope.body }
  | none => .error (.unknownStatus envelope.code)

variable {envelope : PhrasedEnvelope}

theorem bytes_append (envelope : PhrasedEnvelope) (rest : Bytes) :
    envelope.bytes ++ rest = Bytes.ofNat 4 envelope.code.toNat ++
      (envelope.phrase ++ (envelope.behind ++ rest)) := by
  simp only [bytes, List.append_assoc]

theorem response?_eq_ok_iff {response : Response} :
    envelope.response? = .ok response ↔
      envelope.code = response.status.code ∧ envelope.path = response.path ∧
        envelope.body = response.body := by
  unfold response?
  constructor
  · intro tells
    split at tells
    · rename_i status found
      cases tells
      exact ⟨(Status.code_of_ofCode? found).symm, rfl, rfl⟩
    · cases tells
  · rintro ⟨code, path, body⟩
    rw [code, Status.ofCode?_code, path, body]

theorem response?_eq_unknownStatus_iff {code : UInt32} :
    envelope.response? = .error (.unknownStatus code) ↔
      envelope.code = code ∧ ∀ status : Status, status.code ≠ code := by
  rw [← Status.ofCode?_eq_none_iff]
  unfold response?
  constructor
  · intro refuses
    split at refuses
    · cases refuses
    · rename_i none
      cases refuses
      exact ⟨rfl, none⟩
  · rintro ⟨rfl, none⟩
    rw [none]

end PhrasedEnvelope

/-- Bytes that break off in a response frame, or hold none: they end before
the phrase does, or would be broken without it. -/
inductive BrokenResponse : Bytes → Prop
  | inHead {bytes : Bytes} (some : bytes ≠ [])
      (short : bytes.length < 4 + phraseWidth) : BrokenResponse bytes
  | behindPhrase (code : UInt32) {phrase rest : Bytes}
      (width : phrase.length = phraseWidth)
      (broken : Broken (Bytes.ofNat 4 code.toNat ++ rest)) :
      BrokenResponse (Bytes.ofNat 4 code.toNat ++ (phrase ++ rest))

/-- A byte string is empty, or starts with a whole response frame, or is
broken. -/
theorem response_trichotomy (bytes : Bytes) :
    bytes = [] ∨ (∃ (envelope : PhrasedEnvelope) (rest : Bytes),
      bytes = envelope.bytes ++ rest) ∨ BrokenResponse bytes := by
  by_cases none : bytes = []
  · exact Or.inl none
  right
  by_cases short : bytes.length < 4 + phraseWidth
  · exact Or.inr (.inHead none short)
  have long : 4 ≤ bytes.length := by omega
  obtain ⟨number, behindCode, small, rfl⟩ := Bytes.exists_ofNat_append long
  have code : (UInt32.ofNat number).toNat = number :=
    UInt32.toNat_ofNat_of_lt small
  have width : (behindCode.take phraseWidth).length = phraseWidth := by
    rw [List.length_append, Bytes.length_ofNat] at short
    exact List.length_take_of_le (by omega)
  rw [← code, ← List.take_append_drop phraseWidth behindCode]
  rcases frame_trichotomy (Bytes.ofNat 4 (UInt32.ofNat number).toNat ++
      behindCode.drop phraseWidth) with
    none | ⟨envelope, rest, whole⟩ | broken
  · have digits := Bytes.length_ofNat 4 (UInt32.ofNat number).toNat
    rw [(List.append_eq_nil_iff.mp none).1] at digits
    cases digits
  · rw [Envelope.bytes_append] at whole
    obtain ⟨codes, behindPhrase⟩ := List.append_inj whole (by simp)
    refine Or.inl ⟨⟨envelope, behindCode.take phraseWidth, width⟩, rest, ?_⟩
    rw [PhrasedEnvelope.bytes_append, PhrasedEnvelope.behind, codes,
      behindPhrase, List.append_assoc]
  · exact Or.inr (.behindPhrase _ width broken)

namespace Broken

/-- What is broken behind a whole code: the path, or else the body. -/
theorem behind_code {code : UInt32} {rest : Bytes}
    (broken : Broken (Bytes.ofNat 4 code.toNat ++ rest)) :
    BrokenPath rest ∨ ∃ (path : String) (body : Bytes),
      (Bytes.ofText path).length ≤ maxPathLength ∧ body.CutShort ∧
        rest = Bytes.measured (Bytes.ofText path) ++ body := by
  generalize whole : Bytes.ofNat 4 code.toNat ++ rest = bytes at broken
  cases broken with
  | inCode some short =>
      rw [← whole, List.length_append, Bytes.length_ofNat] at short
      omega
  | inPath other broken =>
      obtain ⟨-, rfl⟩ := List.append_inj whole (by simp)
      exact Or.inl broken
  | inBody other path path_le short =>
      obtain ⟨-, rfl⟩ := List.append_inj whole (by simp)
      exact Or.inr ⟨path, _, path_le, short, rfl⟩

end Broken

namespace Response

open Reading

/-- A whole response frame is read to its end, and no further. -/
theorem decode_envelope (envelope : PhrasedEnvelope) (rest : Bytes) :
    Response.decode (.ofBytes (envelope.bytes ++ rest)) =
      match envelope.response? with
      | .ok response => .ok response (.ofBytes rest)
      | .error error => .error error (.ofBytes rest) := by
  have phrase := takes_exactly "phrase" envelope.phrase
  rw [envelope.width] at phrase
  have path := path_of_measured envelope.path_le
    (Bytes.measured envelope.body ++ rest)
  rw [pathOf, Bytes.text?_ofText] at path
  rw [PhrasedEnvelope.bytes_append, Response.decode,
    (takes_code "status" envelope.code).bind, phrase.bind,
    PhrasedEnvelope.behind, List.append_assoc, bind_of_ok path,
    Bytes.measured_append, (takes_length "body_len" envelope.body_lt).bind,
    (takes_announced "body" envelope.body).bind, PhrasedEnvelope.response?]
  cases Status.ofCode? envelope.code <;> rfl

/-- A response frame that is broken is refused as such. -/
theorem decode_broken {bytes : Bytes} (broken : BrokenResponse bytes) :
    ∃ reason left,
      Response.decode (.ofBytes bytes) = .error (.malformed reason) left := by
  rw [Response.decode]
  cases broken with
  | inHead some short =>
      by_cases inCode : bytes.length < 4
      · exact ⟨_, _, bind_of_error (code_of_short "status" some inCode) _⟩
      · obtain ⟨number, rest, small, rfl⟩ :=
          Bytes.exists_ofNat_append (Nat.le_of_not_lt inCode)
        have code : (UInt32.ofNat number).toNat = number :=
          UInt32.toNat_ofNat_of_lt small
        rw [List.length_append, Bytes.length_ofNat] at short
        rw [← code, (takes_code "status" (UInt32.ofNat number)).bind]
        exact ⟨_, _, bind_of_error
          (exactly_of_short "phrase" (Nat.lt_of_add_lt_add_left short)) _⟩
  | @behindPhrase code phrase rest width broken =>
      have skipped := takes_exactly "phrase" phrase
      rw [width] at skipped
      rw [(takes_code "status" code).bind, skipped.bind]
      rcases broken.behind_code with
        broken | ⟨path, body, path_le, short, rfl⟩
      · obtain ⟨reason, left, fails⟩ := path_of_broken broken
        exact ⟨reason, left, bind_of_error fails _⟩
      · have read := path_of_measured path_le body
        rw [pathOf, Bytes.text?_ofText] at read
        rw [bind_of_ok read]
        cases short with
        | inLength short =>
            exact ⟨_, _, bind_of_error (length_of_short "body_len" short) _⟩
        | behindLength small short =>
            rw [(takes_length "body_len" small).bind]
            exact ⟨_, _, bind_of_error (announced_of_short "body" short) _⟩

section Ends

variable {bytes : Bytes} {left : Source}

theorem decode_eq_ok_iff {response : Response} :
    Response.decode (.ofBytes bytes) = .ok response left ↔
      ∃ (envelope : PhrasedEnvelope) (rest : Bytes),
        bytes = envelope.bytes ++ rest ∧ left = .ofBytes rest ∧
          envelope.response? = .ok response := by
  constructor
  · intro reads
    rcases response_trichotomy bytes with
      rfl | ⟨envelope, rest, rfl⟩ | broken
    · cases reads
    · rw [decode_envelope] at reads
      cases tells : envelope.response? with
      | ok told =>
          rw [tells] at reads
          obtain ⟨rfl, rfl⟩ := EStateM.Result.ok.inj reads
          exact ⟨envelope, rest, rfl, rfl, tells⟩
      | error error =>
          rw [tells] at reads
          cases reads
    · obtain ⟨reason, behind, fails⟩ := decode_broken broken
      rw [fails] at reads
      cases reads
  · rintro ⟨envelope, rest, rfl, rfl, tells⟩
    rw [decode_envelope, tells]

theorem decode_eq_unknownStatus_iff {code : UInt32} :
    Response.decode (.ofBytes bytes) = .error (.unknownStatus code) left ↔
      ∃ (envelope : PhrasedEnvelope) (rest : Bytes),
        bytes = envelope.bytes ++ rest ∧ left = .ofBytes rest ∧
          envelope.code = code ∧ ∀ status : Status, status.code ≠ code := by
  simp only [← PhrasedEnvelope.response?_eq_unknownStatus_iff]
  constructor
  · intro refuses
    rcases response_trichotomy bytes with
      rfl | ⟨envelope, rest, rfl⟩ | broken
    · cases refuses
    · rw [decode_envelope] at refuses
      cases tells : envelope.response? with
      | ok told =>
          rw [tells] at refuses
          cases refuses
      | error error =>
          rw [tells] at refuses
          obtain ⟨rfl, rfl⟩ := EStateM.Result.error.inj refuses
          exact ⟨envelope, rest, rfl, rfl, tells⟩
    · obtain ⟨reason, behind, fails⟩ := decode_broken broken
      rw [fails] at refuses
      cases refuses
  · rintro ⟨envelope, rest, rfl, rfl, tells⟩
    rw [decode_envelope, tells]

end Ends

/-- A response that is cut anywhere is broken, even one whose path is too long
to be read. -/
theorem broken_of_cut {response : Response} {bytes missing : Bytes}
    (path_lt : (Bytes.ofText response.path).length < Bytes.capacity 8)
    (body_lt : response.body.length < Bytes.capacity 8)
    (cut : response.frame = bytes ++ missing) (some : bytes ≠ [])
    (missed : missing ≠ []) : BrokenResponse bytes := by
  rcases response_trichotomy bytes with none | ⟨envelope, rest, rfl⟩ | broken
  · exact absurd none some
  · have same : response.frame ++ [] = envelope.bytes ++ (rest ++ missing) := by
      rw [List.append_nil, cut, List.append_assoc]
    rw [frame_append, PhrasedEnvelope.bytes_append] at same
    obtain ⟨-, behindCode⟩ := List.append_inj same (by simp)
    obtain ⟨-, behindPhrase⟩ := List.append_inj behindCode
      (response.status.length_phrase.trans envelope.width.symm)
    rw [PhrasedEnvelope.behind, List.append_assoc] at behindPhrase
    obtain ⟨-, behindPath⟩ :=
      Bytes.measured_append_inj path_lt envelope.path_lt behindPhrase
    obtain ⟨-, nothing⟩ :=
      Bytes.measured_append_inj body_lt envelope.body_lt behindPath
    exact absurd (List.append_eq_nil_iff.mp nothing.symm).2 missed
  · exact broken

end Response

/-- Two frames that differ in nothing but the field of the phrase. -/
structure SameButPhrase (first second : Bytes) : Prop where
  length : first.length = second.length
  code : first.take 4 = second.take 4
  behind : first.drop (4 + phraseWidth) = second.drop (4 + phraseWidth)

namespace PhrasedEnvelope

theorem take_bytes (envelope : PhrasedEnvelope) :
    envelope.bytes.take 4 = Bytes.ofNat 4 envelope.code.toNat :=
  List.take_left' (by simp)

theorem drop_bytes (envelope : PhrasedEnvelope) :
    envelope.bytes.drop (4 + phraseWidth) = envelope.behind := by
  rw [← List.drop_drop, bytes, List.drop_left' (by simp),
    List.drop_left' envelope.width]

theorem length_bytes (envelope : PhrasedEnvelope) :
    envelope.bytes.length = 4 + (phraseWidth + envelope.behind.length) := by
  rw [bytes, List.length_append, List.length_append, Bytes.length_ofNat,
    envelope.width]

theorem sameButPhrase_of_toEnvelope {first second : PhrasedEnvelope}
    (same : first.toEnvelope = second.toEnvelope) :
    SameButPhrase first.bytes second.bytes := by
  have behind : first.behind = second.behind := by
    rw [PhrasedEnvelope.behind, PhrasedEnvelope.behind, same]
  constructor
  · rw [length_bytes, length_bytes, behind]
  · rw [take_bytes, take_bytes, same]
  · rw [drop_bytes, drop_bytes, behind]

/-- Whatever stands in place of the phrase, the frame stays whole. -/
theorem exists_of_sameButPhrase (envelope : PhrasedEnvelope) {bytes : Bytes}
    (same : SameButPhrase bytes envelope.bytes) :
    ∃ other : PhrasedEnvelope, other.bytes = bytes ∧
      other.toEnvelope = envelope.toEnvelope := by
  have code := same.code
  have behind := same.behind
  rw [take_bytes] at code
  rw [drop_bytes, ← List.drop_drop] at behind
  have width : ((bytes.drop 4).take phraseWidth).length = phraseWidth := by
    rw [List.length_take, List.length_drop, same.length, length_bytes]
    omega
  refine ⟨⟨envelope.toEnvelope, _, width⟩, ?_, rfl⟩
  change Bytes.ofNat 4 envelope.code.toNat ++
    ((bytes.drop 4).take phraseWidth ++ envelope.behind) = bytes
  rw [← code, ← behind, List.take_append_drop, List.take_append_drop]

/-- The frame of a response that fits its fields. -/
def ofResponse (response : Response) (fits : response.Fits) :
    PhrasedEnvelope where
  code := response.status.code
  path := response.path
  body := response.body
  path_le := fits.path
  body_lt := fits.body
  phrase := response.status.phrase
  width := response.status.length_phrase

theorem bytes_ofResponse {response : Response} (fits : response.Fits) :
    (ofResponse response fits).bytes = response.frame := by
  rw [← List.append_nil response.frame, Response.frame_append,
    List.append_nil]
  rfl

end PhrasedEnvelope

namespace Response

open Reading Writing

theorem writes_encode (response : Response) :
    response.encode.Writes response.frame :=
  (writes_fields response.fields).flush

/-- A response is read exactly where the writer of responses may have put it,
but for the phrase. -/
theorem decode_eq_ok_iff_writes {bytes : Bytes} {response : Response}
    {left : Source} :
    Response.decode (.ofBytes bytes) = .ok response left ↔
      ∃ frame taken rest, response.encode.Writes frame ∧
        bytes = taken ++ rest ∧ left = .ofBytes rest ∧
        SameButPhrase taken frame ∧ response.Fits := by
  rw [decode_eq_ok_iff]
  constructor
  · rintro ⟨envelope, rest, rfl, rfl, tells⟩
    obtain ⟨code, path, body⟩ := PhrasedEnvelope.response?_eq_ok_iff.mp tells
    have fits : response.Fits :=
      ⟨path ▸ envelope.path_le, body ▸ envelope.body_lt⟩
    refine ⟨response.frame, envelope.bytes, rest, response.writes_encode, rfl,
      rfl, ?_, fits⟩
    rw [← PhrasedEnvelope.bytes_ofResponse fits]
    exact PhrasedEnvelope.sameButPhrase_of_toEnvelope
      (Envelope.eq_of_fields code path body)
  · rintro ⟨frame, taken, rest, writes, rfl, rfl, same, fits⟩
    obtain rfl := writes.unique response.writes_encode
    rw [← PhrasedEnvelope.bytes_ofResponse fits] at same
    obtain ⟨envelope, rfl, envelopes⟩ :=
      (PhrasedEnvelope.ofResponse response fits).exists_of_sameButPhrase same
    refine ⟨envelope, rest, rfl, rfl,
      PhrasedEnvelope.response?_eq_ok_iff.mpr ?_⟩
    rw [envelopes]
    exact ⟨rfl, rfl, rfl⟩

/-- Writes several responses one at a time, each with its flush. -/
def encodeEach : List Response → Writing Unit
  | [] => pure ()
  | response :: others => do
      response.encode
      encodeEach others

theorem writes_encodeEach (responses : List Response) :
    (encodeEach responses).Writes (responses.flatMap frame) := by
  intro sink healthy
  induction responses generalizing sink with
  | nil =>
      refine ⟨sink.flushes, ?_⟩
      rw [List.flatMap_nil, List.append_nil]
      rfl
  | cons response others ih =>
      obtain ⟨counted, first⟩ := response.writes_encode sink healthy
      obtain ⟨flushes, later⟩ := ih _
        (healthy.accept (sink.accepted ++ response.frame) counted)
      refine ⟨flushes, ?_⟩
      change EStateM.bind response.encode _ sink = _
      simp only [EStateM.bind, first, later, List.flatMap_cons,
        List.append_assoc]

/-- What is read of whole responses, one after the other, before these
bytes. -/
def readings : List Response → Bytes → List (Except Error Response × Source)
  | [], _ => []
  | response :: others, rest =>
      (.ok response, .ofBytes (others.flatMap frame ++ rest)) ::
        readings others rest

theorem results_responses {responses : List Response}
    (fit : ∀ response ∈ responses, response.Fits) (rest : Bytes) :
    results Response.decode keepsStep
        (.ofBytes (responses.flatMap frame ++ rest)) =
      readings responses rest ++
        results Response.decode keepsStep (.ofBytes rest) := by
  induction responses with
  | nil => rfl
  | cons response others ih =>
      obtain ⟨fits, othersFit⟩ := List.forall_mem_cons.mp fit
      rw [List.flatMap_cons, List.append_assoc,
        advances_response.results_of_ok (decode_frame fits _), ih othersFit,
        readings, List.cons_append]

/-- Written together or one at a time, responses are the same bytes, of which
the reader gets exactly them, each at the end of its own frame.  It gets a
response from nothing but the frame of that response, with any phrase; it
knows a status for unknown only behind a whole frame; and it takes every
response that is cut for broken. -/
theorem come_back_as_written {responses : List Response}
    (fit : ∀ response ∈ responses, response.Fits) (bytes : Bytes) :
    (∃ stream, (encodeAll responses).Writes stream ∧
      (encodeEach responses).Writes stream ∧
      results Response.decode keepsStep (.ofBytes stream) =
        readings responses [] ++ [(.error .peerClosed, .ofBytes [])]) ∧
    (∀ response left,
      Response.decode (.ofBytes bytes) = .ok response left ↔
        ∃ frame taken rest, response.encode.Writes frame ∧
          bytes = taken ++ rest ∧ left = .ofBytes rest ∧
          SameButPhrase taken frame ∧ response.Fits) ∧
    (∀ code left,
      Response.decode (.ofBytes bytes) = .error (.unknownStatus code) left ↔
        ∃ (envelope : PhrasedEnvelope) (rest : Bytes),
          bytes = envelope.bytes ++ rest ∧ left = .ofBytes rest ∧
          envelope.code = code ∧ ∀ status : Status, status.code ≠ code) ∧
    ∀ (response : Response) (missing : Bytes),
      (Bytes.ofText response.path).length < Bytes.capacity 8 →
      response.body.length < Bytes.capacity 8 →
      response.encode.Writes (bytes ++ missing) → bytes ≠ [] → missing ≠ [] →
        ∃ reason left, Response.decode (.ofBytes bytes) =
          .error (.malformed reason) left := by
  refine ⟨⟨responses.flatMap frame, writes_encodeAll responses,
      writes_encodeEach responses, ?_⟩,
    fun _ _ => decode_eq_ok_iff_writes,
    fun _ _ => decode_eq_unknownStatus_iff, ?_⟩
  · have reads := results_responses fit []
    rw [List.append_nil] at reads
    exact reads
  · intro response missing path_lt body_lt writes some missed
    have cut := response.writes_encode.unique writes
    exact decode_broken (broken_of_cut path_lt body_lt cut some missed)

def nested : Response where
  status := .lockPending
  path := "/b"

/-- A response whose body looks like a response. -/
def nesting : Response where
  status := .success
  path := "/a"
  body := nested.frame

/-- What looks like a response in a body is not taken for one, and a frame
without its last byte is broken. -/
theorem nested_responses_come_back :
    (∀ response ∈ [nesting, nested], response.Fits) ∧
    (∃ stream, (encodeAll [nesting, nested]).Writes stream ∧
      (encodeEach [nesting, nested]).Writes stream ∧
      results Response.decode keepsStep (.ofBytes stream) =
        [(.ok nesting, .ofBytes nested.frame), (.ok nested, .ofBytes []),
          (.error .peerClosed, .ofBytes [])]) ∧
    ∃ reason left,
      Response.decode (.ofBytes (nesting.frame.take 171)) =
        .error (.malformed reason) left := by
  have fit : ∀ response ∈ [nesting, nested], response.Fits := by
    simp only [List.forall_mem_cons, List.not_mem_nil, false_imp_iff,
      implies_true, and_true]
    exact ⟨⟨by decide, by decide⟩, ⟨by decide, by decide⟩⟩
  obtain ⟨streams, -, -, cuts⟩ :=
    come_back_as_written fit (nesting.frame.take 171)
  refine ⟨fit, streams, cuts nesting (nesting.frame.drop 171) (by decide)
    (by decide) ?_ (by decide) (by decide)⟩
  rw [List.take_append_drop]
  exact nesting.writes_encode

end Response

end FileDepot
