import FileDepot.Proofs.Wire.RequestGrammar

/-!
# Streams of frames

Everything that a client sends until it closes is, in exactly one way, a row
of whole frames and an end that is empty or broken.  However it is delivered,
the reader of requests takes it frame by frame.
-/

namespace FileDepot

/-- Whole frames, and what comes behind the last of them. -/
structure ByteStream where
  frames : List Envelope
  tail : Bytes
  ends : tail = [] ∨ Broken tail

namespace ByteStream

def bytes (stream : ByteStream) : Bytes :=
  stream.frames.flatMap Envelope.bytes ++ stream.tail

theorem exists_bytes_eq (bytes : Bytes) :
    ∃ stream : ByteStream, stream.bytes = bytes := by
  induction length : bytes.length using Nat.strongRecOn
    generalizing bytes with
  | ind total ih =>
      rcases frame_trichotomy bytes with
        rfl | ⟨envelope, rest, rfl⟩ | broken
      · exact ⟨⟨[], [], Or.inl rfl⟩, rfl⟩
      · have less : rest.length < total := by
          have some := List.length_pos_iff.mpr envelope.bytes_ne_nil
          rw [List.length_append] at length
          omega
        obtain ⟨⟨frames, tail, ends⟩, rfl⟩ := ih rest.length less rest rfl
        refine ⟨⟨envelope :: frames, tail, ends⟩, ?_⟩
        rw [bytes, List.flatMap_cons, List.append_assoc]
        rfl
      · exact ⟨⟨[], bytes, Or.inr broken⟩, rfl⟩

theorem length_frames_le (stream : ByteStream) :
    stream.frames.length ≤ stream.bytes.length := by
  have least (frames : List Envelope) :
      frames.length ≤ (frames.flatMap Envelope.bytes).length := by
    induction frames with
    | nil => exact Nat.le_refl 0
    | cons envelope frames ih =>
        have some := List.length_pos_iff.mpr envelope.bytes_ne_nil
        rw [List.flatMap_cons, List.length_append, List.length_cons]
        omega
  rw [bytes, List.length_append]
  exact Nat.le_add_right_of_le (least stream.frames)

theorem frame_ne_tail (stream : ByteStream) (envelope : Envelope)
    (rest : Bytes) : stream.tail ≠ envelope.bytes ++ rest := by
  rcases stream.ends with empty | broken
  · rw [empty]
    exact fun same =>
      envelope.bytes_ne_nil (List.append_eq_nil_iff.mp same.symm).1
  · exact (broken_iff.mp broken).2 envelope rest

/-- A byte string is a stream of frames in one way only. -/
theorem bytes_injective {first second : ByteStream}
    (same : first.bytes = second.bytes) : first = second := by
  obtain ⟨frames, tail, ends⟩ := first
  obtain ⟨others, otherTail, otherEnds⟩ := second
  change frames.flatMap Envelope.bytes ++ tail =
    others.flatMap Envelope.bytes ++ otherTail at same
  induction frames generalizing others with
  | nil =>
      cases others with
      | nil =>
          obtain rfl : tail = otherTail := same
          rfl
      | cons other others =>
          rw [List.flatMap_cons, List.append_assoc] at same
          exact absurd same (frame_ne_tail ⟨[], tail, ends⟩ other _)
  | cons envelope frames ih =>
      cases others with
      | nil =>
          rw [List.flatMap_cons, List.append_assoc] at same
          exact absurd same.symm
            (frame_ne_tail ⟨[], otherTail, otherEnds⟩ envelope _)
      | cons other others =>
          rw [List.flatMap_cons, List.flatMap_cons, List.append_assoc,
            List.append_assoc] at same
          obtain ⟨rfl, behind⟩ := Envelope.append_inj same
          have streams := ih others behind
          rw [ByteStream.mk.injEq] at streams ⊢
          exact ⟨congrArg (envelope :: ·) streams.1, streams.2⟩

end ByteStream

namespace Reading

variable {Value : Type} {read : Reading Value} {source left : Source}
  {bytes rest : Bytes}

/-- A reader that gets a value out of a byte string gets it however the bytes
arrive, and leaves the same to read. -/
theorem Plain.ok_of_delivers (plain : read.Plain)
    (delivers : source.Delivers bytes) {value : Value}
    (goes : read (.ofBytes bytes) = .ok value left)
    (leaves : left.Delivers rest) :
    ∃ behind, read source = .ok value behind ∧ behind.Delivers rest := by
  have same := plain.steady delivers (Source.delivers_ofBytes bytes)
  rw [goes] at same
  cases ends : read source <;> rw [ends] at same <;> cases same
  rename_i one other
  obtain rfl := leaves.bytes_eq.symm.trans other.bytes_eq
  exact ⟨_, rfl, one⟩

theorem Plain.error_of_delivers (plain : read.Plain)
    (delivers : source.Delivers bytes) {error : Error}
    (fails : read (.ofBytes bytes) = .error error left) :
    ∃ behind, read source = .error error behind ∧
      ∀ rest, left.Delivers rest → behind.Delivers rest := by
  have same := plain.steady delivers (Source.delivers_ofBytes bytes)
  rw [fails] at same
  cases ends : read source <;> rw [ends] at same <;> cases same
  rename_i one other
  refine ⟨_, rfl, ?_⟩
  intro rest leaves
  obtain rfl := leaves.bytes_eq.symm.trans other.bytes_eq
  exact one

end Reading

namespace Request

variable {source : Source} (limit : Nat)

/-- A whole frame is read to its end, however it arrives. -/
theorem decode_delivered {envelope : Envelope} {rest : Bytes}
    (delivers : source.Delivers (envelope.bytes ++ rest)) :
    ∃ behind, behind.Delivers rest ∧ Request.decode limit source =
      match envelope.request? limit with
      | .ok request => .ok request behind
      | .error error => .error error behind := by
  have reads := decode_envelope limit envelope rest
  have plain := Reading.plain_request limit
  cases asks : envelope.request? limit with
  | ok request =>
      rw [asks] at reads
      obtain ⟨behind, goes, leaves⟩ := plain.ok_of_delivers delivers reads
        (Source.delivers_ofBytes rest)
      exact ⟨behind, leaves, goes⟩
  | error error =>
      rw [asks] at reads
      obtain ⟨behind, fails, leaves⟩ := plain.error_of_delivers delivers reads
      exact ⟨behind, leaves rest (Source.delivers_ofBytes rest), fails⟩

theorem decode_delivered_nil (delivers : source.Delivers []) :
    ∃ behind, behind.Delivers [] ∧
      Request.decode limit source = .error .peerClosed behind := by
  obtain ⟨behind, fails, leaves⟩ :=
    (Reading.plain_request limit).error_of_delivers delivers (decode_nil limit)
  exact ⟨behind, leaves [] .ended, fails⟩

theorem decode_delivered_broken {bytes : Bytes} (broken : Broken bytes)
    (delivers : source.Delivers bytes) :
    ∃ reason behind,
      Request.decode limit source = .error (.malformed reason) behind := by
  obtain ⟨reason, left, fails⟩ := decode_broken limit broken
  obtain ⟨behind, alsoFails, -⟩ :=
    (Reading.plain_request limit).error_of_delivers delivers fails
  exact ⟨reason, behind, alsoFails⟩

end Request

end FileDepot
