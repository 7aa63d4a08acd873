import FileDepot.Proofs.Wire.Envelopes

/-!
# Reading response frames

A response whose path and body fit their fields is read back from its frame,
and the reader stands behind it, whatever follows.
-/

namespace FileDepot

theorem Status.length_phrase (status : Status) :
    status.phrase.length = phraseWidth := by
  have short : ((Bytes.ofText status.message).take (phraseWidth - 1)).length ≤
      phraseWidth :=
    Nat.le_trans (List.length_take_le _ _) (Nat.sub_le _ _)
  rw [phrase, List.length_append, List.length_replicate]
  exact Nat.add_sub_cancel' short

namespace Response

/-- The path and the body of a response fit their fields. -/
structure Fits (response : Response) : Prop where
  path : (Bytes.ofText response.path).length ≤ maxPathLength
  body : response.body.length < Bytes.capacity 8

theorem frame_append (response : Response) (rest : Bytes) :
    response.frame ++ rest = Bytes.ofNat 4 response.status.code.toNat ++
      (response.status.phrase ++
        (Bytes.measured (Bytes.ofText response.path) ++
          (Bytes.measured response.body ++ rest))) := by
  simp [frame, fields, measuredField, Bytes.measured]

open Reading in
theorem decode_frame {response : Response} (fits : response.Fits)
    (rest : Bytes) :
    Response.decode (.ofBytes (response.frame ++ rest)) =
      .ok response (.ofBytes rest) := by
  have phrase := takes_exactly "phrase" response.status.phrase
  rw [Status.length_phrase] at phrase
  have path := path_of_measured fits.path (Bytes.measured response.body ++ rest)
  rw [pathOf, Bytes.text?_ofText] at path
  rw [frame_append, Response.decode, (takes_code "status" _).bind, phrase.bind,
    bind_of_ok path, Bytes.measured_append,
    (takes_length "body_len" fits.body).bind,
    (takes_announced "body" response.body).bind, Status.ofCode?_code]
  rfl

end Response

end FileDepot
