import FileDepot.Proofs.Clients.Calls
import FileDepot.Proofs.Wire.Progress
import FileDepot.Proofs.Wire.ResponseFrames

/-!
# Receiving replies

A client reads one response after the other and finds the end of a reply by
itself: at the first status that does not announce an expelled file, or at the
first file without a path.
-/

namespace FileDepot

/-- A call goes on where a response has left it. -/
def Progress.resume (progress : Progress) (source : Source) :
    Except Error CallAnswer × Source :=
  match progress with
  | .finished outcome => (outcome, source)
  | .waiting next => next.read source

namespace Awaiting

theorem readUntil_eq {first second : Nat} {source : Source}
    (enough : source.bytes.length < first)
    (alsoEnough : source.bytes.length < second) (awaiting : Awaiting) :
    awaiting.readUntil first source = awaiting.readUntil second source := by
  induction first generalizing second source awaiting with
  | zero => exact absurd enough (Nat.not_lt_zero _)
  | succ first ih =>
      obtain ⟨second, rfl⟩ : ∃ fewer, second = fewer + 1 :=
        ⟨second - 1, by omega⟩
      simp only [readUntil]
      cases goes : Response.decode source with
      | error error rest => rfl
      | ok response rest =>
          have less := Reading.advances_response.ok goes
          dsimp only
          cases awaiting.receive response with
          | finished outcome => rfl
          | waiting next =>
              exact ih (Nat.lt_of_lt_of_le less (Nat.le_of_lt_succ enough))
                (Nat.lt_of_lt_of_le less (Nat.le_of_lt_succ alsoEnough)) next

theorem read_of_error {source rest : Source} {error : Error}
    (fails : Response.decode source = .error error rest)
    (awaiting : Awaiting) : awaiting.read source = (.error error, rest) := by
  simp only [read, readUntil, fails]

theorem read_of_ok {source rest : Source} {response : Response}
    (goes : Response.decode source = .ok response rest)
    (awaiting : Awaiting) :
    awaiting.read source = (awaiting.receive response).resume rest := by
  have less := Reading.advances_response.ok goes
  simp only [read, readUntil, goes]
  cases awaiting.receive response with
  | finished outcome => rfl
  | waiting next => exact readUntil_eq less (Nat.lt_succ_self _) next

theorem LeadsTo.read {awaiting next : Awaiting} {responses : List Response}
    (leads : awaiting.LeadsTo responses next)
    (fit : ∀ response ∈ responses, response.Fits) (rest : Bytes) :
    awaiting.read (.ofBytes (responses.flatMap Response.frame ++ rest)) =
      next.read (.ofBytes rest) := by
  induction leads with
  | refl awaiting => rfl
  | more goesOn leads ih =>
      have reads := Response.decode_frame (fit _ List.mem_cons_self)
      rw [List.flatMap_cons, List.append_assoc, read_of_ok (reads _), goesOn]
      exact ih fun response among => fit _ (List.mem_cons_of_mem _ among)

end Awaiting

/-- Reads up to the final response of a reply, and gathers the files that were
expelled on the way. -/
def Reply.read (gathered : List EvictedFile) (source : Source) :
    Except Error (List EvictedFile × Response) × Source :=
  match reads : Response.decode source with
  | .error error rest => (.error error, rest)
  | .ok response rest =>
      if response.status = .filesExpelled then
        read (gathered ++ [⟨response.path, response.body⟩]) rest
      else
        (.ok (gathered, response), rest)
termination_by source.bytes.length
decreasing_by exact Reading.advances_response.ok reads

namespace Reply

theorem read_of_ok {source rest : Source} {response : Response}
    (goes : Response.decode source = .ok response rest)
    (gathered : List EvictedFile) :
    read gathered source =
      if response.status = .filesExpelled then
        read (gathered ++ [⟨response.path, response.body⟩]) rest
      else
        (.ok (gathered, response), rest) := by
  rw [read]
  split
  · rename_i fails
    rw [goes] at fails
    cases fails
  · rename_i reads
    rw [goes] at reads
    cases reads
    rfl

/-- A call that waits for a reply reads it to its end, and concludes from the
expelled files and the final response. -/
theorem read_awaiting (call : Call) (gathered : List EvictedFile)
    (source : Source) :
    (Awaiting.reply call gathered).read source =
      match read gathered source with
      | (.error error, rest) => (.error error, rest)
      | (.ok (expelled, final), rest) =>
          (call.conclude expelled final).resume rest := by
  fun_induction read gathered source with
  | case1 gathered source error rest fails =>
      rw [Awaiting.read_of_error fails]
  | case2 gathered source response rest reads expels ih =>
      rw [Awaiting.read_of_ok reads, Awaiting.receive, if_pos expels]
      exact ih
  | case3 gathered source response rest reads ends =>
      rw [Awaiting.read_of_ok reads, Awaiting.receive, if_neg ends]

/-- A reply is read to its last byte. -/
theorem read_responses {files : List EvictedFile} {final : Response}
    (fit : ∀ file ∈ files, (expelled file).Fits)
    (finalFits : final.Fits) (ends : final.status ≠ .filesExpelled)
    (gathered : List EvictedFile) (rest : Bytes) :
    read gathered (.ofBytes ((files.map expelled ++
        [final]).flatMap Response.frame ++ rest)) =
      (.ok (gathered ++ files, final), .ofBytes rest) := by
  induction files generalizing gathered with
  | nil =>
      rw [List.map_nil, List.nil_append, List.flatMap_singleton,
        read_of_ok (Response.decode_frame finalFits rest), if_neg ends,
        List.append_nil]
  | cons file others ih =>
      have reads := Response.decode_frame (fit file List.mem_cons_self)
      have expels : (expelled file).status = .filesExpelled := rfl
      rw [List.map_cons, List.cons_append, List.flatMap_cons,
        List.append_assoc, read_of_ok (reads _), if_pos expels]
      have later := ih
        (fun other among => fit other (List.mem_cons_of_mem _ among))
        (gathered ++ [file])
      rw [List.append_assoc] at later
      exact later

end Reply

end FileDepot
