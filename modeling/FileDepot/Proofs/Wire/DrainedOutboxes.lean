import FileDepot.Outbox
import FileDepot.Proofs.Wire.FailingSinks
import FileDepot.Proofs.Wire.ResponseGrammar

/-!
# What comes out of an outbox

An outbox takes responses until it is closed.  Its writer takes them in the
order in which they came and stops at the first failure, in the middle of a
frame, at its end or at the flush behind it.  Whoever reads what was written
gets the first of the responses, whole and in order, and then the end of the
stream or a broken frame.
-/

namespace FileDepot

/-- What is done with the outbox of a client that is still connected. -/
inductive Posting
  | send (response : Response)
  /-- Responses pushed through one reservation, past refusals. -/
  | reserve (responses : List Response)
  | close
  deriving DecidableEq, Repr

namespace Posting

/-- The responses that are pushed. -/
def responses : Posting → List Response
  | send response => [response]
  | reserve responses => responses
  | close => []

/-- The responses that are pushed before the first close. -/
def beforeClose (postings : List Posting) : List Response :=
  (postings.takeWhile (· ≠ close)).flatMap responses

/-- The responses that are pushed behind the first close. -/
def behindClose (postings : List Posting) : List Response :=
  (postings.dropWhile (· ≠ close)).flatMap responses

section First

variable (postings : List Posting)

theorem beforeClose_close : beforeClose (close :: postings) = [] := by
  simp [beforeClose]

theorem behindClose_close :
    behindClose (close :: postings) = postings.flatMap responses := by
  simp [behindClose, responses]

variable {posting : Posting} (pushes : posting ≠ close)

include pushes

theorem beforeClose_cons :
    beforeClose (posting :: postings) =
      posting.responses ++ beforeClose postings := by
  simp [beforeClose, pushes]

theorem behindClose_cons :
    behindClose (posting :: postings) = behindClose postings := by
  simp [behindClose, pushes]

end First

end Posting

namespace Outbox

/-- Pushes responses one after the other, and gives each with its answer. -/
def offer : List Response → Outbox →
    List (Response × Except Error Unit) × Outbox
  | [], outbox => ([], outbox)
  | response :: rest, outbox =>
      let (answer, after) := outbox.push response
      let (answers, last) := offer rest after
      ((response, answer) :: answers, last)

/-- Does what is asked, one after the other, and gives each response that is
pushed with its answer. -/
def post : List Posting → Outbox → List (Response × Except Error Unit) × Outbox
  | [], outbox => ([], outbox)
  | .close :: later, outbox => post later outbox.close
  | posting :: later, outbox =>
      let (answers, after) := outbox.offer posting.responses
      let (others, last) := post later after
      (answers ++ others, last)

theorem post_cons {posting : Posting} (pushes : posting ≠ .close)
    (later : List Posting) (outbox : Outbox) :
    post (posting :: later) outbox =
      ((outbox.offer posting.responses).1 ++
          (post later (outbox.offer posting.responses).2).1,
        (post later (outbox.offer posting.responses).2).2) := by
  cases posting with
  | send response => rfl
  | reserve responses => rfl
  | close => exact absurd rfl pushes

theorem offer_open {outbox : Outbox} (isOpen : outbox.isClosed = false)
    (responses : List Response) :
    outbox.offer responses =
      (responses.map fun response => (response, .ok ()),
        { queue :=
            { items := outbox.queue.items ++ responses
              closed := false } }) := by
  rcases outbox with ⟨items, closed⟩
  cases isOpen
  induction responses generalizing items with
  | nil => simp [offer]
  | cons response rest ih =>
      simp only [offer, push, HandoffQueue.push, Bool.false_eq_true, if_false]
      rw [ih]
      simp

theorem offer_closed {outbox : Outbox} (isClosed : outbox.isClosed = true)
    (responses : List Response) :
    outbox.offer responses =
      (responses.map fun response => (response, .error .peerClosed),
        outbox) := by
  rcases outbox with ⟨items, closed⟩
  cases isClosed
  induction responses with
  | nil => rfl
  | cons response rest ih =>
      simp only [offer, push, HandoffQueue.push, if_true]
      rw [ih]
      rfl

theorem isClosed_close (outbox : Outbox) : outbox.close.isClosed = true :=
  rfl

theorem post_closed {outbox : Outbox} (isClosed : outbox.isClosed = true)
    (postings : List Posting) :
    outbox.post postings =
      ((postings.flatMap Posting.responses).map fun response =>
        (response, .error .peerClosed), outbox) := by
  induction postings with
  | nil => rfl
  | cons posting later ih =>
      by_cases closes : posting = .close
      · subst closes
        have same : outbox.close = outbox := by
          rcases outbox with ⟨items, closed⟩
          cases isClosed
          rfl
        rw [post, same, ih, List.flatMap_cons, Posting.responses,
          List.nil_append]
      · rw [post_cons closes, offer_closed isClosed, ih, List.flatMap_cons,
          List.map_append]

theorem post_open {outbox : Outbox} (isOpen : outbox.isClosed = false)
    (postings : List Posting) :
    outbox.post postings =
      ((Posting.beforeClose postings).map (fun response =>
          (response, .ok ())) ++
        (Posting.behindClose postings).map (fun response =>
          (response, .error .peerClosed)),
        { queue :=
            { items := outbox.queue.items ++ Posting.beforeClose postings
              closed := decide (.close ∈ postings) } }) := by
  induction postings generalizing outbox with
  | nil =>
      rcases outbox with ⟨items, closed⟩
      cases isOpen
      simp [post, Posting.beforeClose, Posting.behindClose]
  | cons posting later ih =>
      by_cases closes : posting = .close
      · subst closes
        rw [post, post_closed outbox.isClosed_close,
          Posting.beforeClose_close, Posting.behindClose_close]
        simp [close, HandoffQueue.close]
      · rw [post_cons closes, offer_open isOpen]
        dsimp only
        rw [ih rfl, Posting.beforeClose_cons later closes,
          Posting.behindClose_cons later closes]
        have elsewhere : .close ∈ posting :: later ↔ .close ∈ later := by
          simp [Ne.symm closes]
        simp [elsewhere]

/-- How a writer stopped that had something to write: it took whole responses
and a last one, of which it may have written a part. -/
structure Stopped (sink : Sink) (responses : List Response)
    (drained : Drained) (written : List Response) (last : Response)
    (part missing : Bytes) : Prop where
  took : responses = written ++ last :: drained.unwritten
  wrote : drained.sink.accepted =
    sink.accepted ++ (written.flatMap Response.frame ++ part)
  split : last.frame = part ++ missing
  /-- The last response is whole if no write failed. -/
  whole_iff : missing = [] ↔
    sink.Takes ((written ++ [last]).flatMap Response.frame)
  /-- The writer succeeds if it took all and no write and no flush failed. -/
  ok_iff : drained.result = .ok () ↔ drained.unwritten = [] ∧
    sink.Takes (responses.flatMap Response.frame) ∧
      sink.Flushes responses.length
  /-- The writer stops before the end at a failure only. -/
  took_all : sink.Takes (responses.flatMap Response.frame) →
    sink.Flushes responses.length → drained.unwritten = []

/-- A sink that has taken a response and been flushed behind it takes and
flushes as much as it would have with the response in front. -/
theorem Stopped.cons {sink : Sink} {response : Response}
    {rest written : List Response} {drained : Drained} {last : Response}
    {part missing : Bytes} (takes : sink.Takes response.frame)
    (flushes : sink.failingFlush ≠ some (sink.flushes + 1))
    (stopped : Stopped
      { sink with
        accepted := sink.accepted ++ response.frame
        flushes := sink.flushes + 1 }
      rest drained written last part missing) :
    Stopped sink (response :: rest) drained (response :: written) last part
      missing := by
  have room (bytes : Bytes) : sink.Takes (response.frame ++ bytes) ↔
      Sink.Takes
        { sink with
          accepted := sink.accepted ++ response.frame
          flushes := sink.flushes + 1 } bytes :=
    (sink.takes_append_iff response.frame bytes).trans
      (and_iff_right takes)
  have more : sink.Flushes (rest.length + 1) ↔
      Sink.Flushes
        { sink with
          accepted := sink.accepted ++ response.frame
          flushes := sink.flushes + 1 } rest.length :=
    (sink.flushes_succ_iff rest.length).trans (and_iff_right flushes)
  constructor
  · rw [stopped.took, List.cons_append]
  · rw [stopped.wrote, List.flatMap_cons, List.append_assoc,
      List.append_assoc]
  · exact stopped.split
  · rw [List.cons_append, List.flatMap_cons, room, stopped.whole_iff]
  · rw [List.flatMap_cons, room, List.length_cons, more, stopped.ok_iff]
  · rw [List.flatMap_cons, room, List.length_cons, more]
    exact stopped.took_all

theorem Stopped.of_stuck {sink after : Sink} {response : Response}
    {rest : List Response} {part missing : Bytes} (error : Error)
    (stuck : sink.Takes ((response :: rest).flatMap Response.frame) →
      ¬sink.Flushes (response :: rest).length)
    (wrote : after.accepted = sink.accepted ++ part)
    (split : response.frame = part ++ missing)
    (whole_iff : missing = [] ↔ sink.Takes response.frame) :
    Stopped sink (response :: rest) ⟨.error error, rest, after⟩ [] response
      part missing where
  took := rfl
  wrote := wrote
  split := split
  whole_iff := by
    rw [List.nil_append, List.flatMap_singleton]
    exact whole_iff
  ok_iff := by
    constructor
    · intro succeeds
      cases succeeds
    · rintro ⟨-, takes, flushes⟩
      exact absurd flushes (stuck takes)
  took_all takes flushes := absurd flushes (stuck takes)

/-- A writer that has something to write takes at least one response. -/
theorem stopped_writeOut {responses : List Response} (some : responses ≠ [])
    (sink : Sink) :
    ∃ written last part missing,
      Stopped sink responses (writeOut responses sink) written last part
        missing := by
  induction responses generalizing sink with
  | nil => exact absurd rfl some
  | cons response rest ih =>
      rw [writeOut]
      rcases response.encode_cases sink with
        ⟨takes, flushes, goes⟩ | ⟨takes, fails, goes⟩ |
        ⟨error, part, missing, refuses, split, missed, goes⟩
      · rw [goes]
        dsimp only
        by_cases none : rest = []
        · subst none
          refine ⟨[], response, response.frame, [], rfl, rfl, by simp, ?_, ?_,
            fun _ _ => rfl⟩
          · simp [takes]
          · have flushed := (sink.flushes_succ_iff 0).mpr
              ⟨flushes, fun _ _ => by omega⟩
            simp [writeOut, takes, flushed]
        · obtain ⟨written, last, part, missing, stopped⟩ := ih none _
          exact ⟨response :: written, last, part, missing,
            stopped.cons takes flushes⟩
      · rw [goes]
        refine ⟨[], response, response.frame, [], .of_stuck _ ?_ rfl
          (List.append_nil _).symm (iff_of_true rfl takes)⟩
        intro _ flushes
        exact ((sink.flushes_succ_iff rest.length).mp flushes).1 fails
      · rw [goes]
        refine ⟨[], response, part, missing, .of_stuck error ?_ rfl split
          (iff_of_false missed refuses)⟩
        intro all
        rw [List.flatMap_cons] at all
        exact absurd ((sink.takes_append_iff _ _).mp all).1 refuses

end Outbox

namespace Response

open Reading

theorem readings_values (responses : List Response) (rest : Bytes) :
    (readings responses rest).map (·.1) = responses.map .ok := by
  induction responses with
  | nil => rfl
  | cons response others ih => rw [readings, List.map_cons, ih, List.map_cons]

/-- Behind whole responses and a part of one more, a reader has got the first
of them, and knows that there is nothing more to get. -/
theorem values_of_part {written : List Response} {last : Response}
    {part missing : Bytes} (fit : ∀ response ∈ written, response.Fits)
    (fits : last.Fits) (split : last.frame = part ++ missing) :
    ∃ got error, got <+: written ++ [last] ∧
      (results Response.decode keepsStep
          (.ofBytes (written.flatMap frame ++ part))).map (·.1) =
        got.map .ok ++ [.error error] ∧
      (error = .peerClosed ∨ ∃ reason, error = .malformed reason) := by
  by_cases nothing : part = []
  · subst nothing
    refine ⟨written, .peerClosed, List.prefix_append _ _, ?_, Or.inl rfl⟩
    rw [results_responses fit, List.map_append, readings_values]
    rfl
  by_cases whole : missing = []
  · subst whole
    have all : ∀ response ∈ written ++ [last], response.Fits := by
      intro response among
      rcases List.mem_append.mp among with before | isLast
      · exact fit response before
      · rw [List.mem_singleton.mp isLast]
        exact fits
    have reads := results_responses all []
    rw [List.flatMap_append, List.flatMap_singleton, split, List.append_nil,
      List.append_nil] at reads
    refine ⟨written ++ [last], .peerClosed, List.prefix_rfl, ?_, Or.inl rfl⟩
    rw [reads, List.map_append, readings_values]
    rfl
  · have short := Nat.lt_of_le_of_lt fits.path maxPathLength_lt
    obtain ⟨reason, left, fails⟩ := decode_broken
      (broken_of_cut short fits.body split nothing whole)
    have stops : results Response.decode keepsStep (.ofBytes part) =
        [(.error (.malformed reason), left)] := by
      rw [results, series, fails]
      rfl
    refine ⟨written, .malformed reason, List.prefix_append _ _, ?_,
      Or.inr ⟨reason, rfl⟩⟩
    rw [results_responses fit, stops, List.map_append, readings_values]
    rfl

end Response

namespace Outbox

open Posting in
/-- An outbox takes exactly the responses that are pushed before it is closed,
and its writer takes them from the front.  The writer of an empty outbox does
nothing.  Any other writes whole responses and then a part of a last one, is
successful only if that was the last of all and nothing failed, and leaves the
rest.  Of what it wrote, the client reads a prefix of the responses and then
one error that ends the stream. -/
theorem clients_see_a_clean_prefix (postings : List Posting) (sink : Sink) :
    let taken := beforeClose postings
    let (answers, outbox) := Outbox.post postings {}
    answers = taken.map (fun response => (response, .ok ())) ++
        (behindClose postings).map (fun response =>
          (response, .error .peerClosed)) ∧
      outbox.queue.items = taken ∧
      (outbox.isClosed = true ↔ .close ∈ postings) ∧
      (.close ∈ postings → ∃ drained bytes,
        outbox.drain sink = some (drained,
          { queue := { items := drained.unwritten, closed := true } }) ∧
        drained.sink.accepted = sink.accepted ++ bytes ∧
        (taken = [] → drained = ⟨.ok (), [], sink⟩) ∧
        (taken ≠ [] → ∃ written last part missing,
          bytes = written.flatMap Response.frame ++ part ∧
            Stopped sink taken drained written last part missing) ∧
        ((∀ response ∈ taken, response.Fits) →
          ∃ got error, got <+: taken ∧
            (Reading.results Response.decode Response.keepsStep
                (.ofBytes bytes)).map (·.1) =
              got.map .ok ++ [.error error] ∧
            (error = .peerClosed ∨ ∃ reason, error = .malformed reason))) := by
  have posted := post_open (show ({} : Outbox).isClosed = false from rfl)
    postings
  rw [posted]
  dsimp only
  refine ⟨rfl, List.nil_append _, decide_eq_true_iff, ?_⟩
  intro closed
  simp only [drain, isClosed, closed, decide_true, if_true, List.nil_append]
  by_cases none : beforeClose postings = []
  · rw [none]
    refine ⟨_, [], rfl, (List.append_nil _).symm, fun _ => rfl,
      fun some => absurd rfl some, fun _ => ?_⟩
    exact ⟨[], .peerClosed, List.prefix_rfl, rfl, Or.inl rfl⟩
  · obtain ⟨written, last, part, missing, stopped⟩ :=
      stopped_writeOut none sink
    refine ⟨_, _, rfl, stopped.wrote, fun empty => absurd empty none,
      fun _ => ⟨written, last, part, missing, rfl, stopped⟩, ?_⟩
    intro fit
    have took : beforeClose postings = (written ++ [last]) ++ _ :=
      stopped.took.trans (List.append_cons _ _ _)
    have among : ∀ response ∈ written ++ [last],
        response ∈ beforeClose postings := by
      rw [took]
      exact fun response early => List.mem_append_left _ early
    obtain ⟨got, error, early, reads, ends⟩ := Response.values_of_part
      (fun response early =>
        fit response (among response (List.mem_append_left _ early)))
      (fit last (among last (by simp))) stopped.split
    refine ⟨got, error, early.trans ?_, reads, ends⟩
    rw [took]
    exact List.prefix_append _ _

/-- A sink with room for one short response and the begin of another. -/
def narrow : Sink where
  capacity := some 100
  mouthful := some 7

/-- Responses on both sides of a close. -/
def interrupted : List Posting :=
  [.send { status := .success, path := "/a" },
    .reserve [{ status := .lockPending, path := "/b" },
      { status := .success, path := "/c" }],
    .close, .send { status := .success, path := "/d" }]

theorem second_of_three_is_cut :
    .close ∈ interrupted ∧ Posting.beforeClose interrupted ≠ [] ∧
    (∀ response ∈ Posting.beforeClose interrupted, response.Fits) ∧
    ∃ drained bytes,
      (post interrupted {}).2.drain narrow =
        some (drained, { queue :=
          { items := [{ status := .success, path := "/c" }]
            closed := true } }) ∧
      drained.sink.accepted = bytes ∧ bytes.length = 100 ∧
      drained.result ≠ .ok () ∧
      (∃ written last part missing,
        bytes = written.flatMap Response.frame ++ part ∧
          Stopped narrow (Posting.beforeClose interrupted) drained written last
            part missing) ∧
      ∃ got error, got <+: Posting.beforeClose interrupted ∧
        (Reading.results Response.decode Response.keepsStep
            (.ofBytes bytes)).map (·.1) = got.map .ok ++ [.error error] ∧
        (error = .peerClosed ∨ ∃ reason, error = .malformed reason) := by
  have closed : .close ∈ interrupted := by decide
  have some : Posting.beforeClose interrupted ≠ [] := by decide
  have fit : ∀ response ∈ Posting.beforeClose interrupted, response.Fits := by
    have taken : Posting.beforeClose interrupted =
        [{ status := .success, path := "/a" },
          { status := .lockPending, path := "/b" },
          { status := .success, path := "/c" }] := by
      decide
    rw [taken]
    simp only [List.forall_mem_cons, List.not_mem_nil, false_imp_iff,
      implies_true, and_true]
    exact ⟨⟨by decide, by decide⟩, ⟨by decide, by decide⟩,
      ⟨by decide, by decide⟩⟩
  obtain ⟨-, -, -, closes⟩ := clients_see_a_clean_prefix interrupted narrow
  obtain ⟨drained, bytes, writes, wrote, -, stops, reads⟩ := closes closed
  have drains : (post interrupted {}).2.drain narrow = .some (drained, _) :=
    writes
  obtain ⟨written, last, part, missing, splits, stopped⟩ := stops some
  have left : (((post interrupted {}).2.drain narrow).map fun left =>
      (left.1.unwritten, left.1.sink.accepted.length)) =
      .some ([{ status := .success, path := "/c" }], 100) := by
    decide +kernel
  rw [drains, Option.map_some, Option.some.injEq, Prod.mk.injEq] at left
  obtain ⟨unwritten, length⟩ := left
  have failed : drained.result ≠ .ok () := by
    intro succeeds
    have none := (stopped.ok_iff.mp succeeds).1
    rw [unwritten] at none
    cases none
  have same : drained.sink.accepted = bytes := wrote
  rw [unwritten] at drains
  rw [same] at length
  exact ⟨closed, some, fit, drained, bytes, drains, same, length, failed,
    ⟨written, last, part, missing, splits, stopped⟩, reads fit⟩

end Outbox

end FileDepot
