import FileDepot.Proofs.Wire.RequestFrames

/-!
# Deliveries

The same bytes may arrive in any pieces, with any number of interruptions
between them.  Every reader that judges only what it gathered meets the same
end however they arrive, and leaves the same bytes to be read after it.
-/

namespace FileDepot

namespace Source

/-- The bytes arrive in pieces of at least one byte, and nothing but
interruptions comes between them. -/
inductive Delivers : Source → Bytes → Prop
  | ended : Delivers [] []
  | interrupted {cause : IoFault} {later : Source} {bytes : Bytes}
      (interrupts : cause.kind = .interrupted)
      (delivers : Delivers later bytes) :
      Delivers (.fault cause :: later) bytes
  | piece {piece bytes : Bytes} {later : Source} (some : piece ≠ [])
      (delivers : Delivers later bytes) :
      Delivers (.data piece :: later) (piece ++ bytes)

theorem delivers_ofBytes (bytes : Bytes) : (ofBytes bytes).Delivers bytes := by
  cases bytes with
  | nil => exact .ended
  | cons byte more =>
      have delivers : Delivers [.data (byte :: more)] ((byte :: more) ++ []) :=
        .piece (by simp) .ended
      rw [List.append_nil] at delivers
      exact delivers

namespace Delivers

variable {source : Source} {bytes : Bytes}

theorem bytes_eq (delivers : source.Delivers bytes) :
    source.bytes = bytes := by
  induction delivers with
  | ended => rfl
  | interrupted interrupts delivers ih => exact ih
  | piece some delivers ih => exact congrArg (_ ++ ·) ih

/-- Gathering takes as many bytes as are wanted, past every cut. -/
theorem gather (delivers : source.Delivers bytes) (wanted : Nat) :
    ∃ rest, Source.gather wanted source =
      (⟨bytes.take wanted,
        if wanted ≤ bytes.length then .full else .ended⟩, rest) ∧
      rest.Delivers (bytes.drop wanted) := by
  induction delivers generalizing wanted with
  | ended =>
      refine ⟨[], ?_, by simpa using Delivers.ended⟩
      cases wanted <;> simp [Source.gather]
  | interrupted interrupts delivers ih =>
      cases wanted with
      | zero => exact ⟨_, by simp [Source.gather], .interrupted interrupts delivers⟩
      | succ wanted =>
          obtain ⟨rest, gathers, left⟩ := ih (wanted + 1)
          refine ⟨rest, ?_, left⟩
          rw [Source.gather, if_pos interrupts, gathers]
  | @piece piece bytes later some delivers ih =>
      cases wanted with
      | zero => exact ⟨_, by simp [Source.gather], .piece some delivers⟩
      | succ wanted =>
          by_cases whole : piece.length ≤ wanted + 1
          · obtain ⟨rest, gathers, left⟩ := ih (wanted + 1 - piece.length)
            have enough : wanted + 1 - piece.length ≤ bytes.length ↔
                wanted + 1 ≤ (piece ++ bytes).length := by
              rw [List.length_append]
              omega
            refine ⟨rest, ?_, ?_⟩
            · rw [Source.gather, if_pos whole, gathers]
              simp only [enough, List.take_append,
                List.take_of_length_le whole]
            · rw [List.drop_append, List.drop_eq_nil_of_le whole,
                List.nil_append]
              exact left
          · have fewer : wanted + 1 ≤ piece.length := by omega
            have more : piece.drop (wanted + 1) ≠ [] := by
              simpa using whole
            have enough : wanted + 1 ≤ (piece ++ bytes).length := by
              rw [List.length_append]
              omega
            refine ⟨.data (piece.drop (wanted + 1)) :: later, ?_, ?_⟩
            · rw [Source.gather, if_neg whole, if_pos enough,
                List.take_append_of_le_length fewer]
            · rw [List.drop_append_of_le_length fewer]
              exact .piece more delivers

end Delivers

end Source

namespace Reading

variable {Value Other : Type}

/-- A reader that is put together from gatherings, and judges nothing but what
it gathered. -/
inductive Plain : {Value : Type} → Reading Value → Prop
  | returns {Value : Type} (value : Value) : Plain (pure value)
  | fails {Value : Type} (error : Error) : Plain (throw error : Reading Value)
  | gathers (wanted : Nat) : Plain (gather wanted)
  | chain {Value Other : Type} {read : Reading Value}
      {next : Value → Reading Other} (plain : Plain read)
      (later : ∀ value, Plain (next value)) : Plain (read >>= next)

theorem Plain.judged (wanted : Nat) (full : Gathered → Value)
    (ended : Gathered → Error) (failed : Gathered → IoFault → Error) :
    Plain (do
      let gathered ← gather wanted
      match gathered.ending with
      | .full => return full gathered
      | .ended => throw (ended gathered)
      | .failed cause => throw (failed gathered cause)) := by
  refine (Plain.gathers wanted).chain fun gathered => ?_
  cases gathered.ending with
  | full => exact .returns _
  | ended => exact .fails _
  | failed cause => exact .fails _

theorem plain_code (field : String) : (code field).Plain :=
  Plain.judged 4 _ _ _

theorem plain_exactly (field : String) (width : Nat) :
    (exactly field width).Plain :=
  Plain.judged width _ _ _

theorem plain_length (field : String) : (Reading.length field).Plain :=
  (plain_exactly field 8).chain fun _ => .returns _

theorem plain_announced (field : String) (length : Nat) :
    (announced field length).Plain :=
  Plain.judged length _ _ _

theorem Plain.checked {next : Reading Value} (plain : next.Plain)
    (refused : Prop) [Decidable refused] (error : Error) :
    Plain (do
      if refused then
        throw error
      next) := by
  by_cases refusal : refused
  · simp only [refusal, if_true]
    exact (Plain.fails error).chain fun _ => plain
  · simp only [refusal, if_false]
    exact plain

theorem plain_path : path.Plain := by
  refine (plain_length "path_len").chain fun length =>
    Plain.checked ((plain_announced "path" length).chain fun bytes => ?_) _ _
  cases Bytes.text? bytes with
  | none => exact .fails _
  | some path => exact .returns _

/-- What is read of a request behind its code. -/
def requestBehind (limit : Nat) (code : UInt32) : Reading Request := do
  let path ← path
  let length ← Reading.length "body_len"
  let body ← announced "body" length
  if limit < length then
    throw (.bodyTooLarge length)
  match OpCode.ofCode? code with
  | some operation => return { operation, path, body }
  | none => throw (.unknownOpCode code)

theorem request_decode_eq (limit : Nat) :
    Request.decode limit = code "op" >>= requestBehind limit :=
  rfl

/-- What is read of a response behind its status. -/
def responseBehind (code : UInt32) : Reading Response := do
  let _ ← exactly "phrase" phraseWidth
  let path ← path
  let length ← Reading.length "body_len"
  let body ← announced "body" length
  match Status.ofCode? code with
  | some status => return { status, path, body }
  | none => throw (.unknownStatus code)

theorem response_decode_eq :
    Response.decode = code "status" >>= responseBehind :=
  rfl

theorem plain_requestBehind (limit : Nat) (code : UInt32) :
    (requestBehind limit code).Plain := by
  refine plain_path.chain fun path =>
    (plain_length "body_len").chain fun length =>
      (plain_announced "body" length).chain fun body => Plain.checked ?_ _ _
  cases OpCode.ofCode? code with
  | none => exact .fails _
  | some operation => exact .returns _

theorem plain_responseBehind (code : UInt32) :
    (responseBehind code).Plain := by
  refine (plain_exactly "phrase" phraseWidth).chain fun _ =>
    plain_path.chain fun path =>
      (plain_length "body_len").chain fun length =>
        (plain_announced "body" length).chain fun body => ?_
  cases Status.ofCode? code with
  | none => exact .fails _
  | some status => exact .returns _

theorem plain_request (limit : Nat) : (Request.decode limit).Plain := by
  rw [request_decode_eq]
  exact (plain_code "op").chain (plain_requestBehind limit)

theorem plain_response : Response.decode.Plain := by
  rw [response_decode_eq]
  exact (plain_code "status").chain plain_responseBehind

/-- Two ends of reading that differ in nothing but the pieces in which the
rest will arrive. -/
inductive SameEnd : EStateM.Result Error Source Value →
    EStateM.Result Error Source Value → Prop
  | ok (value : Value) {first second : Source} {bytes : Bytes}
      (one : first.Delivers bytes) (other : second.Delivers bytes) :
      SameEnd (.ok value first) (.ok value second)
  | error (error : Error) {first second : Source} {bytes : Bytes}
      (one : first.Delivers bytes) (other : second.Delivers bytes) :
      SameEnd (.error error first) (.error error second)

/-- How the bytes arrive makes no difference to a reader. -/
def Steady (read : Reading Value) : Prop :=
  ∀ ⦃first second : Source⦄ ⦃bytes : Bytes⦄, first.Delivers bytes →
    second.Delivers bytes → SameEnd (read first) (read second)

theorem steady_gather (wanted : Nat) : (gather wanted).Steady := by
  intro first second bytes one other
  obtain ⟨restOne, gathersOne, leftOne⟩ := one.gather wanted
  obtain ⟨restOther, gathersOther, leftOther⟩ := other.gather wanted
  simp only [gather, gathersOne, gathersOther]
  exact .ok _ leftOne leftOther

theorem Steady.bind {read : Reading Value} {next : Value → Reading Other}
    (steady : read.Steady) (later : ∀ value, (next value).Steady) :
    (read >>= next).Steady := by
  intro first second bytes one other
  rcases ends : read first with ⟨value, left⟩ | ⟨error, left⟩
  all_goals
    have same := steady one other
    rw [ends] at same
    cases meets : read second <;> rw [meets] at same <;> cases same
  · rename_i leftOne leftOther
    rw [bind_of_ok ends, bind_of_ok meets]
    exact later value leftOne leftOther
  · rename_i leftOne leftOther
    rw [bind_of_error ends, bind_of_error meets]
    exact .error _ leftOne leftOther

theorem Plain.steady {read : Reading Value} (plain : read.Plain) :
    read.Steady := by
  induction plain with
  | returns value => exact fun _ _ _ one other => .ok value one other
  | fails error => exact fun _ _ _ one other => .error error one other
  | gathers wanted => exact steady_gather wanted
  | chain plain later steady steadyLater => exact steady.bind steadyLater

/-- The results of so many calls of a reader, each with the number of bytes
that have been read after it. -/
def account (read : Reading Value) (inStep : Error → Bool) (calls : Nat)
    (source : Source) : List (Except Error Value × Nat) :=
  (series read inStep calls source).map fun (result, left) =>
    (result, source.bytes.length - left.bytes.length)

/-- A steady reader gets the same results again and again, and leaves the same
bytes each time. -/
theorem Steady.series {read : Reading Value} (steady : read.Steady)
    (inStep : Error → Bool) (calls : Nat) {first second : Source}
    {bytes : Bytes} (one : first.Delivers bytes)
    (other : second.Delivers bytes) :
    (Reading.series read inStep calls first).map (Prod.map id Source.bytes) =
      (Reading.series read inStep calls second).map
        (Prod.map id Source.bytes) := by
  induction calls generalizing first second bytes with
  | zero => rfl
  | succ calls ih =>
      have same := steady one other
      simp only [Reading.series]
      cases ends : read first with
      | ok value left =>
          cases meets : read second <;> rw [ends, meets] at same <;> cases same
          rename_i leftOne leftOther
          simp [ih leftOne leftOther, leftOne.bytes_eq, leftOther.bytes_eq]
      | error error left =>
          cases meets : read second <;> rw [ends, meets] at same <;> cases same
          rename_i leftOne leftOther
          dsimp only
          split
          · simp [ih leftOne leftOther, leftOne.bytes_eq, leftOther.bytes_eq]
          · simp [leftOne.bytes_eq, leftOther.bytes_eq]

theorem Steady.account {read : Reading Value} (steady : read.Steady)
    (inStep : Error → Bool) (calls : Nat) {first second : Source}
    {bytes : Bytes} (one : first.Delivers bytes)
    (other : second.Delivers bytes) :
    Reading.account read inStep calls first =
      Reading.account read inStep calls second := by
  have same := congrArg
    (List.map fun (entry : Except Error Value × Bytes) =>
      (entry.1, bytes.length - entry.2.length))
    (steady.series inStep calls one other)
  simpa only [Reading.account, one.bytes_eq, other.bytes_eq, List.map_map,
    Function.comp_def, Prod.map_fst, Prod.map_snd, id_eq] using same

/-- However a byte string is cut on its way, and however often its readers are
interrupted, they get the same requests, or the same responses, and the same
errors in the same order, and have read as many bytes after each of them. -/
theorem cuts_and_interruptions_make_no_difference {source : Source}
    {bytes : Bytes} (delivers : source.Delivers bytes) (limit calls : Nat) :
    account (Request.decode limit) Request.keepsStep calls source =
        account (Request.decode limit) Request.keepsStep calls
          (.ofBytes bytes) ∧
      account Response.decode Response.keepsStep calls source =
        account Response.decode Response.keepsStep calls (.ofBytes bytes) :=
  ⟨(plain_request limit).steady.account Request.keepsStep calls delivers
      (Source.delivers_ofBytes bytes),
    plain_response.steady.account Response.keepsStep calls delivers
      (Source.delivers_ofBytes bytes)⟩

/-- A request that is cut in its code, before its path and inside it, with
interruptions in between. -/
def scattered : Source :=
  [.data [4, 0], .fault (.reported .interrupted "a signal came"),
    .data [0, 0, 2, 0, 0, 0, 0, 0, 0], .data [0, 47],
    .fault (.reported .interrupted "a signal came"),
    .fault (.reported .interrupted "another one came"),
    .data [97, 0, 0, 0, 0, 0, 0, 0, 0]]

def pendingReply : Response :=
  { status := .lockPending, path := "/a" }

/-- A response with interruptions in its phrase and in the length of its
path. -/
def scatteredReply : Source :=
  [.data (pendingReply.frame.take 9),
    .fault (.reported .interrupted "a signal came"),
    .data ((pendingReply.frame.drop 9).take 60),
    .fault (.reported .interrupted "another one came"),
    .data (pendingReply.frame.drop 69)]

/-- The scattered request and the scattered response are read as if they had
come in one piece. -/
theorem scattered_frames_are_read_whole :
    (scattered.Delivers
        (Request.frame { operation := .closeFile, path := "/a" }) ∧
      account (Request.decode 8) Request.keepsStep 2 scattered =
        [(.ok { operation := .closeFile, path := "/a" }, 22),
          (.error .peerClosed, 22)]) ∧
      scatteredReply.Delivers pendingReply.frame ∧
      account Response.decode Response.keepsStep 2 scatteredReply =
        [(.ok pendingReply, 86), (.error .peerClosed, 86)] := by
  have delivers : scattered.Delivers
      (Request.frame { operation := .closeFile, path := "/a" }) :=
    .piece (by simp) <| .interrupted rfl <| .piece (by simp) <|
      .piece (by simp) <| .interrupted rfl <| .interrupted rfl <|
        .piece (by simp) .ended
  have alsoDelivers : scatteredReply.Delivers pendingReply.frame :=
    .piece (by decide) <| .interrupted rfl <| .piece (by decide) <|
      .interrupted rfl <| .piece (by decide) .ended
  refine ⟨⟨delivers, ?_⟩, alsoDelivers, ?_⟩
  · rw [(cuts_and_interruptions_make_no_difference delivers 8 2).1]
    rfl
  · rw [(cuts_and_interruptions_make_no_difference alsoDelivers 0 2).2]
    rfl

end Reading

end FileDepot
