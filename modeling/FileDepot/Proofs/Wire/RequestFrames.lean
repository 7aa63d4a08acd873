import FileDepot.Wire.Frame

/-!
# Reading request frames

A request frame that arrives whole is read back as the request that it was
made of, and the reader stands behind it, unless its path or its body is too
long to be served.
-/

namespace FileDepot

namespace Source

theorem ofBytes_append {first : Bytes} (rest : Bytes)
    (some : first ≠ []) : ofBytes (first ++ rest) = [.data (first ++ rest)] := by
  simp [ofBytes, some]

theorem gather_ofBytes (first rest : Bytes) :
    gather first.length (ofBytes (first ++ rest)) =
      (⟨first, .full⟩, ofBytes rest) := by
  cases first with
  | nil => simp [gather]
  | cons byte more =>
      rw [ofBytes_append rest (by simp)]
      cases rest with
      | nil => simp [gather, ofBytes]
      | cons next others => simp [gather, ofBytes]

end Source

namespace Reading

/-- A reading gets a value out of the first bytes and stands behind them. -/
def Takes {Value : Type} (read : Reading Value) (first : Bytes)
    (value : Value) : Prop :=
  ∀ rest, read (.ofBytes (first ++ rest)) = .ok value (.ofBytes rest)

variable {Value Other : Type}

theorem bind_of_ok {read : Reading Value} {source rest : Source}
    {value : Value} (goes : read source = .ok value rest)
    (next : Value → Reading Other) :
    (read >>= next) source = next value rest := by
  change EStateM.bind read next _ = _
  simp only [EStateM.bind, goes]

theorem Takes.bind {read : Reading Value} {first : Bytes} {value : Value}
    (takes : read.Takes first value) (next : Value → Reading Other)
    (more : Bytes) :
    (read >>= next) (.ofBytes (first ++ more)) =
      next value (.ofBytes more) :=
  bind_of_ok (takes more) next

theorem bind_of_error {read : Reading Value} {source rest : Source}
    {error : Error} (fails : read source = .error error rest)
    (next : Value → Reading Other) :
    (read >>= next) source = .error error rest := by
  change EStateM.bind read next _ = _
  simp only [EStateM.bind, fails]

theorem takes_gather (first : Bytes) :
    (gather first.length).Takes first ⟨first, .full⟩ := by
  intro rest
  simp only [gather, Source.gather_ofBytes]

theorem takes_announced (field : String) (first : Bytes) :
    (announced field first.length).Takes first first := by
  intro rest
  rw [announced, (takes_gather first).bind]
  rfl

theorem takes_exactly (field : String) (first : Bytes) :
    (exactly field first.length).Takes first first := by
  intro rest
  rw [exactly, (takes_gather first).bind]
  rfl

theorem takes_code (field : String) (code : UInt32) :
    (Reading.code field).Takes (Bytes.ofNat 4 code.toNat) code := by
  intro rest
  have gathered := takes_gather (Bytes.ofNat 4 code.toNat)
  rw [Bytes.length_ofNat] at gathered
  have small : code.toNat % Bytes.capacity 4 = code.toNat :=
    Nat.mod_eq_of_lt code.toNat_lt
  rw [Reading.code, gathered.bind]
  simp only [Bytes.value_ofNat, small, UInt32.ofNat_toNat]
  rfl

theorem takes_length (field : String) {length : Nat}
    (small : length < Bytes.capacity 8) :
    (Reading.length field).Takes (Bytes.ofNat 8 length) length := by
  intro rest
  have taken := takes_exactly field (Bytes.ofNat 8 length)
  rw [Bytes.length_ofNat] at taken
  rw [Reading.length, taken.bind, Bytes.value_ofNat,
    Nat.mod_eq_of_lt small]
  rfl

/-- What is made of the bytes of a path. -/
def pathOf (bytes : Bytes) : Reading String :=
  match Bytes.text? bytes with
  | some path => return path
  | none => throw (.malformed "path is not valid UTF-8")

theorem path_behind_length {length : Nat} (small : length < Bytes.capacity 8)
    (rest : Bytes) :
    path (.ofBytes (Bytes.ofNat 8 length ++ rest)) =
      if maxPathLength < length then
        .error (.malformed s!"path of {length} bytes exceeds {maxPathLength}")
          (.ofBytes rest)
      else
        (announced "path" length >>= pathOf) (.ofBytes rest) := by
  rw [Reading.path, (takes_length "path_len" small).bind]
  split
  · rfl
  · rfl

theorem path_of_short {text : String} (rest : Bytes)
    (short : (Bytes.ofText text).length ≤ maxPathLength)
    (small : (Bytes.ofText text).length < Bytes.capacity 8) :
    path (.ofBytes (Bytes.ofNat 8 (Bytes.ofText text).length ++
      (Bytes.ofText text ++ rest))) = .ok text (.ofBytes rest) := by
  rw [path_behind_length small, if_neg (Nat.not_lt_of_le short),
    (takes_announced "path" (Bytes.ofText text)).bind, pathOf,
    Bytes.text?_ofText]
  rfl

theorem path_of_long {text : String} (rest : Bytes)
    (long : maxPathLength < (Bytes.ofText text).length)
    (small : (Bytes.ofText text).length < Bytes.capacity 8) :
    ∃ reason, path (.ofBytes
      (Bytes.ofNat 8 (Bytes.ofText text).length ++
        (Bytes.ofText text ++ rest))) =
      .error (.malformed reason) (.ofBytes (Bytes.ofText text ++ rest)) := by
  rw [path_behind_length small, if_pos long]
  exact ⟨_, rfl⟩

end Reading

namespace Request

/-- The lengths of the path and the body can be written in their fields. -/
def Sendable (request : Request) : Prop :=
  (Bytes.ofText request.path).length < Bytes.capacity 8 ∧
    request.body.length < Bytes.capacity 8

instance (request : Request) : Decidable request.Sendable :=
  inferInstanceAs (Decidable (_ ∧ _))

theorem frame_append (request : Request) (rest : Bytes) :
    request.frame ++ rest = Bytes.ofNat 4 request.operation.code.toNat ++
      (Bytes.ofNat 8 (Bytes.ofText request.path).length ++
        (Bytes.ofText request.path ++
          (Bytes.ofNat 8 request.body.length ++ (request.body ++ rest)))) := by
  simp [frame, fields, measuredField]

/-- A request frame is read back as the request, or refused because its path
or its body is too long.  Only a path that is too long leaves the reader
anywhere but behind the frame. -/
theorem decode_frame (limit : Nat) {request : Request}
    (sendable : request.Sendable) (rest : Bytes) :
    Request.decode limit (.ofBytes (request.frame ++ rest)) =
      .ok request (.ofBytes rest) ∨
    (limit < request.body.length ∧
      Request.decode limit (.ofBytes (request.frame ++ rest)) =
        .error (.bodyTooLarge request.body.length) (.ofBytes rest)) ∨
    (maxPathLength < (Bytes.ofText request.path).length ∧
      ∃ reason left,
        Request.decode limit (.ofBytes (request.frame ++ rest)) =
          .error (.malformed reason) left) := by
  obtain ⟨smallPath, smallBody⟩ := sendable
  rw [frame_append, Request.decode, (Reading.takes_code "op" _).bind]
  by_cases long : maxPathLength < (Bytes.ofText request.path).length
  · refine Or.inr (Or.inr ⟨long, ?_⟩)
    obtain ⟨reason, fails⟩ := Reading.path_of_long
      (Bytes.ofNat 8 request.body.length ++ (request.body ++ rest))
      long smallPath
    exact ⟨reason, _, Reading.bind_of_error fails _⟩
  · have path := Reading.path_of_short
      (Bytes.ofNat 8 request.body.length ++ (request.body ++ rest))
      (Nat.le_of_not_lt long) smallPath
    have announced := Reading.takes_announced "body" request.body
    rw [Reading.bind_of_ok path,
      (Reading.takes_length "body_len" smallBody).bind, announced.bind]
    by_cases large : limit < request.body.length
    · rw [if_pos large]
      exact Or.inr (Or.inl ⟨large, rfl⟩)
    · rw [if_neg large]
      left
      simp only [OpCode.ofCode?_code]
      rfl

end Request

end FileDepot
