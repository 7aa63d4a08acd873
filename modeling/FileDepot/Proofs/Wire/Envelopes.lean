import FileDepot.Proofs.Wire.Deliveries

/-!
# Whole and broken frames

An envelope is a frame that is whole: its path is short enough and text, and
its body is there to the last byte, whatever its code may mean.  Every byte
string is empty, or starts with an envelope, or is broken before the end of
its first frame, and the reader of requests tells the three apart.
-/

namespace FileDepot

namespace Bytes

theorem ofNat_value (bytes : Bytes) :
    ofNat bytes.length (value bytes) = bytes := by
  induction bytes with
  | nil => rfl
  | cons byte rest ih =>
      have byteBound := byte.toNat_lt
      have higher : (byte.toNat + 256 * value rest) / 256 = value rest := by
        omega
      have lowest : UInt8.ofNat (byte.toNat + 256 * value rest) = byte := by
        apply UInt8.toNat.inj
        simp only [UInt8.toNat_ofNat']
        omega
      rw [value, List.length_cons, ofNat, higher, lowest, ih]

theorem ofNat_inj {width first second : Nat} (smallFirst : first < capacity width)
    (smallSecond : second < capacity width)
    (same : ofNat width first = ofNat width second) : first = second := by
  have values := congrArg value same
  rwa [value_ofNat, value_ofNat, Nat.mod_eq_of_lt smallFirst,
    Nat.mod_eq_of_lt smallSecond] at values

theorem exists_ofNat_append {width : Nat} {bytes : Bytes}
    (long : width ≤ bytes.length) :
    ∃ number rest, number < capacity width ∧
      bytes = ofNat width number ++ rest := by
  have width_eq : (bytes.take width).length = width :=
    List.length_take_of_le long
  refine ⟨value (bytes.take width), bytes.drop width, ?_, ?_⟩
  · simpa only [width_eq] using value_lt (bytes.take width)
  · have digits := ofNat_value (bytes.take width)
    rw [width_eq] at digits
    rw [digits, List.take_append_drop]

/-- Bytes behind their length. -/
def measured (bytes : Bytes) : Bytes :=
  ofNat 8 bytes.length ++ bytes

theorem measured_append (first rest : Bytes) :
    measured first ++ rest = ofNat 8 first.length ++ (first ++ rest) :=
  List.append_assoc _ _ _

theorem measured_append_inj {first second restFirst restSecond : Bytes}
    (smallFirst : first.length < capacity 8)
    (smallSecond : second.length < capacity 8)
    (same : measured first ++ restFirst = measured second ++ restSecond) :
    first = second ∧ restFirst = restSecond := by
  rw [measured_append, measured_append] at same
  obtain ⟨lengths, others⟩ := List.append_inj same (by simp)
  exact List.append_inj others (ofNat_inj smallFirst smallSecond lengths)

/-- Bytes that should be measured and end in the length, or before as many
bytes as it says. -/
inductive CutShort : Bytes → Prop
  | inLength {bytes : Bytes} (short : bytes.length < 8) : CutShort bytes
  | behindLength {length : Nat} {bytes : Bytes} (small : length < capacity 8)
      (short : bytes.length < length) : CutShort (ofNat 8 length ++ bytes)

theorem cutShort_or_measured (bytes : Bytes) :
    bytes.CutShort ∨ ∃ first rest, first.length < capacity 8 ∧
      bytes = measured first ++ rest := by
  by_cases short : bytes.length < 8
  · exact Or.inl (.inLength short)
  · obtain ⟨length, behind, small, rfl⟩ :=
      exists_ofNat_append (Nat.le_of_not_lt short)
    by_cases less : behind.length < length
    · exact Or.inl (.behindLength small less)
    · have length_eq : (behind.take length).length = length :=
        List.length_take_of_le (Nat.le_of_not_lt less)
      refine Or.inr ⟨behind.take length, behind.drop length, ?_, ?_⟩
      · rwa [length_eq]
      · rw [measured_append, length_eq, List.take_append_drop]

end Bytes

/-- A whole frame, whatever its code may mean. -/
structure Envelope where
  code : UInt32
  path : String := ""
  body : Bytes := []
  path_le : (Bytes.ofText path).length ≤ maxPathLength := by decide
  body_lt : body.length < Bytes.capacity 8 := by decide
  deriving DecidableEq

namespace Envelope

/-- The bytes of a frame. -/
def bytes (envelope : Envelope) : Bytes :=
  Bytes.ofNat 4 envelope.code.toNat ++
    (Bytes.measured (Bytes.ofText envelope.path) ++
      Bytes.measured envelope.body)

/-- What a reader with a limit for bodies makes of a frame. -/
def request? (envelope : Envelope) (limit : Nat) : Except Error Request :=
  if limit < envelope.body.length then
    .error (.bodyTooLarge envelope.body.length)
  else
    match OpCode.ofCode? envelope.code with
    | some operation =>
        .ok { operation, path := envelope.path, body := envelope.body }
    | none => .error (.unknownOpCode envelope.code)

end Envelope

/-- A path field that holds no path: it is cut short, longer than a path may
be, or not text. -/
inductive BrokenPath : Bytes → Prop
  | cut {bytes : Bytes} (short : bytes.CutShort) : BrokenPath bytes
  | overlong {length : Nat} (rest : Bytes) (long : maxPathLength < length)
      (small : length < Bytes.capacity 8) :
      BrokenPath (Bytes.ofNat 8 length ++ rest)
  | notText {path : Bytes} (rest : Bytes) (short : path.length ≤ maxPathLength)
      (notText : Bytes.text? path = none) :
      BrokenPath (Bytes.measured path ++ rest)

/-- Bytes that break off in a frame, or hold none: they end in the code or in
the body, or the path is broken. -/
inductive Broken : Bytes → Prop
  | inCode {bytes : Bytes} (some : bytes ≠ []) (short : bytes.length < 4) :
      Broken bytes
  | inPath (code : UInt32) {rest : Bytes} (broken : BrokenPath rest) :
      Broken (Bytes.ofNat 4 code.toNat ++ rest)
  | inBody (code : UInt32) (path : String) {rest : Bytes}
      (path_le : (Bytes.ofText path).length ≤ maxPathLength)
      (short : rest.CutShort) :
      Broken (Bytes.ofNat 4 code.toNat ++
        (Bytes.measured (Bytes.ofText path) ++ rest))

theorem maxPathLength_lt : maxPathLength < Bytes.capacity 8 := by
  decide

/-- A byte string is empty, or starts with a whole frame, or is broken. -/
theorem frame_trichotomy (bytes : Bytes) :
    bytes = [] ∨ (∃ (envelope : Envelope) (rest : Bytes),
      bytes = envelope.bytes ++ rest) ∨ Broken bytes := by
  by_cases none : bytes = []
  · exact Or.inl none
  right
  by_cases short : bytes.length < 4
  · exact Or.inr (.inCode none short)
  obtain ⟨number, behindCode, small, rfl⟩ :=
    Bytes.exists_ofNat_append (Nat.le_of_not_lt short)
  have code : (UInt32.ofNat number).toNat = number :=
    UInt32.toNat_ofNat_of_lt small
  rw [← code]
  rcases Bytes.cutShort_or_measured behindCode with
    cut | ⟨path, behindPath, smallPath, rfl⟩
  · exact Or.inr (.inPath _ (.cut cut))
  by_cases long : maxPathLength < path.length
  · rw [Bytes.measured_append]
    exact Or.inr (.inPath _ (.overlong _ long smallPath))
  have path_le := Nat.le_of_not_lt long
  cases text : Bytes.text? path with
  | none => exact Or.inr (.inPath _ (.notText _ path_le text))
  | some name =>
      obtain rfl := Bytes.eq_ofText_of_text? text
      rcases Bytes.cutShort_or_measured behindPath with
        cut | ⟨body, rest, body_lt, rfl⟩
      · exact Or.inr (.inBody _ name path_le cut)
      · refine Or.inl
          ⟨⟨UInt32.ofNat number, name, body, path_le, body_lt⟩, rest, ?_⟩
        simp only [Envelope.bytes, List.append_assoc]

namespace Source

theorem gather_short {bytes : Bytes} {wanted : Nat}
    (short : bytes.length < wanted) :
    gather wanted (ofBytes bytes) = (⟨bytes, .ended⟩, []) := by
  obtain ⟨wanted, rfl⟩ : ∃ fewer, wanted = fewer + 1 :=
    ⟨wanted - 1, by omega⟩
  cases bytes with
  | nil => rfl
  | cons byte more =>
      have fits : (byte :: more).length ≤ wanted + 1 := by omega
      obtain ⟨missing, some⟩ :
          ∃ missing, wanted + 1 - (byte :: more).length = missing + 1 :=
        ⟨wanted - (byte :: more).length, by omega⟩
      simp only [ofBytes, List.isEmpty_cons, Bool.false_eq_true, if_false,
        gather, if_pos fits, some, List.append_nil]

end Source

namespace Reading

theorem code_of_short (field : String) {bytes : Bytes} (some : bytes ≠ [])
    (short : bytes.length < 4) :
    Reading.code field (.ofBytes bytes) = .error (.truncated field) [] := by
  have gathers : gather 4 (.ofBytes bytes) = .ok ⟨bytes, .ended⟩ [] := by
    simp only [gather, Source.gather_short short]
  have missing : bytes.isEmpty = false := List.isEmpty_eq_false_iff.mpr some
  rw [Reading.code, bind_of_ok gathers]
  simp only [missing]
  rfl

theorem exactly_of_short (field : String) {bytes : Bytes} {width : Nat}
    (short : bytes.length < width) :
    exactly field width (.ofBytes bytes) = .error (.truncated field) [] := by
  have gathers : gather width (.ofBytes bytes) = .ok ⟨bytes, .ended⟩ [] := by
    simp only [gather, Source.gather_short short]
  rw [exactly, bind_of_ok gathers]
  rfl

theorem announced_of_short (field : String) {bytes : Bytes} {length : Nat}
    (short : bytes.length < length) :
    announced field length (.ofBytes bytes) =
      .error (.truncated field) [] := by
  have gathers : gather length (.ofBytes bytes) = .ok ⟨bytes, .ended⟩ [] := by
    simp only [gather, Source.gather_short short]
  rw [announced, bind_of_ok gathers]
  rfl

theorem length_of_short (field : String) {bytes : Bytes}
    (short : bytes.length < 8) :
    Reading.length field (.ofBytes bytes) = .error (.truncated field) [] :=
  bind_of_error (exactly_of_short field short) _

theorem path_of_measured {bytes : Bytes} (short : bytes.length ≤ maxPathLength)
    (rest : Bytes) :
    path (.ofBytes (Bytes.measured bytes ++ rest)) =
      pathOf bytes (.ofBytes rest) := by
  have small := Nat.lt_of_le_of_lt short maxPathLength_lt
  rw [Bytes.measured_append, path_behind_length small,
    if_neg (Nat.not_lt_of_le short), (takes_announced "path" bytes).bind]

theorem path_of_broken {bytes : Bytes} (broken : BrokenPath bytes) :
    ∃ reason left, path (.ofBytes bytes) = .error (.malformed reason) left := by
  cases broken with
  | cut short =>
      cases short with
      | inLength short =>
          exact ⟨_, _, bind_of_error (length_of_short "path_len" short) _⟩
      | behindLength small short =>
          rw [path_behind_length small]
          split
          · exact ⟨_, _, rfl⟩
          · exact ⟨_, _, bind_of_error (announced_of_short "path" short) _⟩
  | overlong rest long small =>
      rw [path_behind_length small, if_pos long]
      exact ⟨_, _, rfl⟩
  | notText rest short notText =>
      rw [path_of_measured short, pathOf, notText]
      exact ⟨_, _, rfl⟩

end Reading

namespace Request

open Reading

/-- A whole frame is read to its end, and no further. -/
theorem decode_envelope (limit : Nat) (envelope : Envelope) (rest : Bytes) :
    Request.decode limit (.ofBytes (envelope.bytes ++ rest)) =
      match envelope.request? limit with
      | .ok request => .ok request (.ofBytes rest)
      | .error error => .error error (.ofBytes rest) := by
  rw [Envelope.bytes, List.append_assoc, List.append_assoc, Request.decode,
    (takes_code "op" envelope.code).bind]
  have path := path_of_measured envelope.path_le
    (Bytes.measured envelope.body ++ rest)
  rw [pathOf, Bytes.text?_ofText] at path
  rw [bind_of_ok path, Bytes.measured_append,
    (takes_length "body_len" envelope.body_lt).bind,
    (takes_announced "body" envelope.body).bind, Envelope.request?]
  by_cases large : limit < envelope.body.length
  · rw [if_pos large, if_pos large]
    rfl
  · rw [if_neg large, if_neg large]
    cases OpCode.ofCode? envelope.code <;> rfl

/-- A frame that is broken is refused as such, whatever the limit. -/
theorem decode_broken (limit : Nat) {bytes : Bytes} (broken : Broken bytes) :
    ∃ reason left, Request.decode limit (.ofBytes bytes) =
      .error (.malformed reason) left := by
  rw [Request.decode]
  cases broken with
  | inCode some short =>
      exact ⟨_, _, bind_of_error (code_of_short "op" some short) _⟩
  | inPath code broken =>
      obtain ⟨reason, left, fails⟩ := path_of_broken broken
      rw [(takes_code "op" code).bind]
      exact ⟨reason, left, bind_of_error fails _⟩
  | inBody code path path_le short =>
      rename_i rest
      have read := path_of_measured path_le rest
      rw [pathOf, Bytes.text?_ofText] at read
      rw [(takes_code "op" code).bind, bind_of_ok read]
      cases short with
      | inLength short =>
          exact ⟨_, _, bind_of_error (length_of_short "body_len" short) _⟩
      | behindLength small short =>
          rw [(takes_length "body_len" small).bind]
          exact ⟨_, _, bind_of_error (announced_of_short "body" short) _⟩

end Request

end FileDepot
