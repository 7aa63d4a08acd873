import FileDepot.Proofs.Wire.Deliveries

/-!
# Progress of readers

Whatever a source brings, a reader leaves the end of its bytes, and nothing
gets past the code that opens a frame without taking its four bytes.  So the
bytes of a source bound the number of frames that can be read from it.
-/

namespace FileDepot

namespace Source

/-- Gathering loses no byte, and is full with exactly what was wanted. -/
theorem gather_splits (wanted : Nat) (source : Source) :
    (gather wanted source).1.bytes ++ bytes (gather wanted source).2 =
        bytes source ∧
      ((gather wanted source).1.ending = .full →
        (gather wanted source).1.bytes.length = wanted) := by
  fun_induction gather wanted source with
  | case1 source => simp
  | case2 wanted => simp
  | case3 wanted cause later interrupts ih => exact ih
  | case4 wanted cause later fails => exact ⟨rfl, by simp⟩
  | case5 wanted piece later whole gathered rest goes ih =>
      rw [goes] at ih
      obtain ⟨splits, full⟩ := ih
      constructor
      · rw [List.append_assoc, splits]
        rfl
      · intro filled
        rw [List.length_append, full filled]
        omega
  | case6 wanted piece later partly =>
      constructor
      · change _ ++ (_ ++ bytes later) = _ ++ bytes later
        rw [← List.append_assoc, List.take_append_drop]
      · intro _
        rw [List.length_take]
        omega

end Source

namespace Reading

variable {Value Other : Type}

/-- What is left of a source when reading ends. -/
def left : EStateM.Result Error Source Value → Source
  | .ok _ rest => rest
  | .error _ rest => rest

/-- A reader leaves the end of what it was given. -/
def LeavesEnd (read : Reading Value) : Prop :=
  ∀ source, (left (read source)).bytes <:+ source.bytes

theorem LeavesEnd.bind {read : Reading Value} {next : Value → Reading Other}
    (leaves : read.LeavesEnd) (later : ∀ value, (next value).LeavesEnd) :
    (read >>= next).LeavesEnd := by
  intro source
  have first := leaves source
  cases ends : read source with
  | ok value rest =>
      rw [ends] at first
      rw [bind_of_ok ends]
      exact (later value rest).trans first
  | error error rest =>
      rw [ends] at first
      rw [bind_of_error ends]
      exact first

theorem Plain.leavesEnd {read : Reading Value} (plain : read.Plain) :
    read.LeavesEnd := by
  induction plain with
  | returns value => exact fun _ => List.suffix_rfl
  | fails error => exact fun _ => List.suffix_rfl
  | gathers wanted => exact fun source => ⟨_, (source.gather_splits wanted).1⟩
  | chain plain later leaves leavesLater => exact leaves.bind leavesLater

theorem ok_of_bind {read : Reading Value} {next : Value → Reading Other}
    {source rest : Source} {value : Other}
    (goes : (read >>= next) source = .ok value rest) :
    ∃ first left, read source = .ok first left ∧
      next first left = .ok value rest := by
  cases begins : read source with
  | ok first left =>
      rw [bind_of_ok begins] at goes
      exact ⟨first, left, rfl, goes⟩
  | error error left =>
      rw [bind_of_error begins] at goes
      cases goes

section Judged

variable {wanted : Nat} {full : Gathered → Value} {ended : Gathered → Error}
  {failed : Gathered → IoFault → Error} {source rest : Source}

theorem ok_of_judged {value : Value}
    (goes : (do
      let gathered ← gather wanted
      match gathered.ending with
      | .full => return full gathered
      | .ended => throw (ended gathered)
      | .failed cause => throw (failed gathered cause)) source =
        .ok value rest) :
    ∃ gathered, value = full gathered ∧ gathered.bytes.length = wanted ∧
      gathered.bytes ++ rest.bytes = source.bytes := by
  obtain ⟨splits, fills⟩ := source.gather_splits wanted
  obtain ⟨gathered, left, gathers, judged⟩ := ok_of_bind goes
  obtain ⟨rfl, rfl⟩ := EStateM.Result.ok.inj gathers
  cases ends : (source.gather wanted).1.ending with
  | full =>
      simp only [ends] at judged
      obtain ⟨rfl, rfl⟩ := EStateM.Result.ok.inj judged
      exact ⟨_, rfl, fills ends, splits⟩
  | ended =>
      simp only [ends] at judged
      cases judged
  | failed cause =>
      simp only [ends] at judged
      cases judged

theorem error_of_judged {error : Error}
    (fails : (do
      let gathered ← gather wanted
      match gathered.ending with
      | .full => return full gathered
      | .ended => throw (ended gathered)
      | .failed cause => throw (failed gathered cause)) source =
        .error error rest) :
    ∃ gathered, error = ended gathered ∨
      ∃ cause, error = failed gathered cause := by
  have gathers : gather wanted source =
      .ok (source.gather wanted).1 (source.gather wanted).2 := rfl
  rw [bind_of_ok gathers] at fails
  refine ⟨(source.gather wanted).1, ?_⟩
  cases ends : (source.gather wanted).1.ending with
  | full =>
      simp only [ends] at fails
      cases fails
  | ended =>
      simp only [ends] at fails
      exact Or.inl (EStateM.Result.error.inj fails).1.symm
  | failed cause =>
      simp only [ends] at fails
      exact Or.inr ⟨cause, (EStateM.Result.error.inj fails).1.symm⟩

end Judged

theorem code_takes {field : String} {code : UInt32} {source rest : Source}
    (goes : Reading.code field source = .ok code rest) :
    rest.bytes.length + 4 = source.bytes.length := by
  obtain ⟨gathered, -, width, splits⟩ := ok_of_judged goes
  rw [← splits, List.length_append, width, Nat.add_comm]

theorem code_fails {field : String} {error : Error} {source rest : Source}
    (fails : Reading.code field source = .error error rest) :
    error = .peerClosed ∨ (∃ reason, error = .malformed reason) ∨
      ∃ cause, error = .decode field cause := by
  obtain ⟨gathered, rfl | ⟨cause, rfl⟩⟩ := error_of_judged fails
  · split
    · exact Or.inl rfl
    · exact Or.inr (Or.inl ⟨_, rfl⟩)
  · split
    · exact Or.inl rfl
    · exact Or.inr (Or.inr ⟨cause, rfl⟩)

theorem length_lt {field : String} {length : Nat} {source rest : Source}
    (goes : Reading.length field source = .ok length rest) :
    length < Bytes.capacity 8 := by
  obtain ⟨digits, left, reads, values⟩ := ok_of_bind goes
  obtain ⟨rfl, -⟩ := EStateM.Result.ok.inj values
  obtain ⟨gathered, rfl, width, -⟩ := ok_of_judged reads
  have bound := Bytes.value_lt gathered.bytes
  rwa [width] at bound

theorem length_of_announced {field : String} {length : Nat} {bytes : Bytes}
    {source rest : Source}
    (goes : announced field length source = .ok bytes rest) :
    bytes.length = length := by
  obtain ⟨gathered, rfl, width, -⟩ := ok_of_judged goes
  exact width

theorem body_lt_of_decode {limit : Nat} {source rest : Source}
    {request : Request}
    (reads : Request.decode limit source = .ok request rest) :
    request.body.length < Bytes.capacity 8 := by
  obtain ⟨code, behindCode, -, goes⟩ := ok_of_bind reads
  obtain ⟨path, behindPath, -, goes⟩ := ok_of_bind goes
  obtain ⟨length, behindLength, measured, goes⟩ := ok_of_bind goes
  obtain ⟨body, behindBody, arrives, goes⟩ := ok_of_bind goes
  have body_eq : request.body = body := by
    by_cases large : limit < length
    · rw [if_pos large] at goes
      cases goes
    · rw [if_neg large] at goes
      cases found : OpCode.ofCode? code with
      | none =>
          simp only [found] at goes
          cases goes
      | some operation =>
          simp only [found] at goes
          obtain ⟨rfl, -⟩ := EStateM.Result.ok.inj goes
          rfl
  rw [body_eq, length_of_announced arrives]
  exact length_lt measured

/-- Whenever a reader stands at the start of a frame after reading, it has
taken at least one byte. -/
structure Advances (read : Reading Value) (inStep : Error → Bool) : Prop where
  ok : ∀ {source rest : Source} {value : Value},
    read source = .ok value rest → rest.bytes.length < source.bytes.length
  error : ∀ {source rest : Source} {error : Error},
    read source = .error error rest → inStep error = true →
      rest.bytes.length < source.bytes.length

/-- A reader that opens with a code has its four bytes behind it, wherever it
ends later. -/
theorem advances_code {field : String} {next : UInt32 → Reading Value}
    {inStep : Error → Bool} (plain : ∀ code, (next code).Plain)
    (closed : inStep .peerClosed = false)
    (malformed : ∀ reason, inStep (.malformed reason) = false)
    (failed : ∀ cause, inStep (.decode field cause) = false) :
    Advances (Reading.code field >>= next) inStep := by
  constructor
  · intro source rest value goes
    cases begins : Reading.code field source with
    | error error left =>
        rw [bind_of_error begins] at goes
        cases goes
    | ok code left =>
        rw [bind_of_ok begins] at goes
        have leaves := ((plain code).leavesEnd left).length_le
        have taken := code_takes begins
        rw [goes, Reading.left] at leaves
        omega
  · intro source rest error fails kept
    cases begins : Reading.code field source with
    | error early left =>
        rw [bind_of_error begins] at fails
        obtain ⟨rfl, -⟩ := EStateM.Result.error.inj fails
        rcases code_fails begins with rfl | ⟨reason, rfl⟩ | ⟨cause, rfl⟩
        · exact absurd (closed.symm.trans kept) (by decide)
        · exact absurd ((malformed reason).symm.trans kept) (by decide)
        · exact absurd ((failed cause).symm.trans kept) (by decide)
    | ok code left =>
        rw [bind_of_ok begins] at fails
        have leaves := ((plain code).leavesEnd left).length_le
        have taken := code_takes begins
        rw [fails, Reading.left] at leaves
        omega

theorem advances_request (limit : Nat) :
    Advances (Request.decode limit) Request.keepsStep := by
  rw [request_decode_eq]
  exact advances_code (plain_requestBehind limit) rfl (fun _ => rfl)
    fun _ => rfl

theorem advances_response : Advances Response.decode Response.keepsStep := by
  rw [response_decode_eq]
  exact advances_code plain_responseBehind rfl (fun _ => rfl) fun _ => rfl

namespace Advances

variable {read : Reading Value} {inStep : Error → Bool}

/-- There are never more results than bytes, and one for the end. -/
theorem series_eq (advances : Advances read inStep) {first second : Nat}
    {source : Source} (enough : source.bytes.length < first)
    (alsoEnough : source.bytes.length < second) :
    series read inStep first source = series read inStep second source := by
  induction first generalizing second source with
  | zero => exact absurd enough (Nat.not_lt_zero _)
  | succ first ih =>
      obtain ⟨second, rfl⟩ : ∃ fewer, second = fewer + 1 :=
        ⟨second - 1, by omega⟩
      simp only [series]
      cases goes : read source with
      | ok value rest =>
          have less := advances.ok goes
          dsimp only
          rw [ih (Nat.lt_of_lt_of_le less (Nat.le_of_lt_succ enough))
            (Nat.lt_of_lt_of_le less (Nat.le_of_lt_succ alsoEnough))]
      | error error rest =>
          dsimp only
          split
          · rename_i kept
            have less := advances.error goes kept
            rw [ih (Nat.lt_of_lt_of_le less (Nat.le_of_lt_succ enough))
              (Nat.lt_of_lt_of_le less (Nat.le_of_lt_succ alsoEnough))]
          · rfl

theorem results_eq_series (advances : Advances read inStep) {calls : Nat}
    {source : Source} (enough : source.bytes.length < calls) :
    results read inStep source = series read inStep calls source :=
  advances.series_eq (Nat.lt_succ_self _) enough

theorem results_of_ok (advances : Advances read inStep) {source rest : Source}
    {value : Value} (goes : read source = .ok value rest) :
    results read inStep source =
      (.ok value, rest) :: results read inStep rest := by
  rw [advances.results_eq_series (advances.ok goes), results, series, goes]

theorem results_of_error (advances : Advances read inStep)
    {source rest : Source} {error : Error}
    (fails : read source = .error error rest) (kept : inStep error = true) :
    results read inStep source =
      (.error error, rest) :: results read inStep rest := by
  rw [advances.results_eq_series (advances.error fails kept), results, series,
    fails]
  exact if_pos kept

end Advances

end Reading

end FileDepot
