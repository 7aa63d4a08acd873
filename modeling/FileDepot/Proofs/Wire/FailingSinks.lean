import FileDepot.Wire.Frame

/-!
# Writing to any sink

A sink has taken either all bytes that were written to it or, when it fails, a
part of them that ends before the last one.  Which of the two it is depends on
the room of the sink alone, and not on how few bytes it takes at a time.
-/

namespace FileDepot

namespace Sink

/-- There is room for these bytes, and a write takes at least one of them. -/
def Takes (sink : Sink) (bytes : Bytes) : Prop :=
  bytes ≠ [] → sink.mouthful ≠ some 0 ∧
    ∀ capacity, sink.capacity = some capacity →
      sink.accepted.length + bytes.length ≤ capacity

/-- None of the next flushes, so many of them, is the one that fails. -/
def Flushes (sink : Sink) (count : Nat) : Prop :=
  ∀ flush, sink.failingFlush = some flush →
    flush ≤ sink.flushes ∨ sink.flushes + count < flush

section Taking

variable (sink : Sink) (first second : Bytes)

theorem takes_nil : sink.Takes [] :=
  fun some => absurd rfl some

/-- A sink takes bytes in two parts exactly if it takes them at once. -/
theorem takes_append_iff :
    sink.Takes (first ++ second) ↔ sink.Takes first ∧
      Takes { sink with accepted := sink.accepted ++ first } second := by
  by_cases noFirst : first = []
  · subst noFirst
    simp [takes_nil]
  by_cases noSecond : second = []
  · subst noSecond
    simp [takes_nil]
  have both : first ++ second ≠ [] := by simp [noFirst]
  constructor
  · intro takes
    obtain ⟨bites, room⟩ := takes both
    refine ⟨fun _ => ⟨bites, ?_⟩, fun _ => ⟨bites, ?_⟩⟩
    · intro capacity limited
      have fits := room capacity limited
      rw [List.length_append] at fits
      omega
    · intro capacity limited
      have fits := room capacity limited
      simp only [List.length_append] at fits ⊢
      omega
  · rintro ⟨-, takes⟩ _
    obtain ⟨bites, room⟩ := takes noSecond
    refine ⟨bites, ?_⟩
    intro capacity limited
    have fits := room capacity limited
    simp only [List.length_append] at fits ⊢
    omega

theorem flushes_succ_iff (count : Nat) :
    sink.Flushes (count + 1) ↔
      sink.failingFlush ≠ some (sink.flushes + 1) ∧
        Flushes { sink with flushes := sink.flushes + 1 } count := by
  constructor
  · intro flushes
    constructor
    · intro fails
      have apart := flushes _ fails
      omega
    · intro flush fails
      have apart := flushes flush fails
      dsimp only
      omega
  · rintro ⟨notNext, later⟩ flush fails
    have apart := later flush fails
    have different : flush ≠ sink.flushes + 1 := by
      rintro rfl
      exact notNext fails
    dsimp only at apart
    omega

end Taking

/-- How writing some bytes to a sink can come out. -/
inductive Outcome {Fault : Type} (sink : Sink) (bytes : Bytes) :
    EStateM.Result Fault Sink Unit → Prop
  | whole (takes : sink.Takes bytes) :
      Outcome sink bytes
        (.ok () { sink with accepted := sink.accepted ++ bytes })
  | cut (refuses : ¬sink.Takes bytes) (fault : Fault) {part missing : Bytes}
      (split : bytes = part ++ missing) (missed : missing ≠ []) :
      Outcome sink bytes
        (.error fault { sink with accepted := sink.accepted ++ part })

namespace Outcome

variable {Fault : Type} {sink : Sink} {bytes : Bytes}

theorem nothing :
    Outcome sink [] (.ok () sink : EStateM.Result Fault Sink Unit) := by
  have taken : Outcome sink [] (.ok () _ : EStateM.Result Fault Sink Unit) :=
    .whole sink.takes_nil
  rw [List.append_nil] at taken
  exact taken

/-- A sink may fail before it takes anything. -/
theorem atOnce (refuses : ¬sink.Takes bytes) (fault : Fault)
    (some : bytes ≠ []) : sink.Outcome bytes (.error fault sink) := by
  have stopped := Outcome.cut refuses fault (List.nil_append bytes).symm some
  rw [List.append_nil] at stopped
  exact stopped

theorem behind {first second : Bytes}
    {result : EStateM.Result Fault Sink Unit} (taken : sink.Takes first)
    (rest : Outcome { sink with accepted := sink.accepted ++ first } second
      result) :
    sink.Outcome (first ++ second) result := by
  have takes := sink.takes_append_iff first second
  cases rest with
  | whole later =>
      have written : Outcome sink (first ++ second)
          (.ok () _ : EStateM.Result Fault Sink Unit) :=
        .whole (takes.mpr ⟨taken, later⟩)
      rw [← List.append_assoc] at written
      exact written
  | @cut refuses fault part missing split missed =>
      have splits : first ++ second = (first ++ part) ++ missing := by
        rw [split, List.append_assoc]
      have stopped := Outcome.cut (fun all => refuses (takes.mp all).2) fault
        splits missed
      rw [← List.append_assoc] at stopped
      exact stopped

end Outcome

theorem portion_le (sink : Sink) (length : Nat) :
    sink.portion length ≤ sink.room length := by
  unfold portion
  split
  · exact Nat.le_refl _
  · exact Nat.min_le_left _ _

/-- What one write takes, the sink has room for. -/
theorem takes_portion {sink : Sink} {bytes : Bytes}
    (some : sink.portion bytes.length ≠ 0) :
    sink.Takes (bytes.take (sink.portion bytes.length)) := by
  intro _
  have within := sink.portion_le bytes.length
  constructor
  · intro bites
    apply some
    rw [portion, bites]
    exact Nat.min_zero _
  · intro capacity limited
    rw [room, limited] at within
    have shorter := List.length_take_le (sink.portion bytes.length) bytes
    dsimp only at within
    omega

theorem outcome_writeAll (bytes : Bytes) (sink : Sink) :
    sink.Outcome bytes (sink.writeAll bytes) := by
  fun_induction Sink.writeAll bytes sink with
  | case1 bytes sink empty =>
      have none := List.length_eq_zero_iff.mp empty
      subst none
      exact .nothing
  | case2 bytes sink some full =>
      have nonempty : bytes ≠ [] := by rintro rfl; exact some rfl
      refine .atOnce ?_ sink.cause nonempty
      intro takes
      obtain ⟨-, fits⟩ := takes nonempty
      unfold room at full
      split at full
      · exact some full
      · rename_i capacity limited
        have enough := fits capacity limited
        omega
  | case3 bytes sink taken some space stuck =>
      have nonempty : bytes ≠ [] := by rintro rfl; exact some rfl
      refine .atOnce ?_ IoFault.nothingWritten nonempty
      intro takes
      obtain ⟨bites, -⟩ := takes nonempty
      change sink.portion bytes.length = 0 at stuck
      unfold portion at stuck
      split at stuck
      · exact space stuck
      · rename_i mouthful limited
        rw [limited, ne_eq, Option.some.injEq] at bites
        omega
  | case4 bytes sink taken some space goes ih =>
      have written := Outcome.behind (takes_portion goes) ih
      rw [List.take_append_drop] at written
      exact written

end Sink

namespace Writing

theorem outcome_put (field : String) (bytes : Bytes) (sink : Sink) :
    sink.Outcome bytes (put field bytes sink) := by
  have written := sink.outcome_writeAll bytes
  unfold put
  generalize sink.writeAll bytes = result at written
  cases written with
  | whole takes => exact .whole takes
  | cut refuses fault split missed => exact .cut refuses _ split missed

/-- Fields that are written one after the other come out like one write of
all their bytes. -/
theorem outcome_fields (fields : List (String × Bytes)) (sink : Sink) :
    sink.Outcome (fields.flatMap (·.2)) (Writing.fields fields sink) := by
  induction fields generalizing sink with
  | nil => exact .nothing
  | cons field others ih =>
      have first := outcome_put field.1 field.2 sink
      change sink.Outcome _ (EStateM.bind (put field.1 field.2)
        (fun _ => Writing.fields others) sink)
      rw [List.flatMap_cons]
      unfold EStateM.bind
      generalize put field.1 field.2 sink = result at first
      cases first with
      | whole taken => exact .behind taken (ih _)
      | cut refuses fault split missed =>
          have takes := sink.takes_append_iff field.2 (others.flatMap (·.2))
          exact .cut (fun all => refuses (takes.mp all).1) fault
            (by rw [split, List.append_assoc]) (by simp [missed])

end Writing

theorem Response.encode_cases (response : Response) (sink : Sink) :
    (sink.Takes response.frame ∧
      sink.failingFlush ≠ some (sink.flushes + 1) ∧
      response.encode sink =
        .ok () { sink with
          accepted := sink.accepted ++ response.frame
          flushes := sink.flushes + 1 }) ∨
    (sink.Takes response.frame ∧
      sink.failingFlush = some (sink.flushes + 1) ∧
      response.encode sink =
        .error (.encode "frame" sink.cause) { sink with
          accepted := sink.accepted ++ response.frame
          flushes := sink.flushes + 1 }) ∨
    ∃ error part missing, ¬sink.Takes response.frame ∧
      response.frame = part ++ missing ∧ missing ≠ [] ∧
      response.encode sink =
        .error error { sink with accepted := sink.accepted ++ part } := by
  have written := Writing.outcome_fields response.fields sink
  change sink.Outcome response.frame _ at written
  have goes : response.encode sink = EStateM.bind
      (Writing.fields response.fields) (fun _ => Writing.flush) sink := rfl
  rw [goes]
  unfold EStateM.bind
  generalize Writing.fields response.fields sink = result at written
  cases written with
  | whole takes =>
      by_cases fails : sink.failingFlush = some (sink.flushes + 1)
      · refine Or.inr (Or.inl ⟨takes, fails, ?_⟩)
        simp [Writing.flush, Sink.flush, fails]
      · refine Or.inl ⟨takes, fails, ?_⟩
        simp [Writing.flush, Sink.flush, fails]
  | cut refuses fault split missed =>
      exact Or.inr (Or.inr ⟨fault, _, _, refuses, split, missed, rfl⟩)

end FileDepot
