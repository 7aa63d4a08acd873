import FileDepot.Wire.Frame

/-!
# Writing to a healthy sink

A sink that takes everything, however few bytes at a time, has taken exactly
the bytes of a frame, or of several frames, once they are encoded.
-/

namespace FileDepot

namespace Sink

/-- A sink that takes all bytes, at least one in each write, and fails no
flush. -/
structure Healthy (sink : Sink) : Prop where
  capacity : sink.capacity = none
  mouthful : sink.mouthful ≠ some 0
  failingFlush : sink.failingFlush = none

theorem healthy_default : Healthy {} where
  capacity := rfl
  mouthful := by simp
  failingFlush := rfl

namespace Healthy

variable {sink : Sink}

theorem accept (healthy : sink.Healthy) (accepted : Bytes) (flushes : Nat) :
    Healthy { sink with accepted, flushes } :=
  ⟨healthy.capacity, healthy.mouthful, healthy.failingFlush⟩

theorem room_eq (healthy : sink.Healthy) (length : Nat) :
    sink.room length = length := by
  rw [room, healthy.capacity]

theorem portion_ne_zero (healthy : sink.Healthy) {length : Nat}
    (some : length ≠ 0) : sink.portion length ≠ 0 := by
  have bites := healthy.mouthful
  unfold portion
  rw [healthy.room_eq]
  split
  · exact some
  · rename_i mouthful limited
    rw [limited, ne_eq, Option.some.injEq] at bites
    omega

theorem writeAll_eq (healthy : sink.Healthy) (bytes : Bytes) :
    sink.writeAll bytes =
      .ok () { sink with accepted := sink.accepted ++ bytes } := by
  fun_induction Sink.writeAll bytes sink with
  | case1 bytes sink empty =>
      rw [List.length_eq_zero_iff.mp empty, List.append_nil]
  | case2 bytes sink some full =>
      rw [healthy.room_eq] at full
      exact absurd full some
  | case3 bytes sink taken some room stuck =>
      exact absurd stuck (healthy.portion_ne_zero some)
  | case4 bytes sink taken some room goes ih =>
      rw [ih (healthy.accept _ _)]
      simp only [List.append_assoc, List.take_append_drop]

end Healthy

end Sink

namespace Writing

/-- A writer succeeds on a healthy sink, which has taken these bytes then. -/
def Writes (writing : Writing Unit) (bytes : Bytes) : Prop :=
  ∀ sink : Sink, sink.Healthy → ∃ flushes,
    writing sink =
      .ok () { sink with accepted := sink.accepted ++ bytes, flushes }

theorem Writes.unique {writing : Writing Unit} {first second : Bytes}
    (one : writing.Writes first) (other : writing.Writes second) :
    first = second := by
  obtain ⟨_, goes⟩ := one {} Sink.healthy_default
  obtain ⟨_, also⟩ := other {} Sink.healthy_default
  rw [goes] at also
  have accepted := congrArg Sink.accepted (EStateM.Result.ok.inj also).2
  exact accepted

theorem writes_fields (fields : List (String × Bytes)) :
    (Writing.fields fields).Writes (fields.flatMap (·.2)) := by
  intro sink healthy
  induction fields generalizing sink with
  | nil =>
      refine ⟨sink.flushes, ?_⟩
      simp only [List.flatMap_nil, List.append_nil]
      rfl
  | cons field others ih =>
      obtain ⟨flushes, later⟩ := ih _
        (healthy.accept (sink.accepted ++ field.2) sink.flushes)
      refine ⟨flushes, ?_⟩
      have first : put field.1 field.2 sink =
          .ok () { sink with accepted := sink.accepted ++ field.2 } := by
        rw [put, healthy.writeAll_eq]
      change EStateM.bind (put field.1 field.2) _ sink = _
      simp only [EStateM.bind, first, later, List.flatMap_cons,
        List.append_assoc]

theorem Writes.flush {writing : Writing Unit} {bytes : Bytes}
    (writes : writing.Writes bytes) :
    Writes (do writing; Writing.flush) bytes := by
  intro sink healthy
  obtain ⟨flushes, goes⟩ := writes sink healthy
  refine ⟨flushes + 1, ?_⟩
  change EStateM.bind writing _ sink = _
  simp only [EStateM.bind, goes, Writing.flush, Sink.flush,
    healthy.failingFlush, reduceCtorEq, if_false]

end Writing

theorem Request.writes_encode (request : Request) :
    request.encode.Writes request.frame :=
  (Writing.writes_fields request.fields).flush

theorem Response.writes_encodeAll (responses : List Response) :
    (Response.encodeAll responses).Writes
      (responses.flatMap Response.frame) := by
  have writes := (Writing.writes_fields (responses.flatMap fields)).flush
  rw [List.flatMap_assoc] at writes
  exact writes

end FileDepot
