import FileDepot.Bytes
import FileDepot.Error

/-!
# Departing bytes

A writer hands its bytes to a sink in as many writes as the sink needs.  A
sink may accept a limited number of bytes in all, take at most so many in one
write, and refuse one of its flushes.  A write that is offered bytes and takes
none, though there is room, fails: another try would take none either.
-/

namespace FileDepot

structure Sink where
  /-- The bytes accepted so far. -/
  accepted : Bytes := []
  /-- The number of bytes accepted in all, unless any number is. -/
  capacity : Option Nat := none
  /-- The most bytes that one write takes, unless it takes any number. -/
  mouthful : Option Nat := none
  /-- How often a flush was asked for. -/
  flushes : Nat := 0
  /-- The flush that fails, counted from one. -/
  failingFlush : Option Nat := none
  /-- What the sink reports when it fails. -/
  cause : IoFault := .system .brokenPipe

namespace Sink

/-- How many of `length` more bytes the sink can still accept. -/
def room (sink : Sink) (length : Nat) : Nat :=
  match sink.capacity with
  | none => length
  | some capacity => min length (capacity - sink.accepted.length)

/-- How many of `length` bytes one write takes. -/
def portion (sink : Sink) (length : Nat) : Nat :=
  match sink.mouthful with
  | none => sink.room length
  | some mouthful => min (sink.room length) mouthful

/-- Writes all bytes in as many writes as it takes.  What was accepted before
a failure stays accepted. -/
def writeAll (bytes : Bytes) (sink : Sink) : EStateM.Result IoFault Sink Unit :=
  let taken := sink.portion bytes.length
  if _empty : bytes.length = 0 then
    .ok () sink
  else if sink.room bytes.length = 0 then
    .error sink.cause sink
  else if _stuck : taken = 0 then
    .error .nothingWritten sink
  else
    writeAll (bytes.drop taken)
      { sink with accepted := sink.accepted ++ bytes.take taken }
termination_by bytes.length
decreasing_by
  simp only [List.length_drop]
  omega

/-- Asks the sink to pass on what it holds. -/
def flush (sink : Sink) : EStateM.Result IoFault Sink Unit :=
  let counted := { sink with flushes := sink.flushes + 1 }
  if sink.failingFlush = some counted.flushes then
    .error sink.cause counted
  else
    .ok () counted

end Sink

/-- A writer to a sink. -/
abbrev Writing := EStateM Error Sink

namespace Writing

def put (field : String) (bytes : Bytes) : Writing Unit := fun sink =>
  match sink.writeAll bytes with
  | .ok _ after => .ok () after
  | .error cause after => .error (.encode field cause) after

def flush : Writing Unit := fun sink =>
  match sink.flush with
  | .ok _ after => .ok () after
  | .error cause after => .error (.encode "frame" cause) after

/-- Writes labelled fields one after the other. -/
def fields : List (String × Bytes) → Writing Unit
  | [] => pure ()
  | (field, bytes) :: rest => do
      put field bytes
      fields rest

end Writing

end FileDepot
