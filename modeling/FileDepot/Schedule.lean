import FileDepot.Error

/-!
# Scheduled tasks

A task runs in a loop of its own: it waits until its trigger is fired or its
interval has passed, runs, and waits again.  Fires that come before the wait
returns make one run between them, and a fire during a run is remembered.
Once the schedule shuts down, a wait that returns ends the loop.
-/

namespace FileDepot

inductive RunOutcome
  | succeeded
  | failed
  | panicked
  deriving DecidableEq, Repr

inductive TaskPhase
  | waiting
  | running
  | stopped
  | crashed
  deriving DecidableEq, Repr

structure TaskRun where
  /-- The number of the run, from one. -/
  number : Nat
  /-- The run was asked for, rather than due. -/
  triggered : Bool
  deriving DecidableEq, Repr

/-- A task and its trigger. -/
structure TaskLoop where
  /-- The trigger was fired since the last wait returned. -/
  fired : Bool := false
  /-- The schedule shuts down. -/
  stopping : Bool := false
  phase : TaskPhase := .waiting
  /-- The runs so far, first one first. -/
  runs : List TaskRun := []
  deriving DecidableEq, Repr

namespace TaskLoop

def fire (loop : TaskLoop) : TaskLoop :=
  { loop with fired := true }

def stop (loop : TaskLoop) : TaskLoop :=
  { loop with stopping := true }

/-- The wait returns, because the trigger was fired or the interval passed. -/
def wake (loop : TaskLoop) : TaskLoop :=
  match loop.phase with
  | .waiting =>
      if loop.stopping then
        { loop with fired := false, phase := .stopped }
      else
        { loop with
          fired := false
          phase := .running
          runs := loop.runs ++ [⟨loop.runs.length + 1, loop.fired⟩] }
  | _ => loop

def finish (loop : TaskLoop) (outcome : RunOutcome) : TaskLoop :=
  match loop.phase, outcome with
  | .running, .panicked => { loop with phase := .crashed }
  | .running, _ => { loop with phase := .waiting }
  | _, _ => loop

/-- One turn of the loop, with runs that end as their numbers say. -/
def turn (loop : TaskLoop) (outcome : Nat → RunOutcome) : TaskLoop :=
  let woken := loop.wake
  woken.finish (outcome woken.runs.length)

/-- Ends the loop and waits for it. -/
def shutdown (loop : TaskLoop) : Except Error Unit × TaskLoop :=
  let ended := loop.stop.fire.wake
  if ended.phase = .crashed then
    (.error (.invalidState "Task thread panicked"), ended)
  else
    (.ok (), ended)

end TaskLoop

/-- Lets one of several loops make a turn, which is asked for or due.  Gives
the runs that come of it. -/
def takeTurn (outcome : Nat → RunOutcome) (triggered : Bool) (index : Nat)
    (loops : List TaskLoop) : List TaskRun × List TaskLoop :=
  match loops[index]? with
  | none => ([], loops)
  | some loop =>
      let after := (if triggered then loop.fire else loop).turn outcome
      (after.runs.drop loop.runs.length, loops.set index after)

/-- Ends all loops, in the order in which their tasks were registered, and
reports whether one of them crashed. -/
def shutdownAll : List TaskLoop → Except Error Unit
  | [] => .ok ()
  | loop :: others =>
      match loop.shutdown with
      | (.error error, _) => .error error
      | (.ok _, _) => shutdownAll others

end FileDepot
