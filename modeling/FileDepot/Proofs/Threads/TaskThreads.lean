import FileDepot.Schedule
import Mathlib.Data.List.Basic
import Mathlib.Data.List.Induction

/-!
# The threads of tasks

The loop of a task at its finest grain.  The wait returns, because the trigger
was fired or the interval passed, and takes the trigger's flag with it; only
then the thread looks whether the schedule shuts down, and leaves or starts a
run.  Between any two of these steps others fire the trigger or ask the
schedule to stop, upon which the trigger is fired as well.

What happens is recorded, and no step depends on the record.  From it one can
tell that the fires before a return of the wait are answered by one run, and
that no run comes of a wait that returned after the schedule was asked to stop.
-/

namespace FileDepot

inductive TaskEvent
  /-- The trigger was fired. -/
  | fired
  /-- The wait returned, and said whether the trigger was fired. -/
  | waitReturned (triggered : Bool)
  | started (run : TaskRun)
  | ended (outcome : RunOutcome)
  | stopAsked
  deriving DecidableEq, Repr

namespace TaskEvent

/-- Whether an event is a step of the loop from its wait to a run. -/
def isTurn : TaskEvent → Bool
  | waitReturned _ | started _ => true
  | _ => false

def run? : TaskEvent → Option TaskRun
  | started run => some run
  | _ => none

/-- The runs on record. -/
def runsOf (past : List TaskEvent) : List TaskRun :=
  past.filterMap run?

/-- The last step of the loop on record. -/
def lastTurn (past : List TaskEvent) : Option TaskEvent :=
  past.reverse.find? isTurn

/-- The trigger was fired since the wait last returned. -/
def FiredSinceReturn (past : List TaskEvent) : Prop :=
  ∃ before behind, past = before ++ .fired :: behind ∧
    ∀ triggered, .waitReturned triggered ∉ behind

/-- What the record has to say for an event to come next.  A return of the
wait tells whether there was a fire since the one before, from which the loop
has gone on; a run comes of a return, is numbered after the runs before it, and
none comes after the schedule was asked to stop. -/
def Follows (past : List TaskEvent) : TaskEvent → Prop
  | waitReturned triggered =>
      (triggered = true ↔ FiredSinceReturn past) ∧
        ∀ earlier, lastTurn past ≠ some (.waitReturned earlier)
  | started run =>
      lastTurn past = some (.waitReturned run.triggered) ∧
        run.number = (runsOf past).length + 1 ∧ .stopAsked ∉ past
  | _ => True

/-- Every event on record follows those before it. -/
def Coherent (past : List TaskEvent) : Prop :=
  ∀ before event behind, past = before ++ event :: behind →
    event.Follows before

section Records

variable (past : List TaskEvent) (event : TaskEvent)

theorem concat_eq_iff {before behind : List TaskEvent} {found : TaskEvent} :
    past ++ [event] = before ++ found :: behind ↔
      (before = past ∧ found = event ∧ behind = []) ∨
      ∃ rest, past = before ++ found :: rest ∧ behind = rest ++ [event] := by
  constructor
  · intro split
    rcases List.eq_nil_or_concat' behind with rfl | ⟨rest, last, rfl⟩
    · obtain ⟨same, sameEvent⟩ := List.append_inj' split rfl
      exact Or.inl ⟨same.symm, (List.cons.inj sameEvent).1.symm, rfl⟩
    · rw [← List.cons_append, ← List.append_assoc] at split
      obtain ⟨same, sameEvent⟩ := List.append_inj' split rfl
      cases sameEvent
      exact Or.inr ⟨rest, same, rfl⟩
  · rintro (⟨rfl, rfl, rfl⟩ | ⟨rest, rfl, rfl⟩)
    · rfl
    · rw [List.append_assoc, List.cons_append]

theorem runsOf_append (later : List TaskEvent) :
    runsOf (past ++ later) = runsOf past ++ runsOf later :=
  List.filterMap_append

@[simp]
theorem runsOf_waitReturned (triggered : Bool) :
    runsOf (.waitReturned triggered :: past) = runsOf past :=
  rfl

@[simp]
theorem runsOf_concat :
    runsOf (past ++ [event]) = runsOf past ++ event.run?.toList := by
  simp [runsOf, List.filterMap_eq_flatMap_toList]

@[simp]
theorem lastTurn_concat :
    lastTurn (past ++ [event]) =
      if event.isTurn then some event else lastTurn past := by
  rw [lastTurn, List.reverse_concat, List.find?_cons]
  cases event.isTurn <;> rfl

theorem lastTurn_eq_some_iff {past : List TaskEvent} {event : TaskEvent} :
    lastTurn past = some event ↔
      event.isTurn = true ∧
        ∃ before between, past = before ++ event :: between ∧
          ∀ other ∈ between, other.isTurn = false := by
  rw [lastTurn, List.find?_eq_some_iff_append]
  refine and_congr_right fun _ => ⟨?_, ?_⟩
  · rintro ⟨behind, before, backwards, noTurn⟩
    refine ⟨before.reverse, behind.reverse, ?_, by simpa using noTurn⟩
    rw [← List.reverse_reverse past, backwards]
    simp
  · rintro ⟨before, between, rfl, noTurn⟩
    exact ⟨between.reverse, before.reverse, by simp, by simpa using noTurn⟩

@[simp]
theorem firedSinceReturn_concat :
    FiredSinceReturn (past ++ [event]) ↔
      event = .fired ∨
        (FiredSinceReturn past ∧
          ∀ triggered, event ≠ .waitReturned triggered) := by
  constructor
  · rintro ⟨before, behind, split, noReturn⟩
    rcases (concat_eq_iff past event).mp split with
      ⟨-, same, -⟩ | ⟨rest, stood, rfl⟩
    · exact Or.inl same.symm
    · refine Or.inr ⟨⟨before, rest, stood, fun triggered returned =>
        noReturn triggered (List.mem_append_left _ returned)⟩, ?_⟩
      rintro triggered rfl
      exact noReturn triggered
        (List.mem_append_right _ (List.mem_singleton_self _))
  · rintro (rfl | ⟨⟨before, behind, rfl, noReturn⟩, other⟩)
    · exact ⟨past, [], rfl, fun _ => List.not_mem_nil⟩
    · refine ⟨before, behind ++ [event], by simp, fun triggered returned => ?_⟩
      rcases List.mem_append.mp returned with stood | last
      · exact noReturn triggered stood
      · exact other triggered (List.mem_singleton.mp last).symm

theorem not_firedSinceReturn_nil : ¬FiredSinceReturn [] := by
  rintro ⟨before, behind, impossible, -⟩
  simp at impossible

@[simp]
theorem coherent_concat :
    Coherent (past ++ [event]) ↔ Coherent past ∧ event.Follows past := by
  constructor
  · intro coherent
    exact ⟨fun before found rest stood =>
        coherent before found _
          ((concat_eq_iff past event).mpr (Or.inr ⟨rest, stood, rfl⟩)),
      coherent past event [] rfl⟩
  · rintro ⟨coherent, follows⟩ before found behind split
    rcases (concat_eq_iff past event).mp split with
      ⟨rfl, rfl, -⟩ | ⟨rest, stood, -⟩
    · exact follows
    · exact coherent before found rest stood

end Records

theorem firedSinceReturn_behind_iff (before : List TaskEvent) (first : Bool)
    {gap : List TaskEvent}
    (noReturn : ∀ triggered, .waitReturned triggered ∉ gap) :
    FiredSinceReturn (before ++ .waitReturned first :: gap) ↔ .fired ∈ gap := by
  induction gap using List.reverseRecOn with
  | nil => simp
  | append_singleton gap event ih =>
      simp only [List.mem_append, List.mem_singleton, not_or] at noReturn
      rw [← List.cons_append, ← List.append_assoc, firedSinceReturn_concat,
        ih fun triggered => (noReturn triggered).1, List.mem_append,
        List.mem_singleton, or_comm, eq_comm,
        and_iff_left fun triggered => Ne.symm (noReturn triggered).2]

namespace Coherent

variable {past before behind : List TaskEvent}

theorem of_append (coherent : Coherent (past ++ behind)) : Coherent past := by
  rintro before event rest rfl
  exact coherent before event (rest ++ behind) (by simp)

/-- Runs are numbered from one, with no gaps. -/
theorem numbers (coherent : Coherent past) :
    (runsOf past).map TaskRun.number =
      List.range' 1 (runsOf past).length := by
  induction past using List.reverseRecOn with
  | nil => rfl
  | append_singleton past event ih =>
      obtain ⟨earlier, follows⟩ := (coherent_concat past event).mp coherent
      rw [runsOf_concat, List.map_append, List.length_append, ih earlier]
      cases event with
      | started run =>
          obtain ⟨-, number, -⟩ := follows
          simp [run?, number, List.range'_1_concat, Nat.add_comm 1]
      | _ => simp [run?]

/-- A run goes back to the return of the wait that it comes of. -/
theorem returned_before_run {run : TaskRun} (coherent : Coherent past)
    (split : past = before ++ .started run :: behind) :
    ∃ earlier between,
      before = earlier ++ .waitReturned run.triggered :: between ∧
      (∀ event ∈ between, event.isTurn = false) ∧
      (run.triggered = true ↔ FiredSinceReturn earlier) := by
  obtain ⟨last, -, -⟩ := coherent before _ behind split
  obtain ⟨-, earlier, between, rfl, noTurn⟩ := lastTurn_eq_some_iff.mp last
  have follows : (waitReturned run.triggered).Follows earlier :=
    coherent earlier _ (between ++ .started run :: behind) (by simp [split])
  exact ⟨earlier, between, rfl, noTurn, follows.1⟩

/-- Behind a return of the wait, and before the next one, there is one run at
most.  As long as there is none, the loop has not gone on. -/
theorem run_behind_return {first : Bool} {gap : List TaskEvent}
    (coherent : Coherent (before ++ .waitReturned first :: gap))
    (noReturn : ∀ triggered, .waitReturned triggered ∉ gap) :
    (runsOf gap = [] ∧
      lastTurn (before ++ .waitReturned first :: gap) =
        some (.waitReturned first)) ∨
    (runsOf gap = [⟨(runsOf before).length + 1, first⟩] ∧
      ∃ run, lastTurn (before ++ .waitReturned first :: gap) =
        some (.started run)) := by
  induction gap using List.reverseRecOn with
  | nil => exact Or.inl ⟨rfl, lastTurn_concat before _⟩
  | append_singleton gap event ih =>
      simp only [List.mem_append, List.mem_singleton, not_or] at noReturn
      rw [← List.cons_append, ← List.append_assoc] at coherent ⊢
      obtain ⟨earlier, follows⟩ := (coherent_concat _ event).mp coherent
      have soFar := ih earlier fun triggered => (noReturn triggered).1
      rw [lastTurn_concat, runsOf_concat]
      cases event with
      | waitReturned triggered => exact absurd rfl (noReturn triggered).2
      | started run =>
          obtain ⟨last, number, -⟩ := follows
          rcases soFar with ⟨noRun, same⟩ | ⟨-, other, later⟩
          · obtain rfl : first = run.triggered := by simpa [same] using last
            rw [runsOf_append, List.length_append, runsOf_waitReturned,
              noRun] at number
            rcases run with ⟨_, triggered⟩
            cases number
            rw [noRun]
            exact Or.inr ⟨rfl, _, rfl⟩
          · rw [last] at later
            cases later
      | _ => simpa [run?, isTurn] using soFar

/-- Between a return of the wait and the next one there is one run, and the
next one says whether the trigger was fired in between. -/
theorem between_returns {first second : Bool} {gap : List TaskEvent}
    (coherent : Coherent past)
    (split : past = before ++ .waitReturned first :: gap ++
      .waitReturned second :: behind)
    (noReturn : ∀ triggered, .waitReturned triggered ∉ gap) :
    runsOf gap = [⟨(runsOf before).length + 1, first⟩] ∧
      (second = true ↔ .fired ∈ gap) := by
  obtain ⟨marked, wentOn⟩ := coherent _ _ behind split
  rw [firedSinceReturn_behind_iff before first noReturn] at marked
  rw [split] at coherent
  rcases coherent.of_append.run_behind_return noReturn with
    ⟨-, still⟩ | ⟨oneRun, -⟩
  · exact absurd still (wentOn first)
  · exact ⟨oneRun, marked⟩

theorem no_run_behind_stop (coherent : Coherent past)
    (split : past = before ++ .stopAsked :: behind) : runsOf behind = [] := by
  rw [runsOf, List.filterMap_eq_nil_iff]
  intro event recorded
  cases event with
  | started run =>
      obtain ⟨between, rest, rfl⟩ := List.append_of_mem recorded
      obtain ⟨-, -, unasked⟩ :=
        coherent (before ++ .stopAsked :: between) (.started run) rest
          (by simp [split])
      exact absurd (by simp) unasked
  | _ => rfl

end Coherent

end TaskEvent

/-- A task with its thread and its trigger. -/
structure TaskThread where
  loop : TaskLoop := {}
  /-- The interval passed since the thread began to wait. -/
  due : Bool := false
  /-- What the wait returned, until the thread has looked whether the schedule
  shuts down. -/
  woken? : Option Bool := none
  /-- What happened, first things first. -/
  past : List TaskEvent := []
  deriving DecidableEq, Repr

inductive TaskAct
  | fire
  | expire
  | returnFromWait
  /-- The thread looks whether the schedule shuts down, and starts a run if
  not. -/
  | look
  | endRun (outcome : RunOutcome)
  | askToStop
  deriving DecidableEq, Repr

namespace TaskThread

open TaskEvent

/-- The thread is inside its wait. -/
def waits (thread : TaskThread) : Bool :=
  thread.loop.phase = .waiting && thread.woken? = none

/-- An act out of turn changes nothing. -/
def act (thread : TaskThread) : TaskAct → TaskThread
  | .fire =>
      { thread with
        loop := thread.loop.fire
        past := thread.past ++ [.fired] }
  | .expire => if thread.waits then { thread with due := true } else thread
  | .returnFromWait =>
      if thread.waits && (thread.loop.fired || thread.due) then
        { loop := { thread.loop with fired := false }
          woken? := some thread.loop.fired
          past := thread.past ++ [.waitReturned thread.loop.fired] }
      else thread
  | .look =>
      match thread.woken? with
      | none => thread
      | some triggered =>
          -- Fires that came since the wait returned stay for the next one.
          let after := { thread.loop with fired := triggered }.wake
          { thread with
            loop := { after with fired := thread.loop.fired }
            woken? := none
            past := thread.past ++
              (after.runs.drop thread.loop.runs.length).map .started }
  | .endRun outcome =>
      if thread.loop.phase = .running then
        { thread with
          loop := thread.loop.finish outcome
          past := thread.past ++ [.ended outcome] }
      else thread
  | .askToStop =>
      { thread with
        loop := thread.loop.stop
        past := thread.past ++ [.stopAsked] }

def run : List TaskAct → TaskThread → TaskThread
  | [], thread => thread
  | act :: later, thread => run later (thread.act act)

section Acts

variable {thread : TaskThread}

theorem waits_iff :
    thread.waits = true ↔
      thread.loop.phase = .waiting ∧ thread.woken? = none := by
  simp [waits]

/-- A wait returns once the trigger was fired or the interval passed. -/
theorem act_returnFromWait (waits : thread.waits = true)
    (wakes : thread.loop.fired = true ∨ thread.due = true) :
    thread.act .returnFromWait =
      { loop := { thread.loop with fired := false }
        woken? := some thread.loop.fired
        past := thread.past ++ [.waitReturned thread.loop.fired] } := by
  simp [act, waits, wakes]

theorem act_returnFromWait_of_not_waits
    (waits : thread.waits = false ∨
      (thread.loop.fired = false ∧ thread.due = false)) :
    thread.act .returnFromWait = thread := by
  rcases waits with out | ⟨unfired, early⟩
  · simp [act, out]
  · simp [act, unfired, early]

variable {triggered : Bool}

theorem act_look_of_stopping (phase : thread.loop.phase = .waiting)
    (woken : thread.woken? = some triggered)
    (stopping : thread.loop.stopping = true) :
    thread.act .look =
      { thread with
        loop := { thread.loop with phase := .stopped }
        woken? := none } := by
  simp [act, woken, TaskLoop.wake, phase, stopping]

theorem act_look_of_not_stopping (phase : thread.loop.phase = .waiting)
    (woken : thread.woken? = some triggered)
    (stopping : thread.loop.stopping = false) :
    thread.act .look =
      { thread with
        loop :=
          { thread.loop with
            phase := .running
            runs := thread.loop.runs ++
              [⟨thread.loop.runs.length + 1, triggered⟩] }
        woken? := none
        past := thread.past ++
          [.started ⟨thread.loop.runs.length + 1, triggered⟩] } := by
  simp [act, woken, TaskLoop.wake, phase, stopping]

theorem act_endRun (running : thread.loop.phase = .running)
    (outcome : RunOutcome) :
    thread.act (.endRun outcome) =
      { thread with
        loop :=
          { thread.loop with
            phase := if outcome = .panicked then .crashed else .waiting }
        past := thread.past ++ [.ended outcome] } := by
  rw [act, if_pos running]
  cases outcome <;> simp [TaskLoop.finish, running]

/-- Undisturbed, a wait that returns and the look that follows are the loop
waking up. -/
theorem loop_run_wake (waits : thread.waits = true)
    (wakes : thread.loop.fired = true ∨ thread.due = true) :
    (run [.returnFromWait, .look] thread).loop = thread.loop.wake := by
  obtain ⟨phase, -⟩ := waits_iff.mp waits
  rw [run, run, run, act_returnFromWait waits wakes]
  cases stopping : thread.loop.stopping <;>
    simp [act, TaskLoop.wake, phase, stopping]

theorem loop_run_shutdown (waits : thread.waits = true) :
    (run [.askToStop, .fire, .returnFromWait, .look] thread).loop =
      thread.loop.shutdown.2 := by
  let told := run [.askToStop, .fire] thread
  have wakes : (run [.returnFromWait, .look] told).loop = told.loop.wake :=
    loop_run_wake waits (Or.inl rfl)
  have crashes : thread.loop.stop.fire.wake.phase ≠ .crashed := by
    simp [TaskLoop.wake, TaskLoop.stop, TaskLoop.fire, (waits_iff.mp waits).1]
  rw [TaskLoop.shutdown, if_neg crashes]
  exact wakes

end Acts

/-- What the thread keeps of its record. -/
structure Kept (thread : TaskThread) : Prop where
  coherent : Coherent thread.past
  runs : runsOf thread.past = thread.loop.runs
  fired : thread.loop.fired = true ↔ FiredSinceReturn thread.past
  stopping : thread.loop.stopping = true ↔ .stopAsked ∈ thread.past
  woken : ∀ triggered, thread.woken? = some triggered →
    thread.loop.phase = .waiting ∧
      lastTurn thread.past = some (.waitReturned triggered)
  settled : thread.woken? = none →
    thread.loop.phase = .waiting ∨ thread.loop.phase = .running →
    ∀ triggered, lastTurn thread.past ≠ some (.waitReturned triggered)

namespace Kept

theorem start : ({} : TaskThread).Kept where
  coherent before event behind impossible := by simp at impossible
  runs := rfl
  fired := iff_of_false Bool.false_ne_true not_firedSinceReturn_nil
  stopping := iff_of_false Bool.false_ne_true List.not_mem_nil
  woken := nofun
  settled := fun _ _ => nofun

variable {thread : TaskThread} (kept : thread.Kept)

include kept

theorem fire : (thread.act .fire).Kept where
  coherent := (coherent_concat _ _).mpr ⟨kept.coherent, trivial⟩
  runs := by simpa [act, run?, TaskLoop.fire] using kept.runs
  fired := by simp [act, TaskLoop.fire]
  stopping := by simpa [act, TaskLoop.fire] using kept.stopping
  woken := by simpa [act, isTurn, TaskLoop.fire] using kept.woken
  settled := by simpa [act, isTurn, TaskLoop.fire] using kept.settled

theorem askToStop : (thread.act .askToStop).Kept where
  coherent := (coherent_concat _ _).mpr ⟨kept.coherent, trivial⟩
  runs := by simpa [act, run?, TaskLoop.stop] using kept.runs
  fired := by simpa [act, TaskLoop.stop] using kept.fired
  stopping := by simp [act, TaskLoop.stop]
  woken := by simpa [act, isTurn, TaskLoop.stop] using kept.woken
  settled := by simpa [act, isTurn, TaskLoop.stop] using kept.settled

theorem expire : (thread.act .expire).Kept := by
  rw [act]
  split
  · exact ⟨kept.coherent, kept.runs, kept.fired, kept.stopping, kept.woken,
      kept.settled⟩
  · exact kept

theorem returnFromWait : (thread.act .returnFromWait).Kept := by
  by_cases wakes : thread.waits = true ∧
      (thread.loop.fired = true ∨ thread.due = true)
  · obtain ⟨phase, asleep⟩ := waits_iff.mp wakes.1
    rw [act_returnFromWait wakes.1 wakes.2]
    constructor
    · exact (coherent_concat _ _).mpr ⟨kept.coherent, kept.fired,
        kept.settled asleep (Or.inl phase)⟩
    · simpa [run?] using kept.runs
    · simp
    · simpa using kept.stopping
    · rintro _ ⟨⟩
      exact ⟨phase, lastTurn_concat _ _⟩
    · nofun
  · rw [act_returnFromWait_of_not_waits (by grind)]
    exact kept

theorem look : (thread.act .look).Kept := by
  cases woken : thread.woken? with
  | none => simpa [act, woken] using kept
  | some triggered =>
      obtain ⟨phase, last⟩ := kept.woken triggered woken
      cases stopping : thread.loop.stopping with
      | true =>
          rw [act_look_of_stopping phase woken stopping]
          exact ⟨kept.coherent, kept.runs, kept.fired, kept.stopping, nofun,
            nofun⟩
      | false =>
          rw [act_look_of_not_stopping phase woken stopping]
          have unasked : .stopAsked ∉ thread.past := by
            simp [← kept.stopping, stopping]
          constructor
          · refine (coherent_concat _ _).mpr ⟨kept.coherent, last, ?_, unasked⟩
            rw [kept.runs]
          · simp [run?, kept.runs]
          · simpa using kept.fired
          · simpa using kept.stopping
          · nofun
          · simp [isTurn]

theorem woken_of_running (running : thread.loop.phase = .running) :
    thread.woken? = none := by
  cases woken : thread.woken? with
  | none => rfl
  | some triggered =>
      obtain ⟨phase, -⟩ := kept.woken triggered woken
      rw [phase] at running
      cases running

theorem endRun (outcome : RunOutcome) :
    (thread.act (.endRun outcome)).Kept := by
  by_cases running : thread.loop.phase = .running
  · have asleep := kept.woken_of_running running
    rw [act_endRun running]
    constructor
    · exact (coherent_concat _ _).mpr ⟨kept.coherent, trivial⟩
    · simpa [run?] using kept.runs
    · simpa using kept.fired
    · simpa using kept.stopping
    · simp [asleep]
    · simpa [isTurn] using fun _ _ => kept.settled asleep (Or.inr running)
  · rw [act, if_neg running]
    exact kept

theorem act (act : TaskAct) : (thread.act act).Kept := by
  cases act with
  | fire => exact kept.fire
  | expire => exact kept.expire
  | returnFromWait => exact kept.returnFromWait
  | look => exact kept.look
  | endRun outcome => exact kept.endRun outcome
  | askToStop => exact kept.askToStop

theorem run (acts : List TaskAct) : (TaskThread.run acts thread).Kept := by
  induction acts generalizing thread with
  | nil => exact kept
  | cons act later ih => exact ih (kept.act act)

theorem returns_at_once (waits : thread.waits = true)
    (wasFired : FiredSinceReturn thread.past) :
    (thread.act .returnFromWait).past =
      thread.past ++ [.waitReturned true] := by
  have fired := kept.fired.mpr wasFired
  rw [act_returnFromWait waits (Or.inl fired), fired]

/-- Without a fire the wait goes on until the interval has passed. -/
theorem returns_when_due (waits : thread.waits = true)
    (unfired : ¬FiredSinceReturn thread.past) :
    (thread.act .returnFromWait).past =
      thread.past ++ if thread.due then [.waitReturned false] else [] := by
  have unset : thread.loop.fired = false :=
    Bool.eq_false_iff.mpr fun fired => unfired (kept.fired.mp fired)
  cases due : thread.due with
  | true =>
      rw [act_returnFromWait waits (Or.inr due), unset]
      rfl
  | false =>
      rw [act_returnFromWait_of_not_waits (Or.inr ⟨unset, due⟩)]
      exact (List.append_nil _).symm

/-- A fire during a run is remembered, however the run ends. -/
theorem returns_after_run (running : thread.loop.phase = .running)
    (wasFired : FiredSinceReturn thread.past) {outcome : RunOutcome}
    (calm : outcome ≠ .panicked) :
    (TaskThread.run [.endRun outcome, .returnFromWait] thread).past =
      thread.past ++ [.ended outcome, .waitReturned true] := by
  have waits : (thread.act (.endRun outcome)).waits = true := by
    simp [act_endRun running, calm, waits_iff, kept.woken_of_running running]
  have past : (thread.act (.endRun outcome)).past =
      thread.past ++ [.ended outcome] := by
    rw [act_endRun running]
  have returns := (kept.endRun outcome).returns_at_once waits
    (by simpa [past] using wasFired)
  rw [TaskThread.run, TaskThread.run, TaskThread.run, returns, past,
    List.append_assoc]
  rfl

/-- Whatever the wait returned, the thread leaves the loop if the schedule was
asked to stop, and else starts the next run. -/
theorem looks {triggered : Bool} (woken : thread.woken? = some triggered) :
    (thread.act .look).loop.phase =
        (if .stopAsked ∈ thread.past then .stopped else .running) ∧
      (thread.act .look).past =
        thread.past ++
          if .stopAsked ∈ thread.past then []
          else [.started ⟨(runsOf thread.past).length + 1, triggered⟩] := by
  obtain ⟨phase, -⟩ := kept.woken triggered woken
  simp only [← kept.stopping, kept.runs]
  cases stopping : thread.loop.stopping with
  | true => simp [act_look_of_stopping phase woken stopping]
  | false => simp [act_look_of_not_stopping phase woken stopping]

end Kept

/-- However fires, intervals that pass, runs that end and the request to stop
come between the steps of a task's thread, its runs are numbered from one with
no gaps, whether they succeed or fail.  A wait returns that it was triggered
if there was a fire since its last return, and no run is marked but by the
return that it comes of.  Behind each return there is one run at most, and
just one before the next return, which tells whether there was a fire between
the two.  A wait that finds a fire returns at once, also when the fire came
during a run; without one it goes on until the interval has passed.  The
thread then starts a run unless the schedule was asked to stop, and no run
comes behind a wait that returned after that, whatever woke it. -/
theorem fires_are_answered_once (acts : List TaskAct) :
    let thread := run acts {}
    let past := thread.past
    let runs := runsOf past
    (thread.loop.runs = runs ∧
      runs.map TaskRun.number = List.range' 1 runs.length) ∧
    (∀ before triggered behind,
      past = before ++ .waitReturned triggered :: behind →
      (triggered = true ↔ FiredSinceReturn before)) ∧
    (∀ before run behind, past = before ++ .started run :: behind →
      ∃ earlier between,
        before = earlier ++ .waitReturned run.triggered :: between ∧
        (∀ event ∈ between, event.isTurn = false) ∧
        (run.triggered = true ↔ FiredSinceReturn earlier)) ∧
    (∀ before first gap behind,
      past = before ++ .waitReturned first :: gap ++ behind →
      (∀ triggered, .waitReturned triggered ∉ gap) →
      runsOf gap = [] ∨
        runsOf gap = [⟨(runsOf before).length + 1, first⟩]) ∧
    (∀ before first gap second behind,
      past = before ++ .waitReturned first :: gap ++
        .waitReturned second :: behind →
      (∀ triggered, .waitReturned triggered ∉ gap) →
      runsOf gap = [⟨(runsOf before).length + 1, first⟩] ∧
        (second = true ↔ .fired ∈ gap)) ∧
    (FiredSinceReturn past →
      (thread.waits = true →
        (thread.act .returnFromWait).past =
          past ++ [.waitReturned true]) ∧
      (thread.loop.phase = .running → ∀ outcome ≠ .panicked,
        (run [.endRun outcome, .returnFromWait] thread).past =
          past ++ [.ended outcome, .waitReturned true])) ∧
    (¬FiredSinceReturn past → thread.waits = true →
      (thread.act .returnFromWait).past =
        past ++ if thread.due then [.waitReturned false] else []) ∧
    (∀ triggered, thread.woken? = some triggered →
      (thread.act .look).loop.phase =
          (if .stopAsked ∈ past then .stopped else .running) ∧
        (thread.act .look).past =
          past ++
            if .stopAsked ∈ past then []
            else [.started ⟨runs.length + 1, triggered⟩]) ∧
    ∀ before between triggered behind,
      past = before ++ .stopAsked :: between ++
        .waitReturned triggered :: behind →
      runsOf behind = [] := by
  intro thread past runs
  have kept : thread.Kept := Kept.start.run acts
  refine ⟨⟨kept.runs.symm, kept.coherent.numbers⟩, ?_, ?_, ?_, ?_, ?_, ?_, ?_,
    ?_⟩
  · intro before triggered behind split
    exact (kept.coherent before (.waitReturned triggered) behind split).1
  · intro before run behind split
    exact kept.coherent.returned_before_run split
  · intro before first gap behind split noReturn
    have coherent : Coherent (before ++ .waitReturned first :: gap ++ behind) :=
      split ▸ (kept.coherent : Coherent past)
    exact (coherent.of_append.run_behind_return noReturn).imp And.left And.left
  · intro before first gap second behind split noReturn
    exact kept.coherent.between_returns split noReturn
  · intro wasFired
    exact ⟨fun waits => kept.returns_at_once waits wasFired,
      fun running _ calm => kept.returns_after_run running wasFired calm⟩
  · intro unfired waits
    exact kept.returns_when_due waits unfired
  · intro triggered woken
    exact kept.looks woken
  · intro before between triggered behind split
    rw [List.append_assoc, List.cons_append] at split
    have noRun := kept.coherent.no_run_behind_stop split
    rw [runsOf_append, List.append_eq_nil_iff, runsOf_waitReturned] at noRun
    exact noRun.2

/-- The trigger is fired twice before the first run, once during it, and twice
more before the schedule stops. -/
def evening : List TaskAct :=
  [.fire, .fire, .returnFromWait, .look, .fire, .endRun .failed,
    .returnFromWait, .look, .endRun .succeeded, .expire, .fire, .askToStop,
    .fire, .returnFromWait, .look]

/-- The fire during the first run is answered by the second one, although the
first one fails, and the last fires by none. -/
theorem fire_during_failed_run_is_answered :
    let thread := run evening {}
    let gap : List TaskEvent := [.started ⟨1, true⟩, .fired, .ended .failed]
    let behind : List TaskEvent :=
      [.started ⟨2, true⟩, .ended .succeeded, .fired, .stopAsked, .fired,
        .waitReturned true]
    thread.past =
        [.fired, .fired] ++ .waitReturned true :: gap ++
          .waitReturned true :: behind ∧
      runsOf gap = [⟨1, true⟩] ∧ .fired ∈ gap ∧
      thread.loop.runs.map TaskRun.number = [1, 2] := by
  intro thread gap behind
  obtain ⟨⟨runs, numbers⟩, -, -, -, between, -⟩ :=
    fires_are_answered_once evening
  have split : thread.past =
      [.fired, .fired] ++ .waitReturned true :: gap ++
        .waitReturned true :: behind := by
    decide
  obtain ⟨oneRun, wasFired⟩ :=
    between [.fired, .fired] true gap true behind split (by simp [gap])
  exact ⟨split, oneRun, wasFired.mp rfl, runs ▸ numbers⟩

end TaskThread

end FileDepot
