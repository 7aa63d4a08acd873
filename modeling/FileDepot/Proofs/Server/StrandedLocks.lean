import FileDepot.Proofs.Server.Attendance

/-!
# No released lock is forgotten

Whenever a lock is free although somebody waits for it, something is on its
way to hand it on: the trigger is pending, the lock manager will make another
round, or a worker has yet to fire the trigger.
-/

namespace FileDepot

/-- The lock manager will make another round before it waits again. -/
def ManagerPhase.Unsettled : ManagerPhase → Prop
  | waiting => False
  | granting => True
  | telling _ undelivered => 0 < undelivered
  | undoing _ _ _ => True

namespace Floor

/-- A worker has given up a client's locks and has not said so yet. -/
def ReleasePending (floor : Floor) : Prop :=
  ∃ client connection locks,
    floor.seats.find? client = some ⟨connection, .released locks⟩ ∧ 0 < locks

/-- A free lock that somebody waits for will be handed on. -/
def Watchful (floor : Floor) : Prop :=
  floor.hub.store.HasStranded →
    floor.hub.lockTrigger = true ∨ floor.manager.Unsettled ∨
      floor.ReleasePending

theorem watchful_new (limits : Limits) : (new limits).Watchful :=
  fun stranded => absurd stranded (Store.not_hasStranded_new limits)

namespace Watchful

variable {floor : Floor} (watchful : floor.Watchful)

include watchful

/-- A change that neither strands a lock nor takes away what will hand it on
keeps the floor watchful. -/
theorem mono {after : Floor}
    (stranded : after.hub.store.HasStranded →
      floor.hub.store.HasStranded ∨ after.hub.lockTrigger = true ∨
        after.ReleasePending)
    (trigger : floor.hub.lockTrigger = true → after.hub.lockTrigger = true)
    (manager : floor.manager.Unsettled → after.manager.Unsettled)
    (pending : floor.ReleasePending →
      after.hub.lockTrigger = true ∨ after.ReleasePending) :
    after.Watchful := by
  intro strandedAfter
  rcases stranded strandedAfter with before | fired | releases
  · rcases watchful before with fired | unsettled | releases
    · exact Or.inl (trigger fired)
    · exact Or.inr (Or.inl (manager unsettled))
    · rcases pending releases with fired | releases
      · exact Or.inl fired
      · exact Or.inr (Or.inr releases)
  · exact Or.inl fired
  · exact Or.inr (Or.inr releases)

theorem accept (attended : floor.Attended) : floor.accept.Watchful := by
  refine watchful.mono Or.inl id id ?_
  rintro ⟨client, connection, locks, seated, some⟩
  have different : client ≠ floor.nextClient := by
    rintro rfl
    simp [attended.unseated_next] at seated
  refine Or.inr ⟨client, connection, locks, ?_, some⟩
  simp only [Floor.accept, Index.find?_insert]
  rw [if_neg different, seated]

theorem serve (attended : floor.Attended) (client : ClientId)
    (incoming : Source) : (floor.serve client incoming).Watchful := by
  rcases floor.serve_cases client incoming with
    same | ⟨connection, seated, goes⟩
  · rw [same]
    exact watchful
  rw [goes]
  have pending (after : Floor) (kept : Seat)
      (seats : after.seats = floor.seats.insert client kept) :
      floor.ReleasePending → after.ReleasePending := by
    rintro ⟨other, held, locks, here, some⟩
    refine ⟨other, held, locks, ?_, some⟩
    rw [seats, Index.find?_insert, if_neg, here]
    rintro rfl
    simp [seated] at here
  cases floor.hub.serves_serveOne { connection with incoming } with
  | opened unopened opened extended =>
      refine watchful.mono ?_ ?_ id fun before => Or.inr (pending _ _ rfl before)
      · exact fun stranded => Or.inl (extended.store ▸ stranded)
      · exact fun fired => extended.lockTrigger.trans fired
  | quiet same extended =>
      refine watchful.mono ?_ ?_ id fun before => Or.inr (pending _ _ rfl before)
      · exact fun stranded => Or.inl (extended.store ▸ stranded)
      · exact fun fired => extended.lockTrigger.trans fired
  | carried operation asked active still extended =>
      refine watchful.mono ?_ ?_ id fun before => Or.inr (pending _ _ rfl before)
      · intro stranded
        have here := extended.store ▸ stranded
        rcases Store.hasStranded_of_perform attended.sound.consistent operation
          here with before | frees
        · exact Or.inl before
        · refine Or.inr (Or.inl ?_)
          rw [extended.lockTrigger]
          simp [frees]
      · intro fired
        rw [extended.lockTrigger]
        simp [fired]

theorem release (attended : floor.Attended) (client : ClientId) :
    (floor.release client).Watchful := by
  rcases floor.release_cases client with
    same | ⟨connection, stage, seated, unreleased, goes⟩
  · rw [same]
    exact watchful
  rw [goes]
  refine watchful.mono ?_ id id ?_
  · intro stranded
    rcases Store.hasStranded_of_perform attended.sound.consistent
      (.releaseClient client) stranded with before | frees
    · exact Or.inl before
    · refine Or.inr (Or.inr ⟨client, connection, _, ?_,
        of_decide_eq_true frees⟩)
      rw [Index.find?_insert, if_pos rfl]
      rfl
  · rintro ⟨other, held, locks, here, some⟩
    refine Or.inr ⟨other, held, locks, ?_, some⟩
    rw [Index.find?_insert, if_neg, here]
    rintro rfl
    rw [seated, Option.some.injEq, Seat.mk.injEq] at here
    exact unreleased locks here.2

theorem forget (client : ClientId) : (floor.forget client).Watchful := by
  rcases floor.forget_cases client with
    same | ⟨connection, locks, seated, goes⟩
  · rw [same]
    exact watchful
  rw [goes]
  -- A worker that gave up no lock leaves the trigger alone.
  by_cases gaveUp : 0 < locks
  · rw [if_pos gaveUp]
    exact fun _ => Or.inl rfl
  · rw [if_neg gaveUp]
    refine watchful.mono Or.inl id id ?_
    rintro ⟨other, held, count, here, some⟩
    refine Or.inr ⟨other, held, count, ?_, some⟩
    rw [Index.find?_erase, if_neg, here]
    rintro rfl
    rw [seated, Option.some.injEq, Seat.mk.injEq, Stage.released.injEq] at here
    exact gaveUp (here.2 ▸ some)

theorem manage (attended : floor.Attended) : floor.manage.Watchful := by
  cases phase : floor.manager with
  | waiting =>
      intro _
      refine Or.inr (Or.inl ?_)
      simp only [Floor.manage, phase]
      trivial
  | granting =>
      intro stranded
      simp only [Floor.manage, phase] at stranded
      exact absurd stranded
        attended.sound.consistent.not_hasStranded_grantWaiting
  | telling grants undelivered =>
      cases grants with
      | nil =>
          simp only [Floor.manage, phase]
          refine watchful.mono Or.inl id ?_ Or.inr
          intro unsettled
          rw [phase] at unsettled
          dsimp only
          rw [if_neg (Nat.ne_of_gt unsettled)]
          trivial
      | cons grant others =>
          rcases floor.hub.send_cases grant.client
              (Hub.grantNotice grant.path) with
            ⟨hub, sent, -, extended⟩ | ⟨error, hub, failed, -⟩
          · rw [manage_told phase sent]
            refine watchful.mono ?_ ?_ ?_ Or.inr
            · exact fun stranded => Or.inl (extended.store ▸ stranded)
            · exact fun fired => extended.lockTrigger.trans fired
            · intro unsettled
              rw [phase] at unsettled
              exact unsettled
          · intro _
            rw [manage_untold phase failed]
            exact Or.inr (Or.inl trivial)
  | undoing grant others undelivered =>
      intro _
      refine Or.inr (Or.inl ?_)
      simp only [Floor.manage, phase]
      exact Nat.succ_pos undelivered

theorem move (attended : floor.Attended) (move : Move) :
    (floor.move move).Watchful := by
  cases move with
  | accept => exact watchful.accept attended
  | serve client incoming => exact watchful.serve attended client incoming
  | release client => exact watchful.release attended client
  | forget client => exact watchful.forget client
  | closeOutbox client => exact watchful
  | write client => exact watchful
  | manage => exact watchful.manage attended

end Watchful

theorem watchful_run (limits : Limits) (moves : List Move) :
    ((new limits).run moves).Watchful := by
  have step (floor : Floor) (move : Move)
      (kept : floor.Attended ∧ floor.Watchful) :
      (floor.move move).Attended ∧ (floor.move move).Watchful :=
    ⟨kept.1.move move, kept.2.move kept.1 move⟩
  exact (run_preserves step moves
    ⟨attended_new limits, watchful_new limits⟩).2

/-- Between two turns no client is half disconnected. -/
def Calm (floor : Floor) : Prop :=
  ∀ client seat, floor.seats.find? client = some seat → seat.KeepsLocks

namespace Calm

variable {floor : Floor} (calm : floor.Calm)

include calm

theorem insert {client : ClientId} {seat : Seat} (keeps : seat.KeepsLocks)
    {other : ClientId} {found : Seat}
    (here : (floor.seats.insert client seat).find? other = some found) :
    found.KeepsLocks := by
  rw [Index.find?_insert] at here
  split at here
  · cases here
    exact keeps
  · exact calm other found here

theorem accept : floor.accept.Calm :=
  fun _ _ here => calm.insert (fun _ => by simp) here

theorem serve (client : ClientId) (incoming : Source) :
    (floor.serve client incoming).Calm := by
  rcases floor.serve_cases client incoming with
    same | ⟨connection, seated, goes⟩
  · rw [same]
    exact calm
  · rw [goes]
    intro other seat here
    refine calm.insert ?_ here
    intro locks
    dsimp only
    split <;> simp

theorem disconnect (client : ClientId) :
    ((floor.release client).forget client).Calm := by
  cases seated : floor.seats.find? client with
  | none =>
      have unreleased : floor.release client = floor := by
        simp only [release, seated]
      have unforgotten : floor.forget client = floor := by
        simp only [forget, seated]
      rw [unreleased, unforgotten]
      exact calm
  | some seat =>
      rw [forget_release seated (calm client seat seated)]
      intro other found here
      rw [Index.find?_erase] at here
      split at here
      · cases here
      · exact calm other found here

theorem turn (turn : Turn) : (floor.run turn.moves).Calm := by
  cases turn with
  | accept => exact calm.accept
  | serve client incoming => exact calm.serve client incoming
  | disconnect client => exact calm.disconnect client
  | closeOutbox client => exact calm
  | write client => exact calm
  | manage =>
      obtain ⟨hub, manager, goes, -⟩ := floor.manage_cases
      change floor.manage.Calm
      rw [goes]
      exact calm

end Calm

theorem calm_run (limits : Limits) (turns : List Turn) :
    ((new limits).run (turns.flatMap Turn.moves)).Calm := by
  have start : (new limits).Calm := by
    intro client seat seated
    cases seated
  generalize new limits = floor at start
  induction turns generalizing floor with
  | nil => exact start
  | cons turn later ih =>
      rw [List.flatMap_cons, run_append]
      exact ih (floor.run turn.moves) (start.turn turn)

/-- However the turns of clients, workers, writers and the lock manager are
interleaved: when the lock manager waits and its trigger is not pending, no
lock is free that somebody waits for. -/
theorem no_lock_is_stranded (limits : Limits) (turns : List Turn)
    (waiting :
      ((new limits).run (turns.flatMap Turn.moves)).manager = .waiting)
    (unfired : ((new limits).run
      (turns.flatMap Turn.moves)).hub.lockTrigger = false)
    (path : String) (file : StoredFile)
    (found : ((new limits).run
      (turns.flatMap Turn.moves)).hub.store.file? path = some file) :
    ¬ (file.owner = none ∧ file.waiters ≠ []) := by
  intro stranded
  rcases watchful_run limits (turns.flatMap Turn.moves)
      ⟨path, file, found, stranded⟩ with fired | unsettled | releases
  · rw [unfired] at fired
    cases fired
  · rw [waiting] at unsettled
    exact unsettled
  · obtain ⟨client, connection, locks, seated, -⟩ := releases
    exact calm_run limits turns client _ seated locks rfl

/-- The first of two contesting clients leaves, and the lock manager runs. -/
def inheritance : List Turn :=
  contest ++ [.disconnect 1, .manage, .manage, .manage, .manage]

/-- The lock goes to the second client. -/
theorem second_contestant_inherits :
    ((new {}).run (inheritance.flatMap Turn.moves)).manager = .waiting ∧
    ((new {}).run (inheritance.flatMap Turn.moves)).hub.lockTrigger = false ∧
    ∃ file, ((new {}).run
        (inheritance.flatMap Turn.moves)).hub.store.file? "f" = some file ∧
      ¬ (file.owner = none ∧ file.waiters ≠ []) := by
  have waiting : ((new {}).run
      (inheritance.flatMap Turn.moves)).manager = .waiting := by
    decide +kernel
  have unfired : ((new {}).run
      (inheritance.flatMap Turn.moves)).hub.lockTrigger = false := by
    decide +kernel
  have found : ((new {}).run
      (inheritance.flatMap Turn.moves)).hub.store.file? "f" =
        some { owner := some 2 } := by
    decide +kernel
  exact ⟨waiting, unfired, _, found,
    no_lock_is_stranded {} inheritance waiting unfired "f" _ found⟩

end Floor

end FileDepot
