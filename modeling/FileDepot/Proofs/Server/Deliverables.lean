import FileDepot.Proofs.Server.Attendance
import FileDepot.Proofs.Wire.Progress

/-!
# Everything stored can be sent

A file gets into the store by requests only, so its path fits a frame, is not
empty, and its content is no longer than a frame can say.
-/

namespace FileDepot

theorem Bytes.length_ofText (text : String) :
    (ofText text).length = text.utf8ByteSize :=
  Array.length_toList

theorem FileChange.content_cases {path : String} {operation : StoreOperation}
    {before after : StoredFile}
    (change : FileChange path operation before after) :
    after.unlockedPart = before.unlockedPart ∨
      ∃ client content, operation = .write path client content ∧
        after.content = content := by
  cases change with
  | kept => exact Or.inl rfl
  | opened client | locked client =>
      exact Or.inl (before.unlockedPart_lock client)
  | unlocked client => exact Or.inl (before.unlockedPart_release client)
  | closed client | released client => exact Or.inl (by simp)
  | granted handed => exact Or.inl (StoredFile.unlockedPart_grantNext handed)
  | written client content => exact Or.inr ⟨client, content, rfl, rfl⟩

/-- A file that a frame can carry, and that does not end a list of files. -/
structure Deliverable (path : String) (content : Bytes) : Prop where
  named : path ≠ ""
  path_le : (Bytes.ofText path).length ≤ maxPathLength
  content_lt : content.length < Bytes.capacity 8

namespace Store

/-- Every file of a store can be delivered. -/
def AllDeliverable (store : Store) : Prop :=
  ∀ path file, store.file? path = some file → Deliverable path file.content

/-- What an operation puts into the store can be delivered. -/
structure PutsDeliverable (operation : StoreOperation) : Prop where
  created : ∀ path client lock, operation = .create path client lock →
    Deliverable path []
  written : ∀ path client content, operation = .write path client content →
    content.length < Bytes.capacity 8

theorem PutsDeliverable.of_onlyLocks {operation : StoreOperation}
    (only : operation.onlyLocks = true) : PutsDeliverable operation where
  created path client lock := by
    rintro rfl
    cases only
  written path client content := by
    rintro rfl
    cases only

theorem AllDeliverable.perform {store : Store}
    (deliverable : store.AllDeliverable) (consistent : store.Consistent)
    {operation : StoreOperation} (puts : PutsDeliverable operation) :
    (store.perform operation).2.AllDeliverable := by
  intro path after found
  cases earlier : store.file? path with
  | none =>
      obtain ⟨client, lock, rfl, rfl⟩ :=
        creation_of_birth consistent earlier found
      exact puts.created path client lock rfl
  | some before =>
      have carried := deliverable path before earlier
      refine ⟨carried.named, carried.path_le, ?_⟩
      rcases (change_of_survival consistent earlier found).content_cases with
        same | ⟨client, content, rfl, rfl⟩
      · have content : after.content = before.content :=
          congrArg Prod.fst same
        rw [content]
        exact carried.content_lt
      · exact puts.written path client _ rfl

end Store

namespace Request

variable {request : Request} {session : Session} {client : ClientId}

/-- A request for a file names it by a path that fits a frame. -/
theorem path_of_checked (checked : request.check session = .ok ())
    (targets : request.operation.targetsFile = true) :
    Deliverable request.path [] := by
  have notOpening : request.operation ≠ .openConnection := by
    intro opening
    rw [opening] at targets
    cases targets
  unfold check at checked
  rw [if_neg notOpening] at checked
  cases active : session.isActive with
  | false => simp [active] at checked
  | true =>
      simp only [active, targets, Bool.not_true, Bool.false_eq_true,
        if_false] at checked
      by_cases pathless : request.path.isEmpty = true
      · rw [if_pos pathless] at checked
        cases checked
      · rw [if_neg pathless] at checked
        by_cases long : maxPathLength < request.path.utf8ByteSize
        · rw [if_pos long] at checked
          cases checked
        · refine ⟨?_, ?_, by decide⟩
          · rintro same
            simp [same] at pathless
          · rw [Bytes.length_ofText]
            exact Nat.le_of_not_lt long

theorem putsDeliverable_of_asks {operation : StoreOperation}
    (checked : request.check session = .ok ())
    (body_lt : request.body.length < Bytes.capacity 8)
    (asked : request.asks? client = some operation) :
    Store.PutsDeliverable operation := by
  have named := request.path_of_checked checked
  unfold asks? at asked
  split at asked
  case h_3 code =>
    rw [code] at named
    split at asked
    · cases asked
    · split at asked
      · cases asked
        refine ⟨?_, by rintro path client content ⟨⟩⟩
        rintro path creator lock ⟨⟩
        exact named rfl
      · cases asked
        exact .of_onlyLocks rfl
  case h_5 =>
    cases asked
    refine ⟨by rintro path client lock ⟨⟩, ?_⟩
    rintro path writer content ⟨⟩
    exact body_lt
  case h_7 =>
    split at asked <;> cases asked
    exact .of_onlyLocks rfl
  case h_8 =>
    cases asked
    exact ⟨by rintro path client lock ⟨⟩, by rintro path client content ⟨⟩⟩
  all_goals
    cases asked <;> exact .of_onlyLocks rfl

end Request

/-- Requests with a body that a frame can carry store nothing that a frame
cannot carry. -/
theorem Scope.allDeliverable_dispatch {scope : Scope} (client : ClientId)
    {request : Request} (body_lt : request.body.length < Bytes.capacity 8)
    (consistent : scope.store.Consistent)
    (deliverable : scope.store.AllDeliverable) :
    (scope.dispatch client request).2.store.AllDeliverable := by
  cases checked : request.check scope.session with
  | error error =>
      simp only [dispatch, checked]
      exact deliverable
  | ok _ =>
      rw [dispatch_of_checked checked]
      by_cases opening : request.operation = .openConnection
      · have same : (scope.handle client request).2.store = scope.store := by
          simp only [handle, opening, store_openConnection]
        exact same ▸ deliverable
      · cases asked : request.asks? client with
        | none =>
            rw [(handle_quiet scope asked opening).1]
            exact deliverable
        | some operation =>
            rw [(carried_handle scope asked).store]
            exact deliverable.perform consistent
              (request.putsDeliverable_of_asks checked body_lt asked)

namespace Hub

theorem body_lt_of_reads {hub : Hub} {connection : Connection}
    {request : Request} (read : hub.reads connection = .ok request) :
    request.body.length < Bytes.capacity 8 := by
  unfold reads at read
  split at read
  · rename_i decoded
    cases read
    exact Reading.body_lt_of_decode decoded
  · cases read

theorem allDeliverable_serveOne {hub : Hub} (connection : Connection)
    (consistent : hub.store.Consistent)
    (deliverable : hub.store.AllDeliverable) :
    (hub.serveOne connection).2.2.store.AllDeliverable := by
  cases read : hub.reads connection with
  | error error =>
      rw [store_serveOne_of_error read]
      exact deliverable
  | ok request =>
      rw [store_serveOne_of_read read]
      exact Scope.allDeliverable_dispatch connection.client
        (body_lt_of_reads read) consistent deliverable

end Hub

namespace Floor

theorem allDeliverable_move {floor : Floor} (attended : floor.Attended)
    (deliverable : floor.hub.store.AllDeliverable) (move : Move) :
    (floor.move move).hub.store.AllDeliverable := by
  have consistent := attended.sound.consistent
  have perform (operation : StoreOperation)
      (only : operation.onlyLocks = true) :
      (floor.hub.store.perform operation).2.AllDeliverable :=
    deliverable.perform consistent (.of_onlyLocks only)
  cases move with
  | accept | closeOutbox | write => exact deliverable
  | serve client incoming =>
      rcases serve_cases client floor incoming with
        same | ⟨connection, -, goes⟩
      · rw [Floor.move, same]
        exact deliverable
      · rw [Floor.move, goes]
        exact Hub.allDeliverable_serveOne _ consistent deliverable
  | release client =>
      rcases release_cases client floor with
        same | ⟨connection, stage, -, -, goes⟩
      · rw [Floor.move, same]
        exact deliverable
      · rw [Floor.move, goes]
        exact perform (.releaseClient client) rfl
  | forget client =>
      rcases forget_cases client floor with
        same | ⟨connection, locks, -, goes⟩
      · rw [Floor.move, same]
        exact deliverable
      · rw [Floor.move, goes]
        dsimp only
        split <;> exact deliverable
  | manage =>
      obtain ⟨hub, manager, goes, -, -, same | ⟨operation, -, only, performed⟩⟩ :=
        floor.manage_cases
      · rw [Floor.move, goes]
        exact same ▸ deliverable
      · rw [Floor.move, goes]
        exact performed ▸ perform operation only

/-- Whatever has been served, and whatever else has happened, every stored
file can be delivered. -/
theorem allDeliverable_run (limits : Limits) (moves : List Move) :
    ((new limits).run moves).hub.store.AllDeliverable := by
  have step (floor : Floor) (move : Move)
      (kept : floor.Attended ∧ floor.hub.store.AllDeliverable) :
      (floor.move move).Attended ∧
        (floor.move move).hub.store.AllDeliverable :=
    ⟨kept.1.move move, allDeliverable_move kept.1 kept.2 move⟩
  have start : (new limits).hub.store.AllDeliverable := by
    intro path file found
    cases found
  exact (run_preserves step moves ⟨attended_new limits, start⟩).2

end Floor

end FileDepot
