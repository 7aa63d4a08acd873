import FileDepot.Proofs.Files.LockPaths

/-!
# Trees with the same directories

Two file systems have the same directories when each directory of one is a
directory of the other, with the same directory above it and the same
directories below it.  Their files may differ.  A path that leads to a name in
a directory leads to the same name in both.
-/

namespace FileDepot

namespace FileSystem

variable {before middle after system : FileSystem}

/-- Two file systems differ at most in what is not a directory. -/
structure SameDirectories (before after : FileSystem) : Prop where
  root : after.root = before.root
  here : after.here = before.here
  above : ∀ node, (after.directory? node).map Prod.fst =
    (before.directory? node).map Prod.fst
  below : ∀ node name child, before.isDirectoryNode child = true →
    (after.entry? node name = .ok (some child) ↔
      before.entry? node name = .ok (some child))

theorem isDirectoryNode_eq (system : FileSystem) (node : NodeId) :
    system.isDirectoryNode node =
      ((system.directory? node).map Prod.fst).isOk := by
  rw [isDirectoryNode]
  cases system.directory? node <;> rfl

theorem advance_here (system : FileSystem) (node : NodeId) :
    system.advance node .here =
      ((system.directory? node).map Prod.fst).map fun _ => node := by
  rw [advance]
  cases system.directory? node <;> rfl

theorem advance_parent (system : FileSystem) (node : NodeId) :
    system.advance node .parent = (system.directory? node).map Prod.fst := by
  rw [advance]
  cases system.directory? node <;> rfl

theorem advance_name {node child : NodeId} {name : String} :
    system.advance node (.name name) = .ok child ↔
      system.entry? node name = .ok (some child) := by
  rw [advance]
  cases system.entry? node name with
  | error fault => simp [bind, Except.bind]
  | ok found => cases found <;> simp [bind, Except.bind, pure, Except.pure]

theorem isDirectoryNode_of_asked {node : NodeId} {name : String}
    {found : Option NodeId} (asked : system.entry? node name = .ok found) :
    system.isDirectoryNode node = true := by
  rw [isDirectoryNode_eq]
  rw [ entry?] at asked
  cases inside : system.directory? node with
  | error fault => simp [inside, bind, Except.bind] at asked
  | ok inside => rfl

theorem isDirectoryNode_of_advance {node reached : NodeId} {step : PathStep}
    (advanced : system.advance node step = .ok reached) :
    system.isDirectoryNode node = true := by
  cases step with
  | here =>
      rw [advance_here] at advanced
      rw [isDirectoryNode_eq]
      cases inside : (system.directory? node).map Prod.fst with
      | error fault =>
          rw [inside] at advanced
          cases advanced
      | ok inside => rfl
  | parent =>
      rw [advance_parent] at advanced
      rw [isDirectoryNode_eq, advanced]
      rfl
  | name name =>
      exact isDirectoryNode_of_asked (advance_name.mp advanced)

theorem isDirectoryNode_of_walk {node reached : NodeId}
    {steps : List PathStep} (ends : system.isDirectoryNode reached = true)
    (walked : system.walk node steps = .ok reached) :
    system.isDirectoryNode node = true := by
  cases steps with
  | nil =>
      cases walked
      exact ends
  | cons step rest =>
      cases advanced : system.advance node step with
      | error fault =>
          simp [walk, advanced, bind, Except.bind] at walked
      | ok next => exact isDirectoryNode_of_advance advanced

namespace SameDirectories

theorem refl (system : FileSystem) : SameDirectories system system :=
  ⟨rfl, rfl, fun _ => rfl, fun _ _ _ _ => Iff.rfl⟩

theorem isDirectoryNode (same : SameDirectories before after)
    (node : NodeId) :
    after.isDirectoryNode node = before.isDirectoryNode node := by
  rw [isDirectoryNode_eq, isDirectoryNode_eq, same.above]

theorem symm (same : SameDirectories before after) :
    SameDirectories after before where
  root := same.root.symm
  here := same.here.symm
  above node := (same.above node).symm
  below node name child kind :=
    (same.below node name child (same.isDirectoryNode child ▸ kind)).symm

theorem trans (first : SameDirectories before middle)
    (second : SameDirectories middle after) :
    SameDirectories before after where
  root := second.root.trans first.root
  here := second.here.trans first.here
  above node := (second.above node).trans (first.above node)
  below node name child kind :=
    (second.below node name child
      ((first.isDirectoryNode child).trans kind)).trans
      (first.below node name child kind)

theorem advance (same : SameDirectories before after)
    {node reached : NodeId} {step : PathStep}
    (ends : before.isDirectoryNode reached = true)
    (advanced : before.advance node step = .ok reached) :
    after.advance node step = .ok reached := by
  cases step with
  | here => rwa [advance_here, same.above, ← advance_here]
  | parent => rwa [advance_parent, same.above, ← advance_parent]
  | name name =>
      rw [advance_name] at advanced ⊢
      exact (same.below node name reached ends).mpr advanced

theorem walk (same : SameDirectories before after) {node reached : NodeId}
    {steps : List PathStep} (ends : before.isDirectoryNode reached = true)
    (walked : before.walk node steps = .ok reached) :
    after.walk node steps = .ok reached := by
  induction steps generalizing node with
  | nil => exact walked
  | cons step rest ih =>
      rw [FileSystem.walk, List.foldlM_cons] at walked ⊢
      cases advanced : before.advance node step with
      | error fault => simp [advanced, bind, Except.bind] at walked
      | ok next =>
          rw [advanced] at walked
          have inside := isDirectoryNode_of_walk ends walked
          rw [same.advance inside advanced]
          exact ih walked

/-- A path leads to the same name in the same directory. -/
theorem locate (same : SameDirectories before after) {path name : String}
    {directory : NodeId} {only : Bool}
    (inside : before.isDirectoryNode directory = true)
    (located : before.locate path = .ok (.entry directory name only)) :
    after.locate path = .ok (.entry directory name only) := by
  obtain ⟨passed, named, loose, walked⟩ := locate_eq_entry_iff.mp located
  have start : after.origin path = before.origin path := by
    rw [origin, origin, same.root, same.here]
  exact locate_eq_entry_iff.mpr
    ⟨passed, named, loose, start ▸ same.walk inside walked⟩

end SameDirectories

end FileSystem

end FileDepot
