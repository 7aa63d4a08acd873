import FileDepot.Files.SavedFile
import FileDepot.Proofs.Files.LockPaths

/-!
# Where saved files end up

A file is saved under names that somebody else has chosen.  Whatever is in its
path, it leads on from the directory along plain names alone, so it lies
strictly below the directory, and a walk along it comes through the directory.
-/

namespace FileDepot

open PathName (ofText segments plainNames below IsPlain LeadsOn)

namespace FileSystem

variable {system : FileSystem} {path : String}

theorem saveBelow_of_no_names (nameless : plainNames path = [])
    (directory : String) (content : Bytes) :
    system.saveBelow directory path content =
      (.error (.invalidPath path), system) := by
  rw [saveBelow, savedNames, nameless]

/-- Any other path is written to below the directory, with whatever comes of
it. -/
theorem saveBelow_of_names (named : plainNames path ≠ [])
    (directory : String) (content : Bytes) :
    system.saveBelow directory path content =
      ((((system.writeUnder (below directory (plainNames path))
          content).1.mapError .io).map
            fun _ => below directory (plainNames path)),
        (system.writeUnder (below directory (plainNames path)) content).2) := by
  obtain ⟨first, others, names⟩ := List.exists_cons_of_ne_nil named
  rw [saveBelow, savedNames, names]

/-- Only a path without plain names is refused as invalid; the file system has
other reasons to fail. -/
theorem saveBelow_invalidPath_iff {directory : String} {content : Bytes} :
    (∃ text, (system.saveBelow directory path content).1 =
      .error (.invalidPath text)) ↔ plainNames path = [] := by
  constructor
  · rintro ⟨text, refused⟩
    by_cases nameless : plainNames path = []
    · exact nameless
    · rw [saveBelow_of_names nameless] at refused
      cases written : (system.writeUnder (below directory (plainNames path))
          content).1 with
      | error fault =>
          rw [written] at refused
          cases refused
      | ok done =>
          rw [written] at refused
          cases refused
  · intro nameless
    exact ⟨path, by rw [saveBelow_of_no_names nameless]⟩

theorem walk_append (node : NodeId) (first second : List PathStep) :
    system.walk node (first ++ second) =
      system.walk node first >>= fun reached => system.walk reached second :=
  List.foldlM_append

/-- The way along a path that leads on from another one comes to where the
other one ends, and goes on from there along the names. -/
theorem locate_of_leadsOn {onward name : String} {names : List String}
    {node : NodeId} {only : Bool}
    (leads : LeadsOn (ofText path) (ofText onward) names)
    (named : names ≠ [])
    (located : system.locate onward = .ok (.entry node name only)) :
    names.getLast? = some name ∧ only = false ∧
      ∃ start,
        system.walk (system.origin path) (ofText path).steps = .ok start ∧
          system.walk start (names.dropLast.map .name) = .ok node := by
  obtain ⟨-, last, rfl, walked⟩ := locate_eq_entry_iff.mp located
  have further : names.map PathStep.name ≠ [] := by simpa using named
  refine ⟨?_, leads.loose, ?_⟩
  · rw [leads.steps, List.getLast?_append, List.getLast?_map] at last
    cases ends : names.getLast? with
    | none => exact absurd (List.getLast?_eq_none_iff.mp ends) named
    | some final =>
        rw [ends] at last
        cases last
        rfl
  · rw [origin, leads.absolute, leads.steps,
      List.dropLast_append_of_ne_nil further, ← List.map_dropLast,
      walk_append, bind_eq_ok_iff] at walked
    exact walked

/-- Whatever the directory and the path are, a file is saved at the path that
leads on from the directory along the segments of its own path that hold text
and are neither a dot nor double dots, in their order: along plain names alone.
So, in every file system, that path means a name in a directory that is reached
through the given one, by going on along plain names.  A path with no such
segment, and no other, is refused as invalid, and nothing is touched. -/
theorem saved_files_stay_below_their_directory (system : FileSystem)
    (directory path : String) (content : Bytes) :
    let names := (segments path).filter fun segment =>
      segment ≠ "" && segment ≠ "." && segment ≠ ".."
    let target := below directory names
    let saved := system.saveBelow directory path content
    ((∃ text, saved.1 = .error (.invalidPath text)) ↔ names = []) ∧
    (names = [] → saved = (.error (.invalidPath path), system)) ∧
    (∀ name ∈ names, IsPlain name) ∧
    (names ≠ [] →
      saved = (((system.writeUnder target content).1.mapError .io).map
          fun _ => target,
        (system.writeUnder target content).2) ∧
      LeadsOn (ofText directory) (ofText target) names ∧
      ∀ (other : FileSystem) (node : NodeId) (name : String) (only : Bool),
        other.locate target = .ok (.entry node name only) →
          names.getLast? = some name ∧
          ∃ start,
            other.walk (other.origin directory) (ofText directory).steps =
                .ok start ∧
              other.walk start (names.dropLast.map .name) = .ok node) := by
  intro names target saved
  have same : plainNames path = names := PathName.plainNames_eq_filter path
  have plain : ∀ name ∈ names, IsPlain name := fun name among =>
    PathName.isPlain_of_mem_plainNames (same ▸ among)
  refine ⟨?_, ?_, plain, ?_⟩
  · exact same ▸ saveBelow_invalidPath_iff
  · exact fun nameless => saveBelow_of_no_names (same.trans nameless) _ _
  · intro named
    have leads : LeadsOn (ofText directory) (ofText target) names :=
      PathName.leadsOn_below plain named directory
    have left : plainNames path ≠ [] := same ▸ named
    have goes : saved = _ := saveBelow_of_names left directory content
    rw [same] at goes
    refine ⟨goes, leads, ?_⟩
    intro other node name only located
    obtain ⟨last, -, way⟩ := locate_of_leadsOn leads named located
    exact ⟨last, way⟩

theorem eq_ok_of_toOption {Fault Answer : Type} {call : Except Fault Answer}
    {answer : Answer} (answers : call.toOption = some answer) :
    call = .ok answer := by
  cases call with
  | error fault => cases answers
  | ok given =>
      cases answers
      rfl

/-- The path starts at the root, goes above it and ends in double dots.  What
is left of it are two names, and the file lies behind them below the
directory. -/
theorem path_upwards_is_saved_below :
    let system : FileSystem := { workingIn "home" with here := 0 }
    let names := (segments "/../notes//./today/..").filter fun segment =>
      segment ≠ "" && segment ≠ "." && segment ≠ ".."
    let saved := system.saveBelow "home/" "/../notes//./today/.." [7]
    names = ["notes", "today"] ∧ names ≠ [] ∧
      LeadsOn (ofText "home/") (ofText "home/notes/today") names ∧
      saved.1 = .ok "home/notes/today" ∧
      saved.2.readFile "home/notes/today" = .ok [7] ∧
      saved.2.locate "home/notes/today" = .ok (.entry 2 "today" false) ∧
      ∃ start, saved.2.walk 0 [.name "home"] = .ok start ∧
        saved.2.walk start [.name "notes"] = .ok 2 := by
  intro system names saved
  have named : names ≠ [] := by decide
  have target : below "home/" names = "home/notes/today" := by rfl
  have located : saved.2.locate "home/notes/today" =
      .ok (.entry 2 "today" false) :=
    eq_ok_of_toOption (by decide +kernel)
  obtain ⟨-, -, -, ends⟩ := saved_files_stay_below_their_directory system
    "home/" "/../notes//./today/.." [7]
  obtain ⟨-, leads, way⟩ := ends named
  obtain ⟨-, start, arrives, goesOn⟩ := way saved.2 2 "today" false
    (target.symm ▸ located)
  have origin : saved.2.origin "home/" = 0 := by decide +kernel
  have steps : (ofText "home/").steps = [.name "home"] := by decide
  rw [origin, steps] at arrives
  refine ⟨by decide, named, target ▸ leads, ?_, ?_, located, start,
    arrives, goesOn⟩
  · exact eq_ok_of_toOption (by decide +kernel)
  · exact eq_ok_of_toOption (by decide +kernel)

end FileSystem

end FileDepot
