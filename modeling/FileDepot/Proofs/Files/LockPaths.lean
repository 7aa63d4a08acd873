import FileDepot.Files.LockFile
import FileDepot.Proofs.Files.PathSegments

/-!
# The path of a lock file

The path of a lock file ends in a plain name, whatever the socket path ends
in.  Where the socket path ends in a plain name too, both paths lead to one
directory, and the names differ by the suffix of lock files alone.
-/

namespace FileDepot

open PathName (segments step? ofText check)

namespace LockFile

theorem segments_pathFor (path : String) :
    ∃ front last, segments path = front ++ [last] ∧
      segments (pathFor path) = front ++ [last ++ ".lock"] := by
  obtain ⟨front, last, split, extended⟩ := PathName.segments_append path
  exact ⟨front, last, split, extended ".lock" ".lock" [] (by decide)⟩

theorem absolute_pathFor (path : String) :
    (ofText (pathFor path)).absolute = (ofText path).absolute := by
  by_cases empty : path = ""
  · subst empty
    decide +kernel
  · exact PathName.absolute_append empty ".lock"

/-- A name with the suffix of lock files is neither empty nor made of dots
alone. -/
theorem step?_lockName (name : String) :
    step? (name ++ ".lock") = some (.name (name ++ ".lock")) := by
  have long : (name ++ ".lock").length = name.length + 5 :=
    String.length_append name ".lock"
  have differs (other : String) (short : other.length < 5) :
      name ++ ".lock" ≠ other := by
    intro same
    rw [same] at long
    omega
  rw [step?, if_neg (differs "" (by decide)), if_neg (differs "." (by decide)),
    if_neg (differs ".." (by decide))]

theorem ofText_pathFor (path : String) :
    (ofText (pathFor path)).directoryOnly = false ∧
      ∃ name, (ofText (pathFor path)).steps.getLast? =
        some (.name (name ++ ".lock")) := by
  obtain ⟨front, last, -, extended⟩ := segments_pathFor path
  constructor
  · have long : last ++ ".lock" ≠ "" := by
      intro same
      have plain := step?_lockName last
      rw [same] at plain
      cases plain
    simp [ofText, extended, long]
  · exact ⟨last, by simp [ofText, extended, step?_lockName]⟩

/-- A segment with text in it stands for a step, and where that is a name, it
is the segment itself. -/
theorem step?_some {segment : String} (filled : segment ≠ "") :
    ∃ step, step? segment = some step ∧
      ∀ name, step = .name name → name = segment := by
  rw [step?, if_neg filled]
  by_cases dot : segment = "."
  · exact ⟨.here, if_pos dot, fun _ same => by cases same⟩
  by_cases dots : segment = ".."
  · exact ⟨.parent, by rw [if_neg dot, if_pos dots],
      fun _ same => by cases same⟩
  · exact ⟨.name segment, by rw [if_neg dot, if_neg dots],
      fun _ same => (PathStep.name.inj same).symm⟩

/-- A path that names something other than a directory ends in that name. -/
theorem last_segment {path name : String}
    (named : (ofText path).steps.getLast? = some (.name name))
    (loose : (ofText path).directoryOnly = false) {front : List String}
    {last : String} (split : segments path = front ++ [last]) :
    last = name ∧
      (ofText path).steps = front.filterMap step? ++ [.name name] := by
  have filled : last ≠ "" := by
    rintro rfl
    simp [ofText, split] at loose
  obtain ⟨step, stands, only⟩ := step?_some filled
  have steps : (ofText path).steps = front.filterMap step? ++ [step] := by
    simp [ofText, split, stands]
  rw [steps, List.getLast?_concat, Option.some.injEq] at named
  exact ⟨(only name named).symm, named ▸ steps⟩

/-- What becomes of the last name of a path in the path of its lock file. -/
theorem steps_pathFor {path name : String}
    (named : (ofText path).steps.getLast? = some (.name name))
    (loose : (ofText path).directoryOnly = false) :
    (ofText (pathFor path)).steps =
      (ofText path).steps.dropLast ++ [.name (name ++ ".lock")] := by
  obtain ⟨front, last, split, extended⟩ := segments_pathFor path
  obtain ⟨rfl, steps⟩ := last_segment named loose split
  rw [steps, List.dropLast_concat]
  simp [ofText, extended, step?_lockName]

theorem last_suffix_intercalate (separator : Char) (front : List (List Char))
    (last : List Char) :
    last <:+ [separator].intercalate (front ++ [last]) := by
  induction front with
  | nil => simp [List.intercalate]
  | cons first rest ih =>
      cases rest with
      | nil => exact ⟨first ++ [separator], by simp [List.intercalate]⟩
      | cons second others =>
          exact ih.trans ⟨first ++ [separator], by simp [List.intercalate]⟩

theorem eq_pathFor_of_last_name {path name : String}
    (named : (ofText path).steps.getLast? = some (.name (name ++ ".lock")))
    (loose : (ofText path).directoryOnly = false) :
    ∃ stem, path = pathFor stem := by
  obtain ⟨front, last, split, -⟩ := splitOn_append '/' path.toList
  have segmented : segments path =
      front.map String.ofList ++ [String.ofList last] := by
    rw [segments, split, List.map_append]
    rfl
  obtain ⟨ends, -⟩ := last_segment named loose segmented
  have whole : ['/'].intercalate (path.toList.splitOn '/') = path.toList :=
    List.intercalate_splitOn '/'
  rw [split] at whole
  obtain ⟨before, joined⟩ := last_suffix_intercalate '/' front last
  rw [whole] at joined
  refine ⟨String.ofList before ++ name, ?_⟩
  rw [pathFor, String.append_assoc, ← ends, ← String.ofList_append, joined,
    String.ofList_toList]

end LockFile

namespace FileSystem

theorem bind_eq_ok_iff {Fault Answer Result : Type}
    {call : Except Fault Answer} {next : Answer → Except Fault Result}
    {result : Result} :
    call >>= next = .ok result ↔
      ∃ answer, call = .ok answer ∧ next answer = .ok result := by
  cases call with
  | error fault =>
      constructor
      · exact fun failed => by cases failed
      · rintro ⟨_, failed, -⟩
        cases failed
  | ok answer =>
      constructor
      · exact fun success => ⟨answer, rfl, success⟩
      · rintro ⟨_, same, success⟩
        cases same
        exact success

theorem mapError_eq_ok_iff {Fault Other Answer : Type}
    {call : Except Fault Answer} {rename : Fault → Other} {answer : Answer} :
    call.mapError rename = .ok answer ↔ call = .ok answer := by
  cases call with
  | error fault => constructor <;> exact fun failed => by cases failed
  | ok reached =>
      constructor <;>
        · intro same
          cases same
          rfl

/-- Where the walk along a path starts. -/
def origin (system : FileSystem) (path : String) : NodeId :=
  if (ofText path).absolute then system.root else system.here

theorem locate_eq_entry_iff {system : FileSystem} {path name : String}
    {directory : NodeId} {only : Bool} :
    system.locate path = .ok (.entry directory name only) ↔
      check path = .ok () ∧
        (ofText path).steps.getLast? = some (.name name) ∧
        (ofText path).directoryOnly = only ∧
        system.walk (system.origin path) (ofText path).steps.dropLast =
          .ok directory := by
  have start : (if (ofText path).absolute then system.root
      else system.here) = system.origin path := rfl
  rw [locate, bind_eq_ok_iff]
  simp only [start]
  constructor
  · rintro ⟨_, passed, placed⟩
    refine ⟨passed, ?_⟩
    split at placed
    next last named =>
      obtain ⟨reached, walked, placed⟩ := bind_eq_ok_iff.mp placed
      rw [mapError_eq_ok_iff] at walked
      cases placed
      exact ⟨named, rfl, walked⟩
    next unnamed =>
      obtain ⟨reached, -, placed⟩ := bind_eq_ok_iff.mp placed
      cases placed
  · rintro ⟨passed, named, rfl, walked⟩
    refine ⟨(), passed, ?_⟩
    simp only [named]
    exact bind_eq_ok_iff.mpr
      ⟨directory, mapError_eq_ok_iff.mpr walked, rfl⟩

/-- The lock file of a path that ends in a plain name lies beside it. -/
theorem locate_pathFor {system : FileSystem} {path name : String}
    {directory : NodeId}
    (located : system.locate path = .ok (.entry directory name false))
    (passed : check (LockFile.pathFor path) = .ok ()) :
    system.locate (LockFile.pathFor path) =
      .ok (.entry directory (name ++ ".lock") false) := by
  obtain ⟨-, named, loose, walked⟩ := locate_eq_entry_iff.mp located
  have steps := LockFile.steps_pathFor named loose
  refine locate_eq_entry_iff.mpr
    ⟨passed, ?_, (LockFile.ofText_pathFor path).1, ?_⟩
  · rw [steps, List.getLast?_concat]
  · rw [steps, List.dropLast_concat, origin, LockFile.absolute_pathFor]
    exact walked

/-- A path that stands for a lock file is the path of a lock file. -/
theorem eq_pathFor_of_locate {system : FileSystem} {path other name : String}
    {directory : NodeId}
    (here : system.locate path = .ok (.entry directory name false))
    (lock : system.locate (LockFile.pathFor other) =
      .ok (.entry directory name false)) :
    ∃ stem, path = LockFile.pathFor stem := by
  obtain ⟨-, named, loose, -⟩ := locate_eq_entry_iff.mp here
  obtain ⟨-, lockNamed, -, -⟩ := locate_eq_entry_iff.mp lock
  obtain ⟨-, last, ends⟩ := LockFile.ofText_pathFor other
  rw [ends, Option.some.injEq, PathStep.name.injEq] at lockNamed
  rw [← lockNamed] at named
  exact LockFile.eq_pathFor_of_last_name named loose

end FileSystem

end FileDepot
