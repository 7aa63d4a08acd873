import FileDepot.Files.PathName

/-!
# The segments of a path

A path is cut at its slashes.  Where two texts are put together, the last
segment of the first and the first segment of the second become one, and names
that were joined by slashes are cut where they were joined.  So a path that
leads on from another one along plain names takes the steps of that path and
then a step to each of the names.
-/

namespace FileDepot

/-- The part in which a text ends and the part in which another one begins
become one part of both together. -/
theorem splitOn_append (separator : Char) (text : List Char) :
    ∃ front last, text.splitOn separator = front ++ [last] ∧
      ∀ more first others, more.splitOn separator = first :: others →
        (text ++ more).splitOn separator =
          front ++ (last ++ first) :: others := by
  induction text with
  | nil => exact ⟨[], [], rfl, fun more first others begins => begins⟩
  | cons letter rest ih =>
      obtain ⟨front, last, split, extended⟩ := ih
      simp only [List.cons_append, List.splitOn_cons_eq_if_modifyHead, split]
      by_cases cut : (letter == separator) = true
      · refine ⟨[] :: front, last, by simp [cut], ?_⟩
        intro more first others begins
        simp [cut, extended more first others begins]
      · -- The letter joins the first part, which may also be the last one.
        cases front with
        | nil =>
            refine ⟨[], letter :: last, by simp [cut], ?_⟩
            intro more first others begins
            simp [cut, extended more first others begins]
        | cons head front =>
            refine ⟨(letter :: head) :: front, last, by simp [cut], ?_⟩
            intro more first others begins
            simp [cut, extended more first others begins]

theorem not_mem_of_mem_splitOn {separator : Char} {text part : List Char}
    (listed : part ∈ text.splitOn separator) : separator ∉ part := by
  induction text generalizing part with
  | nil =>
      rw [List.splitOn_nil, List.mem_singleton] at listed
      rw [listed]
      exact List.not_mem_nil
  | cons letter rest ih =>
      rw [List.splitOn_cons_eq_if_modifyHead] at listed
      by_cases cut : (letter == separator) = true
      · rw [if_pos cut] at listed
        rcases List.mem_cons.mp listed with rfl | later
        · exact List.not_mem_nil
        · exact ih later
      · rw [if_neg cut] at listed
        have differs : separator ≠ letter := fun same => cut (by simp [same])
        cases split : rest.splitOn separator with
        | nil => exact absurd split (List.splitOn_ne_nil separator rest)
        | cons first others =>
            rw [split, List.modifyHead_cons] at listed
            rw [split] at ih
            rcases List.mem_cons.mp listed with rfl | later
            · rw [List.mem_cons, not_or]
              exact ⟨differs, ih List.mem_cons_self⟩
            · exact ih (List.mem_cons_of_mem _ later)

namespace PathName

theorem segments_append (path : String) :
    ∃ front last, segments path = front ++ [last] ∧
      ∀ more first others, segments more = first :: others →
        segments (path ++ more) = front ++ (last ++ first) :: others := by
  obtain ⟨front, last, split, extended⟩ := splitOn_append '/' path.toList
  refine ⟨front.map String.ofList, String.ofList last, ?_, ?_⟩
  · rw [segments, split, List.map_append]
    rfl
  · intro more first others begins
    obtain ⟨part, parts, cut, rfl, rfl⟩ := List.map_eq_cons_iff.mp begins
    rw [segments, String.toList_append, extended _ _ _ cut, List.map_append,
      List.map_cons, String.ofList_append]

theorem segments_slash (path : String) :
    segments ("/" ++ path) = "" :: segments path := by
  have letters : ("/" ++ path).toList = '/' :: path.toList :=
    String.toList_append
  rw [segments, letters, List.splitOn_cons_eq_if_modifyHead,
    if_pos (beq_self_eq_true '/')]
  rfl

/-- A name that can stand in a directory: there is text in it, but no slash,
and it is not one of the names made of dots that mean a directory. -/
structure IsPlain (name : String) : Prop where
  ne_empty : name ≠ ""
  ne_dot : name ≠ "."
  ne_dots : name ≠ ".."
  uncut : '/' ∉ name.toList

theorem IsPlain.step? {name : String} (plain : IsPlain name) :
    PathName.step? name = some (.name name) := by
  rw [PathName.step?, if_neg plain.ne_empty, if_neg plain.ne_dot,
    if_neg plain.ne_dots]

/-- The plain names of a path are its segments but for those that hold no text
or stand for dots or double dots. -/
theorem plainNames_eq_filter (path : String) :
    plainNames path = (segments path).filter fun segment =>
      segment ≠ "" && segment ≠ "." && segment ≠ ".." := by
  have kept (segment : String) :
      (step? segment).bind PathStep.name? =
        Option.guard (fun segment =>
          segment ≠ "" && segment ≠ "." && segment ≠ "..") segment := by
    by_cases empty : segment = ""
    · simp [step?, Option.guard, empty]
    by_cases dot : segment = "."
    · simp [step?, PathStep.name?, Option.guard, dot]
    by_cases dots : segment = ".."
    · simp [step?, PathStep.name?, Option.guard, dots]
    · simp [step?, PathStep.name?, Option.guard, empty, dot, dots]
  rw [plainNames, ofText, List.filterMap_filterMap, funext kept,
    List.filterMap_eq_filter]

theorem isPlain_of_mem_plainNames {path name : String}
    (listed : name ∈ plainNames path) : IsPlain name := by
  rw [plainNames_eq_filter, List.mem_filter] at listed
  obtain ⟨cut, kept⟩ := listed
  simp only [Bool.and_eq_true, decide_eq_true_eq] at kept
  obtain ⟨⟨filled, noDot⟩, noDots⟩ := kept
  obtain ⟨part, parted, rfl⟩ := List.mem_map.mp cut
  have uncut := not_mem_of_mem_splitOn parted
  exact ⟨filled, noDot, noDots, String.toList_ofList ▸ uncut⟩

section Plain

variable {names : List String} (plain : ∀ name ∈ names, IsPlain name)

include plain

theorem filterMap_step? : names.filterMap step? = names.map .name := by
  induction names with
  | nil => rfl
  | cons first others ih =>
      have later := ih fun name among =>
        plain name (List.mem_cons_of_mem _ among)
      rw [List.filterMap_cons_some (plain first List.mem_cons_self).step?,
        List.map_cons, later]

/-- Names that were joined come apart again. -/
theorem segments_join (named : names ≠ []) :
    segments (join names) = names := by
  have uncut : ∀ part ∈ names.map String.toList, '/' ∉ part := by
    intro part listed
    obtain ⟨name, among, rfl⟩ := List.mem_map.mp listed
    exact (plain name among).uncut
  have parts : (names.map String.toList) ≠ [] := by simpa using named
  have slash : "/".toList = ['/'] := rfl
  rw [segments, join, String.toList_intercalate, slash,
    List.splitOn_intercalate '/' uncut parts, List.map_map]
  exact (List.map_congr_left fun name _ => String.ofList_toList).trans
    (List.map_id names)

/-- The names are the last segments of a path that leads on along them, and
the segments before them stand for the steps of the path it leads on from. -/
theorem segments_below (named : names ≠ []) (path : String) :
    ∃ front, segments (below path names) = front ++ names ∧
      front.filterMap step? = (ofText path).steps := by
  obtain ⟨front, last, split, extended⟩ := segments_append path
  obtain ⟨first, others, rfl⟩ := List.exists_cons_of_ne_nil named
  have joined := segments_join plain named
  by_cases bare : last = ""
  · subst bare
    have ends : (ofText path).directoryOnly = true := by simp [ofText, split]
    refine ⟨front, ?_, ?_⟩
    · rw [below, if_pos ends, extended _ _ _ joined, String.empty_append]
    · simp [ofText, split, PathName.step?]
  · have ends : ¬ (ofText path).directoryOnly = true := by
      simp [ofText, split, bare]
    have slashed : segments ("/" ++ join (first :: others)) =
        "" :: first :: others := by
      rw [segments_slash, joined]
    refine ⟨front ++ [last], ?_, ?_⟩
    · rw [below, if_neg ends, String.append_assoc, extended _ _ _ slashed,
        String.append_empty, List.append_assoc]
      rfl
    · rw [ofText, split]

end Plain

/-- A path leads on from another one along names: it starts where the other
one starts, takes the same steps, and then a step to each name. -/
structure LeadsOn (path onward : PathName) (names : List String) : Prop where
  absolute : onward.absolute = path.absolute
  steps : onward.steps = path.steps ++ names.map .name
  loose : onward.directoryOnly = false

theorem absolute_append {path : String} (filled : path ≠ "") (more : String) :
    (ofText (path ++ more)).absolute = (ofText path).absolute := by
  simp only [ofText]
  rw [Bool.eq_iff_iff, String.startsWith_string_iff,
    String.startsWith_string_iff, String.toList_append]
  cases letters : path.toList with
  | nil => exact absurd (String.toList_eq_nil_iff.mp letters) filled
  | cons first rest => simp

theorem segments_of_absolute {path : String}
    (absolute : (ofText path).absolute = true) :
    ∃ rest, segments path = "" :: rest := by
  obtain ⟨letters, begins⟩ := String.startsWith_string_iff.mp absolute
  have whole : path = "/" ++ String.ofList letters := by
    apply String.toList_inj.mp
    simp only [String.toList_append, String.toList_ofList]
    exact begins.symm
  rw [whole, segments_slash]
  exact ⟨_, rfl⟩

/-- The path below another one leads on from it along the names, whatever the
other one ends in. -/
theorem leadsOn_below {names : List String}
    (plain : ∀ name ∈ names, IsPlain name) (named : names ≠ [])
    (path : String) :
    LeadsOn (ofText path) (ofText (below path names)) names := by
  obtain ⟨front, segmented, steps⟩ := segments_below plain named path
  constructor
  · by_cases empty : path = ""
    · -- Nothing comes before the names, and no name begins with a slash.
      have relative : ¬ (ofText (join names)).absolute = true := by
        intro absolute
        obtain ⟨rest, begins⟩ := segments_of_absolute absolute
        rw [segments_join plain named] at begins
        exact (plain "" (begins ▸ List.mem_cons_self)).ne_empty rfl
      have ends : (ofText "").directoryOnly = true := by decide
      rw [empty, below, if_pos ends, String.empty_append,
        Bool.eq_false_iff.mpr relative]
      decide
    · by_cases ends : (ofText path).directoryOnly = true
      · rw [below, if_pos ends, absolute_append empty]
      · rw [below, if_neg ends, String.append_assoc, absolute_append empty]
  · rw [← steps, ← filterMap_step? plain, ← List.filterMap_append,
      ← segmented]
    rfl
  · have last := (plain _ (names.getLast_mem named)).ne_empty
    simp [ofText, segmented, List.getLast?_append,
      List.getLast?_eq_some_getLast named, last]

end PathName

end FileDepot
