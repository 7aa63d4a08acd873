import FileDepot.IoFault

/-!
# Path names

A path name is cut at its slashes.  Empty segments stand for nothing, a single
dot for the directory that was reached, double dots for its parent directory,
and any other segment for a name in it.
-/

namespace FileDepot

inductive PathStep
  | here
  | parent
  | name (text : String)
  deriving DecidableEq, Repr

/-- The name that a step goes to, unless it is a dot or double dots. -/
def PathStep.name? : PathStep → Option String
  | .name text => some text
  | _ => none

/-- A path cut into its segments. -/
structure PathName where
  /-- The path starts at the root. -/
  absolute : Bool
  steps : List PathStep
  /-- The path ends in a slash, so it can only mean a directory. -/
  directoryOnly : Bool
  deriving DecidableEq, Repr

namespace PathName

/-- The texts between the slashes of a path. -/
def segments (path : String) : List String :=
  (path.toList.splitOn '/').map String.ofList

/-- The step that a segment stands for. -/
def step? (segment : String) : Option PathStep :=
  if segment = "" then none
  else if segment = "." then some .here
  else if segment = ".." then some .parent
  else some (.name segment)

def ofText (path : String) : PathName :=
  let parts := segments path
  { absolute := path.startsWith "/"
    steps := parts.filterMap step?
    directoryOnly := parts.getLast? = some "" }

/-- The plain names of a path, which are left when roots, dots and double dots
are dropped. -/
def plainNames (path : String) : List String :=
  (ofText path).steps.filterMap PathStep.name?

/-- A path made of plain names. -/
def join (names : List String) : String :=
  String.intercalate "/" names

/-- The path that leads on from another one along names.  A slash comes between
them, unless the other path is empty or ends in one. -/
def below (path : String) (names : List String) : String :=
  if (ofText path).directoryOnly then path ++ join names
  else path ++ "/" ++ join names

/-- The path that is left when a path loses its last name, and with it the
slashes and dots before that name.  A root stays, and so does a dot at which
the path starts. -/
def parent (path : String) : String :=
  let upper := (segments path).dropLast
  match upper.reverse.dropWhile fun segment => segment = "" || segment = "." with
  | [] =>
      if path.startsWith "/" then "/"
      else if upper.isEmpty then ""
      else "."
  | kept => join kept.reverse

/-- The paths that lack the last names of a path, the longest one first, given
where the path starts and its names, last name first. -/
def above (start : String) : List String → List String
  | [] => []
  | _ :: upper => (start ++ join upper.reverse) :: above start upper

/-- A path and the paths of all directories above it, nearest first. -/
def lineage (path : String) : List String :=
  let names := (segments path).filter fun segment =>
    segment ≠ "" && segment ≠ "."
  path :: above (if path.startsWith "/" then "/" else "./") names.reverse

/-- The longest name of a directory entry, in bytes. -/
def maxNameLength : Nat := 255

/-- A path that is passed to the system holds fewer bytes than this. -/
def maxLength : Nat := 4096

/-- Whether a path can be passed to the system at all. -/
def check (path : String) : Except IoFault Unit :=
  if path.toList.contains (Char.ofNat 0) then
    .error .nulInName
  else if path.isEmpty then
    .error (.system .noEntry)
  else if maxLength ≤ path.utf8ByteSize then
    .error (.system .nameTooLong)
  else
    .ok ()

end PathName

end FileDepot
