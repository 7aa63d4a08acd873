import FileDepot.Error
import FileDepot.Files.FileSystem

/-!
# Saving files below a directory

A client saves a file that it was handed under the file's own path, below a
directory of its choice.  Only the plain names of the path are used, so the
file cannot end up anywhere else.
-/

namespace FileDepot

/-- The names below the directory under which a file is saved.  A path without
plain names cannot be saved. -/
def savedNames (path : String) : Except Error (List String) :=
  match PathName.plainNames path with
  | [] => .error (.invalidPath path)
  | names => .ok names

namespace FileSystem

/-- Saves a file below a directory, making the directories that it needs, and
answers with the path at which it was saved. -/
def saveBelow (system : FileSystem) (directory path : String)
    (content : Bytes) : Except Error String × FileSystem :=
  match savedNames path with
  | .error error => (.error error, system)
  | .ok names =>
      let target := PathName.below directory names
      let (outcome, after) := system.writeUnder target content
      ((outcome.mapError .io).map fun _ => target, after)

/-- Saves a file below a directory, and answers with the names that lead to it
from there. -/
def saveFile (system : FileSystem) (directory path : String)
    (content : Bytes) : Except Error (List String) × FileSystem :=
  let (outcome, after) := system.saveBelow directory path content
  (outcome.map fun _ => PathName.plainNames path, after)

end FileSystem

end FileDepot
