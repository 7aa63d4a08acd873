import FileDepot.Proofs.Store.Tables
import FileDepot.Store.Files

/-!
# Changes of a single file

A change of the store may concern the file at one path alone: the file is
replaced by another one, or taken out of the store with everything that the
books say of it.  Changes of files at different paths do not get in each
other's way, in whichever order they are made.
-/

namespace FileDepot

/-- What becomes of the file at a path. -/
inductive FileEdit
  | keep
  | replace (file : StoredFile)
  | drop

namespace Store

/-- A store without the file that stood at a path. -/
def without (store : Store) (path : String) (file : StoredFile) : Store :=
  { store with
    table := store.table.erase path
    order := store.order.erase path
    fileCount := store.fileCount - 1
    byteCount := store.byteCount - file.size }

/-- What is to become of the file at a path is carried out; a file that is
absent stays so. -/
def edit (store : Store) (path : String) : FileEdit → Store
  | .keep => store
  | .replace file => store.update path file
  | .drop => ((store.take path).map Prod.snd).getD store

section Edits

variable {store : Store} {path other : String}

theorem edit_drop_of_found {file : StoredFile}
    (found : store.file? path = some file) :
    store.edit path .drop = store.without path file := by
  simp [edit, take, found, without]

theorem edit_drop_of_absent (absent : store.file? path = none) :
    store.edit path .drop = store := by
  simp [edit, take, absent]

theorem file?_without (file : StoredFile) :
    (store.without path file).file? other =
      if other = path then none else store.file? other :=
  store.table.find?_erase path other

theorem file?_edit_of_ne (elsewhere : other ≠ path) (edit : FileEdit) :
    (store.edit path edit).file? other = store.file? other := by
  cases edit with
  | keep => rfl
  | replace file =>
      exact (store.file?_update path other file).trans (if_neg elsewhere)
  | drop =>
      cases found : store.file? path with
      | none => rw [edit_drop_of_absent found]
      | some file =>
          rw [edit_drop_of_found found, file?_without, if_neg elsewhere]

theorem update_update_comm (elsewhere : other ≠ path)
    (file second : StoredFile) :
    (store.update path file).update other second =
      (store.update other second).update path file := by
  simp only [update, store.table.modify_modify_comm elsewhere.symm]

theorem without_update_comm (file lost : StoredFile) :
    (store.update path file).without other lost =
      (store.without other lost).update path file := by
  simp only [update, without, store.table.erase_modify_comm path other]

theorem without_without_comm (file lost : StoredFile) :
    (store.without path file).without other lost =
      (store.without other lost).without path file := by
  simp only [without, store.table.erase_erase_comm path other,
    List.erase_comm path other, Nat.sub_right_comm _ file.size lost.size]

theorem edit_replace_drop_comm (elsewhere : other ≠ path)
    (file : StoredFile) :
    (store.edit path (.replace file)).edit other .drop =
      (store.edit other .drop).edit path (.replace file) := by
  have still : (store.edit path (.replace file)).file? other =
      store.file? other := file?_edit_of_ne elsewhere _
  cases found : store.file? other with
  | none =>
      rw [edit_drop_of_absent found,
        edit_drop_of_absent (still.trans found)]
  | some lost =>
      rw [edit_drop_of_found found, edit_drop_of_found (still.trans found)]
      exact without_update_comm file lost

theorem edit_drop_drop_comm (elsewhere : other ≠ path) :
    (store.edit path .drop).edit other .drop =
      (store.edit other .drop).edit path .drop := by
  have stillOther : (store.edit path .drop).file? other = store.file? other :=
    file?_edit_of_ne elsewhere _
  have stillHere : (store.edit other .drop).file? path = store.file? path :=
    file?_edit_of_ne elsewhere.symm _
  cases here : store.file? path with
  | none =>
      rw [edit_drop_of_absent here, edit_drop_of_absent (stillHere.trans here)]
  | some file =>
      cases there : store.file? other with
      | none =>
          rw [edit_drop_of_absent there,
            edit_drop_of_absent (stillOther.trans there)]
      | some lost =>
          rw [edit_drop_of_found (stillOther.trans there),
            edit_drop_of_found (stillHere.trans here),
            edit_drop_of_found here, edit_drop_of_found there]
          exact without_without_comm file lost

/-- Files at different paths are changed in either order. -/
theorem edit_edit_comm (elsewhere : other ≠ path) (first second : FileEdit) :
    (store.edit path first).edit other second =
      (store.edit other second).edit path first := by
  cases first with
  | keep => rfl
  | replace file =>
      cases second with
      | keep => rfl
      | replace second => exact update_update_comm elsewhere file second
      | drop => exact edit_replace_drop_comm elsewhere file
  | drop =>
      cases second with
      | keep => rfl
      | replace second =>
          exact (edit_replace_drop_comm elsewhere.symm second).symm
      | drop => exact edit_drop_drop_comm elsewhere

end Edits

end Store

end FileDepot
