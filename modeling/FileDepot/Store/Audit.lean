import FileDepot.Error
import FileDepot.Store.Basic

/-!
# Auditing the store

The audit compares the four views that a store keeps of its files, and the
counters with the limits.
-/

namespace FileDepot

namespace Store

/-- The sum of the sizes of all files in the table. -/
def actualBytes (store : Store) : Nat :=
  store.table.total StoredFile.size

/-- Reports the first disagreement between the views of the store. -/
def audit (store : Store) : Except Error Unit :=
  if store.byteCount ≠ store.actualBytes then
    .error (.invalidState
      s!"Size mismatch: tracked {store.byteCount}, actual {store.actualBytes}")
  else if store.fileCount ≠ store.table.size ∨
      store.order.length ≠ store.table.size then
    .error (.invalidState
      (s!"Count mismatch: tracked {store.fileCount}, "
        ++ s!"table {store.table.size}, fifo {store.order.length}"))
  else
    match store.order.find? fun path => !store.table.contains path with
    | some path => .error (.invalidState s!"FIFO entry without file: {path}")
    | none =>
        if store.limits.maxBytes < store.byteCount ∨
            store.limits.maxFiles < store.fileCount then
          .error (.invalidState
            (s!"Capacity exceeded: {store.fileCount} files, "
              ++ s!"{store.byteCount} bytes"))
        else
          .ok ()

end Store

end FileDepot
