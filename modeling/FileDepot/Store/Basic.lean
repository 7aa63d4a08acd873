import FileDepot.Index
import FileDepot.Store.Limits
import FileDepot.Store.StoredFile

/-!
# The store

A store keeps its files in a table by path, the order in which they were
created in a list of its own, and the number of files and bytes in counters.
`Store.insert` and `Store.take` keep the four in agreement.
-/

namespace FileDepot

/-- Files in memory, under limits. -/
structure Store where
  limits : Limits := {}
  table : Index String StoredFile := .empty
  /-- The paths of the files, oldest first. -/
  order : List String := []
  fileCount : Nat := 0
  byteCount : Nat := 0
  /-- The most files ever held at once. -/
  mostFiles : Nat := 0
  /-- The most bytes ever held at once. -/
  mostBytes : Nat := 0
  /-- The number of files expelled so far. -/
  evictions : Nat := 0
  deriving DecidableEq, Repr

structure StoreStats where
  files : Nat
  bytes : Nat
  mostFiles : Nat
  mostBytes : Nat
  evictions : Nat
  deriving DecidableEq, Repr

/-- A file expelled to make room. -/
structure EvictedFile where
  path : String
  content : Bytes
  deriving DecidableEq, Repr

/-- A client that waited for the lock of a file that is gone. -/
structure Orphan where
  client : ClientId
  path : String
  deriving DecidableEq, Repr

/-- A lock handed to a client that waited for it. -/
structure LockGrant where
  client : ClientId
  path : String
  deriving DecidableEq, Repr

/-- The files expelled by an operation, and the clients that waited for them. -/
structure Evicted where
  files : List EvictedFile := []
  orphans : List Orphan := []
  deriving DecidableEq, Repr

/-- What can be seen of a file without reading it. -/
structure FileInfo where
  size : Nat
  owner : Option ClientId
  waiters : Nat
  unwritten : Bool
  deriving DecidableEq, Repr

namespace Store

def new (limits : Limits) : Store := { limits := limits }

def file? (store : Store) (path : String) : Option StoredFile :=
  store.table.find? path

/-- Adds a file at the young end of the order. -/
def insert (store : Store) (path : String) (file : StoredFile) : Store :=
  let fileCount := store.fileCount + 1
  let byteCount := store.byteCount + file.size
  { store with
    table := store.table.insert path file
    order := store.order ++ [path]
    fileCount := fileCount
    byteCount := byteCount
    mostFiles := max store.mostFiles fileCount
    mostBytes := max store.mostBytes byteCount }

def take (store : Store) (path : String) : Option (StoredFile × Store) :=
  (store.file? path).map fun file =>
    (file,
      { store with
        table := store.table.erase path
        order := store.order.erase path
        fileCount := store.fileCount - 1
        byteCount := store.byteCount - file.size })

/-- Replaces the lock state or content of the file at a path. -/
def update (store : Store) (path : String) (file : StoredFile) : Store :=
  { store with table := store.table.modify path fun _ => file }

/-- The paths of all files, oldest first. -/
def paths (store : Store) : List String :=
  store.order

/-- The files with their paths, oldest first. -/
def files (store : Store) : List (String × StoredFile) :=
  store.order.filterMap fun path =>
    (store.file? path).map fun file => (path, file)

def stats (store : Store) : StoreStats where
  files := store.fileCount
  bytes := store.byteCount
  mostFiles := store.mostFiles
  mostBytes := store.mostBytes
  evictions := store.evictions

def info (store : Store) (path : String) : Option FileInfo :=
  (store.file? path).map fun file =>
    { size := file.size
      owner := file.owner
      waiters := file.waiters.length
      unwritten := file.unwritten }

end Store

end FileDepot
