import FileDepot.Error
import FileDepot.Store.Eviction

/-!
# Creating, writing, reading and removing files

Each operation answers with what its client has to be told and with the
store that it leaves.
-/

namespace FileDepot

namespace Store

/-- Creates an empty file, locked by its creator if asked.  A store that holds
as many files as it may expels the oldest ones if its policy says so. -/
def create (store : Store) (path : String) (client : ClientId) (lock : Bool) :
    Except Error Evicted × Store :=
  let owner := if lock then some client else none
  if store.table.contains path then
    (.error (.fileExists path), store)
  else if store.fileCount < store.limits.maxFiles then
    (.ok {}, store.insert path (.created owner))
  else if store.limits.policy.onFileCount then
    let excess := store.fileCount + 1 - store.limits.maxFiles
    match store.planVictims client none { files := excess } with
    | none => (.error .storageFull, store)
    | some victims =>
        let (evicted, smaller) := store.evict victims
        (.ok evicted, smaller.insert path (.created owner))
  else
    (.error .storageFull, store)

/-- Opens a file, and asks for its lock if wanted. -/
def «open» (store : Store) (path : String) (client : ClientId) (lock : Bool) :
    Except Error (Option LockOutcome) × Store :=
  match store.file? path with
  | none => (.error (.notFound path), store)
  | some file =>
      if lock then
        let (outcome, locked) := file.lock client
        (.ok (some outcome), store.update path locked)
      else
        (.ok none, store)

/-- Puts content into the file at a path and counts it. -/
def fill (store : Store) (path : String) (content : Bytes) :
    Except Error Unit × Store :=
  match store.file? path with
  | none => (.error (.invalidState s!"{path} vanished during write"), store)
  | some file =>
      let byteCount := store.byteCount + content.length
      (.ok (),
        { store.update path (file.fill content) with
          byteCount := byteCount
          mostBytes := max store.mostBytes byteCount })

/-- Expels the given files and then writes. -/
def fillAfter (store : Store) (victims : List String) (path : String)
    (content : Bytes) : Except Error Evicted × Store :=
  let (evicted, smaller) := store.evict victims
  let (outcome, filled) := smaller.fill path content
  (outcome.map fun _ => evicted, filled)

/-- Writes a file that was created and is locked by the client.  Content that
does not fit beside the other files expels the oldest of them if the policy
says so. -/
def write (store : Store) (path : String) (client : ClientId)
    (content : Bytes) : Except Error Evicted × Store :=
  match store.file? path with
  | none => (.error (.notFound path), store)
  | some file =>
      if content.isEmpty then
        (.error .missingBody, store)
      else if !file.unwritten then
        (.error (.fileExists path), store)
      else if file.owner ≠ some client then
        (.error (.notLockOwner path), store)
      else if store.limits.maxBytes < content.length then
        (.error (.fileTooBig content.length), store)
      else if store.byteCount + content.length ≤ store.limits.maxBytes then
        store.fillAfter [] path content
      else if store.limits.policy.onByteSize then
        let excess := store.byteCount + content.length - store.limits.maxBytes
        match store.planVictims client (some path) { bytes := excess } with
        | none => (.error .storageFull, store)
        | some victims => store.fillAfter victims path content
      else
        (.error (.fileTooBig content.length), store)

/-- Reads a file that nobody else has locked. -/
def read (store : Store) (path : String) (client : ClientId) :
    Except Error Bytes :=
  match store.file? path with
  | none => .error (.notFound path)
  | some file =>
      if file.lockedByOther client then
        .error (.lockedByOther path)
      else
        .ok file.content

/-- Reads every file, oldest first, that was written and that nobody else has
locked. -/
def readAll (store : Store) (client : ClientId) : List (String × Bytes) :=
  (store.files.filter fun entry =>
    !entry.2.lockedByOther client && !entry.2.unwritten).map fun entry =>
      (entry.1, entry.2.content)

/-- Reads up to `count` such files, or every one if `count` is not positive. -/
def readMany (store : Store) (count : Int) (client : ClientId) :
    List (String × Bytes) :=
  if count ≤ 0 then
    store.readAll client
  else
    (store.readAll client).take count.toNat

/-- Removes a file whose lock the client holds.  The clients that waited for
the lock are told of it. -/
def remove (store : Store) (path : String) (client : ClientId) :
    Except Error (List Orphan) × Store :=
  match store.file? path with
  | none => (.error (.notFound path), store)
  | some file =>
      if file.owner ≠ some client then
        (.error (.notLockOwner path), store)
      else
        match store.take path with
        | none =>
            (.error (.invalidState s!"{path} vanished during remove"), store)
        | some (removed, smaller) => (.ok (orphansOf path removed), smaller)

end Store

end FileDepot
