import FileDepot.Store.Basic

/-!
# Making room

Files are expelled strictly from the oldest on.  The victims of a request are
chosen before any is expelled, so a request that cannot be met leaves the
store as it was.
-/

namespace FileDepot

/-- How many files and bytes are still to be freed. -/
structure Shortfall where
  files : Nat := 0
  bytes : Nat := 0
  deriving DecidableEq, Repr

namespace Shortfall

def met (need : Shortfall) : Bool :=
  need.files = 0 && need.bytes = 0

/-- What is left to be freed once a file is gone. -/
def less (need : Shortfall) (file : StoredFile) : Shortfall where
  files := need.files - 1
  bytes := need.bytes - file.size

end Shortfall

namespace Store

/-- Whether a file is passed over when victims are chosen: it is spared,
somebody else holds its lock, or it is empty when only bytes are wanting. -/
def passesOver (spared : Option String) (requester : ClientId)
    (need : Shortfall) (path : String) (file : StoredFile) : Bool :=
  spared = some path || file.lockedByOther requester ||
    (need.files = 0 && file.size = 0)

/-- Chooses victims along the given paths until the shortfall is met, or fails
when they cannot meet it. -/
def chooseVictims (store : Store) (requester : ClientId)
    (spared : Option String) : List String → Shortfall → Option (List String)
  | [], need => if need.met then some [] else none
  | path :: younger, need =>
      if need.met then
        some []
      else
        match store.file? path with
        | none => store.chooseVictims requester spared younger need
        | some file =>
            if passesOver spared requester need path file then
              store.chooseVictims requester spared younger need
            else
              (store.chooseVictims requester spared younger
                (need.less file)).map (path :: ·)

/-- The files to expel, oldest first, so that the shortfall is met. -/
def planVictims (store : Store) (requester : ClientId)
    (spared : Option String) (need : Shortfall) : Option (List String) :=
  store.chooseVictims requester spared store.order need

/-- The orphans that a lost file leaves, in the order of its queue. -/
def orphansOf (path : String) (file : StoredFile) : List Orphan :=
  file.waiters.map fun client => { client, path }

/-- Expels the given files, one after the other. -/
def evict : List String → Store → Evicted × Store
  | [], store => ({}, store)
  | path :: others, store =>
      match store.take path with
      | none => evict others store
      | some (file, smaller) =>
          let (evicted, after) :=
            evict others { smaller with evictions := smaller.evictions + 1 }
          ({ files := ⟨path, file.content⟩ :: evicted.files
             orphans := orphansOf path file ++ evicted.orphans }, after)

end Store

end FileDepot
