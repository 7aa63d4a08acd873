/-!
# Limits of the store

How many files and bytes a store may hold, and which of the two limits makes
room by expelling files.
-/

namespace FileDepot

/-- Which limit expels the oldest files; at the other one requests fail. -/
inductive EvictionPolicy
  | fileCount
  | byteSize
  | both
  deriving DecidableEq, Repr

namespace EvictionPolicy

/-- Whether creating a file in a full store expels another one. -/
def onFileCount : EvictionPolicy → Bool
  | byteSize => false
  | _ => true

/-- Whether writing past the byte limit expels files. -/
def onByteSize : EvictionPolicy → Bool
  | fileCount => false
  | _ => true

/-- The word for a policy in settings. -/
def keyword : EvictionPolicy → String
  | fileCount => "file_count"
  | byteSize => "byte_size"
  | both => "both"

/-- The name under which a policy is reported. -/
def name : EvictionPolicy → String
  | fileCount => "FileCount"
  | byteSize => "ByteSize"
  | both => "Both"

def all : List EvictionPolicy := [fileCount, byteSize, both]

def ofKeyword? (word : String) : Option EvictionPolicy :=
  all.find? fun policy => policy.keyword == word

/-- What is said of a word that stands for no policy. -/
def unknownKeyword (word : String) : String :=
  s!"unknown eviction policy '{word}', expected file_count, byte_size or both"

end EvictionPolicy

structure Limits where
  maxFiles : Nat := 100
  maxBytes : Nat := 67108864
  policy : EvictionPolicy := .both
  deriving DecidableEq, Repr

end FileDepot
