/-!
# Flags of an open request

An open request may ask to create the file and to lock it.  On the wire the
two wishes are the two lowest bits of a word; any other bit is refused.
-/

namespace FileDepot

/-- What an open request asks for besides opening. -/
structure OpenFlags where
  create : Bool := false
  lock : Bool := false
  deriving DecidableEq, Repr

namespace OpenFlags

/-- The word that stands for the flags. -/
def bits (flags : OpenFlags) : UInt32 :=
  (if flags.create then 1 else 0) ||| (if flags.lock then 2 else 0)

/-- The flags that a word stands for, unless it has any other bit set. -/
def ofBits? (word : UInt32) : Option OpenFlags :=
  if word &&& ~~~3 = 0 then
    some { create := word &&& 1 != 0, lock := word &&& 2 != 0 }
  else
    none

/-- Both sets of wishes together. -/
def union (first second : OpenFlags) : OpenFlags where
  create := first.create || second.create
  lock := first.lock || second.lock

/-- Whether every wish of `other` is among those of `flags`. -/
def contains (flags other : OpenFlags) : Bool :=
  (flags.create || !other.create) && (flags.lock || !other.lock)

theorem ofBits?_bits (flags : OpenFlags) : ofBits? flags.bits = some flags := by
  rcases flags with ⟨_ | _, _ | _⟩ <;> decide

end OpenFlags

end FileDepot
