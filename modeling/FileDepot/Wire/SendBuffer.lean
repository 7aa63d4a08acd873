import FileDepot.Wire.Frame

/-!
# Send buffers

A client gathers the fields of a request in a buffer, which is written out
when it is full or the request is complete.  On a connection that the server
has closed nothing can be written out: a request fails at the first field for
which there is no room, or at its end, and what was gathered by then stays in
the buffer and takes room from the requests after it.
-/

namespace FileDepot

/-- The number of bytes that a send buffer can hold. -/
def sendCapacity : Nat := 8192

/-- The bytes that a client has gathered and not written out. -/
structure SendBuffer where
  held : Nat := 0
  held_le : held ≤ sendCapacity := by decide
  deriving DecidableEq, Repr

namespace SendBuffer

/-- Gathers a field, if there is room.  A field as long as the whole buffer is
never gathered. -/
def gather? (buffer : SendBuffer) (length : Nat) : Option SendBuffer :=
  if fits : length < sendCapacity ∧ buffer.held + length ≤ sendCapacity then
    some { held := buffer.held + length, held_le := fits.2 }
  else
    none

/-- Where a frame of labelled fields fails on a closed connection, and what the
buffer holds then. -/
def refuse : List (String × Bytes) → SendBuffer → Error × SendBuffer
  | [], buffer => (.encode "frame" (.system .brokenPipe), buffer)
  | (field, bytes) :: rest, buffer =>
      match buffer.gather? bytes.length with
      | some fuller => refuse rest fuller
      | none => (.encode field (.system .brokenPipe), buffer)

end SendBuffer

end FileDepot
