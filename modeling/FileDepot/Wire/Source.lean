import FileDepot.Bytes
import FileDepot.Error

/-!
# Arriving bytes

A reader meets its input as a sequence of arrivals: pieces of data, cut
anywhere, and faults between them.  After the last arrival the stream has
ended.  `Source.gather` asks for a number of bytes and goes on through pieces
and interruptions until it has them, the stream ends, or a fault stops it.
-/

namespace FileDepot

/-- One thing that a reader can meet next. -/
inductive Arrival
  | data (bytes : Bytes)
  | fault (cause : IoFault)
  deriving DecidableEq, Repr

def Arrival.isFault : Arrival → Bool
  | data _ => false
  | fault _ => true

/-- Input that is still to be read, first arrival first. -/
abbrev Source := List Arrival

/-- Why a reader stopped gathering. -/
inductive Ending
  | full
  | ended
  | failed (cause : IoFault)
  deriving DecidableEq, Repr

/-- The bytes that a reader gathered, and why it stopped. -/
structure Gathered where
  bytes : Bytes
  ending : Ending
  deriving DecidableEq, Repr

namespace Source

def bytes (source : Source) : Bytes :=
  source.flatMap fun
    | .data piece => piece
    | .fault _ => []

/-- The source that delivers a byte string in one piece. -/
def ofBytes (bytes : Bytes) : Source :=
  if bytes.isEmpty then [] else [.data bytes]

/-- Takes `wanted` bytes, past interruptions, as far as the source goes. -/
def gather : (wanted : Nat) → Source → Gathered × Source
  | 0, source => (⟨[], .full⟩, source)
  | _ + 1, [] => (⟨[], .ended⟩, [])
  | wanted + 1, .fault cause :: later =>
      if cause.kind = .interrupted then
        gather (wanted + 1) later
      else
        (⟨[], .failed cause⟩, later)
  | wanted + 1, .data piece :: later =>
      if piece.length ≤ wanted + 1 then
        let (gathered, rest) := gather (wanted + 1 - piece.length) later
        (⟨piece ++ gathered.bytes, gathered.ending⟩, rest)
      else
        (⟨piece.take (wanted + 1), .full⟩,
          .data (piece.drop (wanted + 1)) :: later)

/-- Cuts a piece into pieces of at most `size + 1` bytes. -/
def cutPiece (size : Nat) (piece : Bytes) : List Bytes :=
  let rest := piece.drop (size + 1)
  if _last : rest.isEmpty then
    [piece]
  else
    piece.take (size + 1) :: cutPiece size rest
termination_by piece.length
decreasing_by
  have longer : size + 1 < piece.length := by
    simpa [rest] using _last
  simp only [List.length_drop]
  omega

/-- What a reader meets that takes at most `size` bytes at a time.  Taking no
byte means that the stream has ended, so a reader that takes none at a time
meets the faults before the first piece, and then the end. -/
def cut : (size : Nat) → Source → Source
  | 0, source => source.takeWhile Arrival.isFault
  | size + 1, source =>
      source.flatMap fun
        | .data piece => (cutPiece size piece).map .data
        | .fault cause => [.fault cause]

end Source

/-- A reader of a source: it may fail, and leaves what it has not read. -/
abbrev Reading := EStateM Error Source

namespace Reading

/-- Gathers bytes without judging how the gathering ended. -/
def gather (wanted : Nat) : Reading Gathered := fun source =>
  let (gathered, rest) := source.gather wanted
  .ok gathered rest

/-- The code that opens a frame.  A source that ends, or is reset, before the
first byte was closed by the peer; a later end breaks the frame. -/
def code (field : String) : Reading UInt32 := do
  let gathered ← gather 4
  match gathered.ending with
  | .full => return UInt32.ofNat (Bytes.value gathered.bytes)
  | .ended =>
      throw (if gathered.bytes.isEmpty then .peerClosed else .truncated field)
  | .failed cause =>
      throw (if gathered.bytes.isEmpty && cause.kind = .connectionReset then
        .peerClosed else .decode field cause)

/-- A field of known width.  A fault that reports an early end counts as one. -/
def exactly (field : String) (width : Nat) : Reading Bytes := do
  let gathered ← gather width
  match gathered.ending with
  | .full => return gathered.bytes
  | .ended => throw (.truncated field)
  | .failed cause =>
      throw (if cause.kind = .unexpectedEnd then
        .truncated field else .decode field cause)

def length (field : String) : Reading Nat := do
  return Bytes.value (← exactly field 8)

/-- A field whose length was announced.  Every fault is reported as such. -/
def announced (field : String) (length : Nat) : Reading Bytes := do
  let gathered ← gather length
  match gathered.ending with
  | .full => return gathered.bytes
  | .ended => throw (.truncated field)
  | .failed cause => throw (.decode field cause)

/-- Reads again and again for as long as a result leaves the reader at the
start of a frame: a value, or an error that `inStep` accepts.  Each result
comes with what is left to read after it. -/
def series {Value : Type} (read : Reading Value) (inStep : Error → Bool) :
    (fuel : Nat) → Source → List (Except Error Value × Source)
  | 0, _ => []
  | fuel + 1, source =>
      match read source with
      | .ok value rest => (.ok value, rest) :: series read inStep fuel rest
      | .error error rest =>
          if inStep error then
            (.error error, rest) :: series read inStep fuel rest
          else
            [(.error error, rest)]

/-- Every result of repeated reading.  A frame has at least one byte, so there
are at most as many results as bytes, and one for the end. -/
def results {Value : Type} (read : Reading Value) (inStep : Error → Bool)
    (source : Source) : List (Except Error Value × Source) :=
  series read inStep (source.bytes.length + 1) source

end Reading

end FileDepot
