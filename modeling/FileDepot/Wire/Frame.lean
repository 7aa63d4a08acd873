import FileDepot.Protocol.Request
import FileDepot.Protocol.Response
import FileDepot.Wire.Sink
import FileDepot.Wire.Source

/-!
# Frames

The layout of requests and responses on the wire.  A request is

    operation (4) | path length (8) | path | body length (8) | body

and a response is

    status (4) | phrase (64) | path length (8) | path | body length (8) | body

with all numbers little-endian.  `Request.frame` and `Response.frame` are the
layouts as byte strings; `Request.encode` and `Response.encode` write them to
a sink, and `Request.decode` and `Response.decode` read them back.
-/

namespace FileDepot

/-- The width of the phrase field of a response. -/
def phraseWidth : Nat := 64

/-- The phrase field: the message of the status, cut so that a zero follows,
and padded with zeros. -/
def Status.phrase (status : Status) : Bytes :=
  let text := (Bytes.ofText status.message).take (phraseWidth - 1)
  text ++ List.replicate (phraseWidth - text.length) 0

/-- A field of any length, behind its length. -/
def measuredField (field : String) (bytes : Bytes) : List (String × Bytes) :=
  [(field, Bytes.ofNat 8 bytes.length), (field, bytes)]

/-- The path of a frame: at most `maxPathLength` bytes of UTF-8. -/
def Reading.path : Reading String := do
  let length ← Reading.length "path_len"
  if maxPathLength < length then
    throw (.malformed s!"path of {length} bytes exceeds {maxPathLength}")
  match Bytes.text? (← announced "path" length) with
  | some path => return path
  | none => throw (.malformed "path is not valid UTF-8")

namespace Request

/-- The labelled fields of a request frame. -/
def fields (request : Request) : List (String × Bytes) :=
  ("op", Bytes.ofNat 4 request.operation.code.toNat)
    :: measuredField "path" (Bytes.ofText request.path)
    ++ measuredField "body" request.body

def frame (request : Request) : Bytes :=
  request.fields.flatMap (·.2)

def encode (request : Request) : Writing Unit := do
  Writing.fields request.fields
  Writing.flush

/-- Reads one request frame.  A body above `bodyLimit` is read to its end and
refused, and an operation code is looked up only after the whole frame, so
both refusals leave the reader at the next frame. -/
def decode (bodyLimit : Nat) : Reading Request := do
  let code ← Reading.code "op"
  let path ← Reading.path
  let length ← Reading.length "body_len"
  let body ← Reading.announced "body" length
  if bodyLimit < length then
    throw (.bodyTooLarge length)
  match OpCode.ofCode? code with
  | some operation => return { operation, path, body }
  | none => throw (.unknownOpCode code)

/-- Whether the reader stands at the next frame after an error of `decode`. -/
def keepsStep : Error → Bool
  | .bodyTooLarge _ | .unknownOpCode _ => true
  | _ => false

end Request

namespace Response

/-- The labelled fields of a response frame. -/
def fields (response : Response) : List (String × Bytes) :=
  ("status", Bytes.ofNat 4 response.status.code.toNat)
    :: ("phrase", response.status.phrase)
    :: measuredField "path" (Bytes.ofText response.path)
    ++ measuredField "body" response.body

def frame (response : Response) : Bytes :=
  response.fields.flatMap (·.2)

def encode (response : Response) : Writing Unit := do
  Writing.fields response.fields
  Writing.flush

/-- Writes several responses back to back, with one flush at the end. -/
def encodeAll (responses : List Response) : Writing Unit := do
  Writing.fields (responses.flatMap fields)
  Writing.flush

/-- Reads one response frame.  The phrase is skipped, and the status is looked
up after the whole frame. -/
def decode : Reading Response := do
  let code ← Reading.code "status"
  let _ ← Reading.exactly "phrase" phraseWidth
  let path ← Reading.path
  let length ← Reading.length "body_len"
  let body ← Reading.announced "body" length
  match Status.ofCode? code with
  | some status => return { status, path, body }
  | none => throw (.unknownStatus code)

/-- Whether the reader stands at the next frame after an error of `decode`. -/
def keepsStep : Error → Bool
  | .unknownStatus _ => true
  | _ => false

end Response

end FileDepot
