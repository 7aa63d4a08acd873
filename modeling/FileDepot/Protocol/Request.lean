import FileDepot.Bytes
import FileDepot.Error
import FileDepot.Protocol.OpCode
import FileDepot.Protocol.OpenFlags

/-!
# Requests

A request names an operation and a path, and carries a body whose meaning
depends on the operation: flags when a file is opened, a count when many
files are read, content when a file is written.
-/

namespace FileDepot

/-- The longest path that a frame may carry, in bytes. -/
def maxPathLength : Nat := 4096

/-- The width of a file count in a request body. -/
def countWidth : Nat := 8

/-- The width of open flags in a request body. -/
def flagsWidth : Nat := 4

structure Request where
  operation : OpCode
  path : String := ""
  body : Bytes := []
  deriving DecidableEq, Repr

namespace Request

def openFile (path : String) (flags : OpenFlags) : Request where
  operation := .openFile
  path := path
  body := Bytes.ofNat flagsWidth flags.bits.toNat

/-- The request that reads up to `count` files. -/
def readNFiles (count : Int) : Request where
  operation := .readNFiles
  body := Bytes.ofInt countWidth count

/-- The flags in the body; an empty body asks for nothing special. -/
def flags (request : Request) : Except Error OpenFlags :=
  if request.body.length = 0 then
    .ok {}
  else if request.body.length = flagsWidth then
    let word := UInt32.ofNat (Bytes.value request.body)
    match OpenFlags.ofBits? word with
    | some flags => .ok flags
    | none =>
        let digits := String.ofList (Nat.toDigits 16 word.toNat)
        .error (.invalidRequest s!"unknown open flags 0x{digits}")
  else
    .error (.invalidRequest
      s!"open flags must be {flagsWidth} bytes, got {request.body.length}")

/-- The file count in the body; an empty body stands for zero. -/
def count (request : Request) : Except Error Int :=
  if request.body.length = 0 then
    .ok 0
  else if request.body.length = countWidth then
    .ok (Bytes.signed request.body)
  else
    .error (.invalidRequest
      s!"file count must be {countWidth} bytes, got {request.body.length}")

end Request

end FileDepot
