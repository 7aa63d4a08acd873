import FileDepot.IoFault
import FileDepot.Protocol.Status

/-!
# Errors

Everything that can go wrong, by cause.  `Error.status` says which status a
client is told, and `Error.message` gives the wording.
-/

namespace FileDepot

inductive Error
  | io (fault : IoFault)
  | peerClosed
  | decode (field : String) (fault : IoFault)
  | encode (field : String) (fault : IoFault)
  | malformed (reason : String)
  | unknownOpCode (code : UInt32)
  | unknownStatus (code : UInt32)
  | bodyTooLarge (length : Nat)
  | notConnected
  | alreadyConnected
  | notOpened (path : String)
  | invalidPath (reason : String)
  | invalidRequest (reason : String)
  | notFound (path : String)
  | fileExists (path : String)
  | notLockOwner (path : String)
  | lockedByOther (path : String)
  | missingBody
  | fileTooBig (length : Nat)
  | storageFull
  | lockFailed (fault : IoFault)
  | invalidConfig (reason : String)
  | invalidState (reason : String)
  /-- The server answered a request with a status other than success. -/
  | refused (status : Status) (path : String)
  deriving DecidableEq, Repr

namespace Error

/-- The status by which a client is told of an error. -/
def status : Error → Status
  | unknownOpCode _ | malformed _ | alreadyConnected | invalidPath _
  | invalidRequest _ => .badRequest
  | notConnected | notOpened _ | notLockOwner _ | lockedByOther _ =>
      .unauthorized
  | notFound _ => .notFound
  | fileExists _ => .fileExists
  | missingBody => .missingBody
  | fileTooBig _ | bodyTooLarge _ | storageFull => .fileTooBig
  | refused status _ => status
  | _ => .internalError

def message : Error → String
  | io fault => s!"I/O error: {fault.message}"
  | peerClosed => "Peer closed the connection"
  | decode field fault => s!"Failed to decode {field}: {fault.message}"
  | encode field fault => s!"Failed to encode {field}: {fault.message}"
  | malformed reason => s!"Malformed frame: {reason}"
  | unknownOpCode code => s!"Unknown operation code: {code}"
  | unknownStatus code => s!"Unknown status code: {code}"
  | bodyTooLarge length => s!"Body of {length} bytes exceeds the limit"
  | notConnected => "Client not connected"
  | alreadyConnected => "Client already connected"
  | notOpened path => s!"File not opened by this client: {path}"
  | invalidPath reason => s!"Invalid path: {reason}"
  | invalidRequest reason => s!"Invalid request: {reason}"
  | notFound path => s!"File not found: {path}"
  | fileExists path => s!"File already exists: {path}"
  | notLockOwner path => s!"Lock not held on {path}"
  | lockedByOther path => s!"File locked by another client: {path}"
  | missingBody => "Missing body"
  | fileTooBig length => s!"File of {length} bytes exceeds storage capacity"
  | storageFull => "Storage full, no file can be evicted"
  | lockFailed fault => s!"Lock error: {fault.message}"
  | invalidConfig reason => s!"Invalid config: {reason}"
  | invalidState reason => s!"Invalid state: {reason}"
  | refused status path =>
      if path.isEmpty then s!"Server replied {status.message}"
      else s!"Server replied {status.message} for {path}"

/-- The name under which an error is reported. -/
def name : Error → String
  | io _ => "IoError"
  | peerClosed => "PeerClosed"
  | decode _ _ => "Decode"
  | encode _ _ => "Encode"
  | malformed _ => "Malformed"
  | unknownOpCode _ => "UnknownOpCode"
  | unknownStatus _ => "UnknownStatus"
  | bodyTooLarge _ => "BodyTooLarge"
  | notConnected => "NotConnected"
  | alreadyConnected => "AlreadyConnected"
  | notOpened _ => "NotOpened"
  | invalidPath _ => "InvalidPath"
  | invalidRequest _ => "InvalidRequest"
  | notFound _ => "NotFound"
  | fileExists _ => "FileExists"
  | notLockOwner _ => "NotLockOwner"
  | lockedByOther _ => "LockedByOther"
  | missingBody => "MissingBody"
  | fileTooBig _ => "FileTooBig"
  | storageFull => "StorageFull"
  | lockFailed _ => "LockError"
  | invalidConfig _ => "InvalidConfig"
  | invalidState _ => "InvalidState"
  | refused _ _ => "Server"

/-- A frame that ends inside the given field. -/
def truncated (field : String) : Error :=
  malformed s!"truncated {field}"

end Error

end FileDepot
