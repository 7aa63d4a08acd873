import FileDepot.Error
import FileDepot.Text.Quoted

/-!
# Diagnostics

The form of an error in which a program that ends because of it names the
cause and everything that belongs to it.
-/

namespace FileDepot

/-- The name of a status in a diagnostic. -/
def Status.name : Status → String
  | success => "Success"
  | internalError => "InternalError"
  | badRequest => "BadRequest"
  | notFound => "NotFound"
  | unauthorized => "Unauthorized"
  | missingBody => "MissingBody"
  | fileTooBig => "FileTooBig"
  | filesExpelled => "FilesExpelled"
  | fileExists => "FileExists"
  | lockPending => "LockPending"

namespace Error

/-- What belongs to the cause of an error, in its diagnostic form. -/
def details : Error → Option String
  | io fault | lockFailed fault => some fault.inspect
  | decode field fault | encode field fault =>
      some s!"{Text.quoted field}, {fault.inspect}"
  | malformed text | notOpened text | invalidPath text | invalidRequest text
  | notFound text | fileExists text | notLockOwner text | lockedByOther text
  | invalidConfig text | invalidState text => some (Text.quoted text)
  | unknownOpCode code | unknownStatus code => some (toString code)
  | bodyTooLarge length | fileTooBig length => some (toString length)
  | peerClosed | notConnected | alreadyConnected | missingBody | storageFull
  | refused _ _ => none

/-- The diagnostic form of an error. -/
def inspect (error : Error) : String :=
  match error, error.details with
  | refused status path, _ =>
      s!"{error.name} \x7b status: {status.name}, "
        ++ s!"path: {Text.quoted path} \x7d"
  | _, some details => s!"{error.name}({details})"
  | _, none => error.name

end Error

end FileDepot
