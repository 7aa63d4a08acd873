import FileDepot.CommandLine
import FileDepot.Diagnostic
import FileDepot.Server
import FileDepot.Settings.Loading

/-!
# Launching a server

The settings of a server come from a file, if the command line names one, and
then from the command line.  A launch ends with a server that is bound, or
with a complaint and an exit code.
-/

namespace FileDepot

/-- The settings that a command line asks for, given the content of the file
that it names. -/
def CommandLine.settings (line : CommandLine)
    (content : String → Except IoFault Bytes) : Except Error Settings := do
  let base ← match line.config with
    | none => .ok {}
    | some path => Settings.ofFile path (content path)
  return {
    base with
    socketPath := line.socket.getD base.socketPath
    workers := line.workers.getD base.workers
    limits := {
      maxFiles := line.maxFiles.getD base.limits.maxFiles
      maxBytes := line.maxBytes.getD base.limits.maxBytes
      policy := line.evictOn.getD base.limits.policy } }

/-- What becomes of a launch. -/
inductive Launch
  | help
  | misused (error : UsageError)
  | failed (error : Error)
  | bound (server : BoundServer)
  deriving DecidableEq

namespace Launch

/-- Launches a server with the given arguments. -/
def ofArguments (arguments : List String) (process : Nat)
    (system : FileSystem) : Launch × FileSystem :=
  match CommandLine.ofArguments arguments with
  | .error error => (.misused error, system)
  | .ok .help => (.help, system)
  | .ok (.serve line) =>
      match line.settings system.readFile with
      | .error error => (.failed error, system)
      | .ok settings =>
          match BoundServer.bind settings process system with
          | (.error error, after) => (.failed error, after)
          | (.ok server, after) => (.bound server, after)

/-- The exit code of a program whose launch ended like this. -/
def exitCode : Launch → UInt32
  | help | bound _ => 0
  | failed _ => 1
  | misused _ => 2

/-- The complaint of a launch, with a line break at its end. -/
def complaint? : Launch → Option String
  | help | bound _ => none
  | failed error => some s!"Error: {error.inspect}\n"
  | misused error => some error.report

end Launch

end FileDepot
