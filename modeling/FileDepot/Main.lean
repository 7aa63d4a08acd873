import FileDepot.Journal
import FileDepot.Launch
import FileDepot.Workshop

/-!
# The program

Reads the command line and the settings, and then serves one client over the
standard streams: its requests come from standard input, and the responses go
to standard output.  The journal and complaints go to standard error.
-/

namespace FileDepot.Program

/-- The fault behind an error of the system. -/
def faultOf : IO.Error → IoFault
  | .noFileOrDirectory .. => .system .noEntry
  | .alreadyExists .. => .system .entryExists
  | .inappropriateType .. => .system .isADirectory
  | .resourceBusy .. => .system .tryAgain
  | error => .reported .other (toString error)

/-- The content of a file, if one is named. -/
def contentOf (path? : Option String) : IO (Except IoFault Bytes) := do
  match path? with
  | none => return .ok []
  | some path =>
      try
        return .ok (← IO.FS.readBinFile path).data.toList
      catch error =>
        return .error (faultOf error)

/-- Everything that comes from a stream. -/
partial def readAll (stream : IO.FS.Stream) (read : ByteArray) :
    IO ByteArray := do
  let more ← stream.read 65536
  if more.isEmpty then
    return read
  else
    readAll stream (read ++ more)

/-- Puts an entry of the journal on record. -/
def note (notice : Notice) : IO Unit :=
  IO.eprintln s!"{notice.title} {notice.fields}"

/-- Serves the client at the standard streams. -/
def serve (settings : Settings) : IO Unit := do
  note (.running settings.workers)
  let client : ClientId := 1
  let incoming := (← readAll (← IO.getStdin) .empty).data.toList
  let opened := (Workshop.new settings.limits).connect client
  let (_, served) := opened.serveAll client (Source.ofBytes incoming)
  let (receipts, closed) := served.receiveOne client
  let output ← IO.getStdout
  for receipt in receipts do
    if let .response response := receipt then
      output.write ⟨response.frame.toArray⟩
  output.flush
  note (.stopped closed.hub.store.stats)

/-- Ends the program as a launch ended. -/
def conclude (launch : Launch) : IO UInt32 := do
  if let some complaint := launch.complaint? then
    IO.eprint complaint
  return launch.exitCode

end FileDepot.Program

open FileDepot in
/-- Runs the program. -/
def main (arguments : List String) : IO UInt32 := do
  match CommandLine.ofArguments arguments with
  | .error error => Program.conclude (.misused error)
  | .ok .help => do
      IO.print CommandLine.help
      Program.conclude .help
  | .ok (.serve line) => do
      let content ← Program.contentOf line.config
      let settings := do
        let settings ← line.settings fun _ => content
        settings.validate
        return settings
      match settings with
      | .error error => Program.conclude (.failed error)
      | .ok settings => do
          Program.serve settings
          return 0
