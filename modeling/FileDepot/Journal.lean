import FileDepot.Server

/-!
# The journal

What a server puts on record from the moment it is bound until it has stopped,
and the signals that stop it.
-/

namespace FileDepot

/-- A signal that stops a server. -/
inductive Signal
  | hangUp
  | interrupt
  | quit
  | terminate
  deriving DecidableEq, Repr

namespace Signal

def all : List Signal := [hangUp, interrupt, quit, terminate]

def name : Signal → String
  | hangUp => "HUP"
  | interrupt => "INT"
  | quit => "QUIT"
  | terminate => "TERM"

def ofName? (name : String) : Option Signal :=
  all.find? fun signal => signal.name == name

/-- How a server stops at a signal. -/
def mode : Signal → ShutdownMode
  | hangUp => .graceful
  | _ => .immediate

end Signal

inductive Notice
  | bound (settings : Settings)
  | running (workers : Nat)
  | shutdownRequested (mode : ShutdownMode)
  | stopped (stats : StoreStats)
  deriving DecidableEq, Repr

namespace Notice

/-- What an entry is about. -/
def title : Notice → String
  | bound _ => "Server bound"
  | running _ => "Server running"
  | shutdownRequested _ => "Shutdown requested"
  | stopped _ => "Server stopped"

/-- The particulars of an entry. -/
def fields : Notice → String
  | bound settings =>
      s!"path={settings.socketPath} workers={settings.workers} "
        ++ s!"max_files={settings.limits.maxFiles} "
        ++ s!"max_bytes={settings.limits.maxBytes} "
        ++ s!"evict_on={settings.limits.policy.name}"
  | running workers => s!"workers={workers}"
  | shutdownRequested mode => s!"mode={mode.name}"
  | stopped stats =>
      s!"max_files_reached={stats.mostFiles} "
        ++ s!"max_bytes_reached={stats.mostBytes} "
        ++ s!"evictions={stats.evictions} files={stats.files}"

end Notice

/-- The journal of a server that nobody connects to, up to the end that a
signal makes of it. -/
def BoundServer.journal (server : BoundServer) (signal : Signal) :
    List Notice :=
  let asked := (RunningServer.start server.settings.limits).requestShutdown
    signal.mode
  [.bound server.settings, .running server.settings.workers,
    .shutdownRequested ((asked.reception.shutdown).getD signal.mode),
    .stopped asked.hub.store.stats]

end FileDepot
