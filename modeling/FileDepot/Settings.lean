import FileDepot.Error
import FileDepot.Store.Limits

/-!
# Settings of a server

Where a server listens, how many workers it has, the limits of its store, and
how often its background tasks run.
-/

namespace FileDepot

structure Settings where
  socketPath : String := "./fifostore.sock"
  workers : Nat := 4
  limits : Limits := {}
  /-- Milliseconds between scans for locks that can be handed out. -/
  lockScanInterval : Nat := 50
  /-- Seconds between reports of the counters of the store. -/
  statsInterval : Nat := 30
  deriving DecidableEq, Repr

namespace Settings

/-- Refuses settings with which no server can work. -/
def validate (settings : Settings) : Except Error Unit :=
  if settings.workers = 0 then
    .error (.invalidConfig "workers must be at least 1")
  else if settings.limits.maxFiles = 0 then
    .error (.invalidConfig "max_files must be at least 1")
  else if settings.limits.maxBytes = 0 then
    .error (.invalidConfig "max_bytes must be at least 1")
  else if settings.lockScanInterval = 0 ∨ settings.statsInterval = 0 then
    .error (.invalidConfig "intervals must be non-zero")
  else
    .ok ()

end Settings

end FileDepot
