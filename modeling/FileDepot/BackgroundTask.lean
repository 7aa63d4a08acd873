import FileDepot.LockManager
import FileDepot.Store.Audit

/-!
# Background tasks

Two tasks run beside the workers: one hands released locks to waiting
clients, the other reports the counters of the store and audits it.
-/

namespace FileDepot

/-- What runs in the background. -/
inductive BackgroundTask
  | lockManager
  | stats
  deriving DecidableEq, Repr

namespace BackgroundTask

def name : BackgroundTask → String
  | lockManager => "lock-manager"
  | stats => "stats"

def all : List BackgroundTask := [lockManager, stats]

def ofName? (name : String) : Option BackgroundTask :=
  all.find? fun task => task.name == name

/-- One run of a task. -/
def execute (task : BackgroundTask) (hub : Hub) : Except Error Unit × Hub :=
  match task with
  | lockManager => (.ok (), hub.grantAll.2)
  | stats => (hub.store.audit, hub)

end BackgroundTask

end FileDepot
