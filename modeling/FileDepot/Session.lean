import FileDepot.Error

/-!
# Sessions

A connection starts without a session, opens one once, and from then on
remembers which files its client has opened.
-/

namespace FileDepot

/-- The protocol state of one connection. -/
inductive Session
  /-- Connected, but no session was opened yet. -/
  | unopened
  /-- In session, with the paths that the client has opened. -/
  | active (opened : List String)
  deriving DecidableEq, Repr

namespace Session

def isActive : Session → Bool
  | unopened => false
  | active _ => true

def activate : Session → Except Error Session
  | unopened => .ok (active [])
  | active _ => .error .alreadyConnected

def isOpen (session : Session) (path : String) : Bool :=
  match session with
  | unopened => false
  | active opened => opened.contains path

/-- Notes that the client opened a path. -/
def markOpen (session : Session) (path : String) : Session :=
  match session with
  | unopened => unopened
  | active opened =>
      if opened.contains path then active opened else active (path :: opened)

/-- Notes that the client closed a path. -/
def markClosed (session : Session) (path : String) : Session :=
  match session with
  | unopened => unopened
  | active opened => active (opened.filter (· ≠ path))

/-- The paths that the client has opened, once a session was opened. -/
def opened? : Session → Option (List String)
  | unopened => none
  | active opened => some opened

end Session

end FileDepot
