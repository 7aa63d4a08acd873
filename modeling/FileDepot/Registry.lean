import FileDepot.Store.StoredFile

/-!
# The registry of clients

The registry names the clients in session, to whom responses may be sent that
answer no request of theirs.  A client is reached over the connection on which
it opened its session: once another connection takes its place, the client is
out of reach until it opens a session there.
-/

namespace FileDepot

/-- The clients in session. -/
structure Registry where
  members : List ClientId := []
  /-- The clients whose session was opened on a connection that is gone. -/
  outOfReach : List ClientId := []
  nodup : members.Nodup := by simp
  deriving DecidableEq

namespace Registry

def contains (registry : Registry) (client : ClientId) : Bool :=
  registry.members.contains client

def size (registry : Registry) : Nat :=
  registry.members.length

/-- Whether responses to a client in session can reach it. -/
def reaches (registry : Registry) (client : ClientId) : Bool :=
  !registry.outOfReach.contains client

/-- Adds a client, which can be reached from now on. -/
def register (registry : Registry) (client : ClientId) : Registry :=
  let outOfReach := registry.outOfReach.filter (· ≠ client)
  if known : client ∈ registry.members then
    { registry with outOfReach }
  else
    { members := client :: registry.members
      outOfReach
      nodup := List.nodup_cons.mpr ⟨known, registry.nodup⟩ }

/-- Notes that another connection takes the place of a client's own. -/
def supersede (registry : Registry) (client : ClientId) : Registry :=
  if registry.contains client then
    { registry with outOfReach := client :: registry.outOfReach }
  else
    registry

def unregister (registry : Registry) (client : ClientId) : Registry where
  members := registry.members.filter (· ≠ client)
  outOfReach := registry.outOfReach.filter (· ≠ client)
  nodup := registry.nodup.sublist List.filter_sublist

end Registry

end FileDepot
