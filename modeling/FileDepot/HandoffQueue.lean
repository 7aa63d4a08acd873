/-!
# Hand-off queues

A queue between producers and consumers that can be closed.  A closed queue
refuses new items and gives each refused item back.  An ordinary pop stops at
once when the queue is closed; a draining pop first hands out what is queued.
-/

namespace FileDepot

/-- Items on their way from producers to consumers, first in first out. -/
structure HandoffQueue (Item : Type) where
  items : List Item := []
  closed : Bool := false
  deriving DecidableEq, Repr

inductive Popped (Item : Type)
  /-- An item was handed out. -/
  | item (value : Item)
  /-- There will be no more items. -/
  | finished
  /-- The consumer has to wait. -/
  | blocked
  deriving DecidableEq, Repr

namespace HandoffQueue

variable {Item : Type}

/-- Appends an item, or gives it back if the queue is closed. -/
def push (queue : HandoffQueue Item) (item : Item) :
    Except Item Unit × HandoffQueue Item :=
  if queue.closed then
    (.error item, queue)
  else
    (.ok (), { queue with items := queue.items ++ [item] })

/-- Hands out the first item of an open queue. -/
def pop (queue : HandoffQueue Item) : Popped Item × HandoffQueue Item :=
  if queue.closed then
    (.finished, queue)
  else
    match queue.items with
    | [] => (.blocked, queue)
    | item :: rest => (.item item, { queue with items := rest })

/-- Hands out the first item, also of a closed queue. -/
def popDraining (queue : HandoffQueue Item) : Popped Item × HandoffQueue Item :=
  match queue.items with
  | item :: rest => (.item item, { queue with items := rest })
  | [] => (if queue.closed then .finished else .blocked, queue)

/-- Hands out the first item of an open queue, if there is one now. -/
def tryPop (queue : HandoffQueue Item) : Option Item × HandoffQueue Item :=
  match queue.pop with
  | (.item value, rest) => (some value, rest)
  | (_, rest) => (none, rest)

/-- Refuses items from now on. -/
def close (queue : HandoffQueue Item) : HandoffQueue Item :=
  { queue with closed := true }

end HandoffQueue

end FileDepot
