import FileDepot.HandoffQueue
import Mathlib.Data.List.Basic

/-!
# Queues that are shared

Producers and consumers share a hand-off queue, of which one of them gets hold
at a time.  A consumer whose pop finds the queue open and empty is parked
inside its call and tries again whenever it is woken, be it in vain.  Calls are
recorded as they complete.  What the record says of pushes and pops is all
there is to know of the queue: nothing gets lost, nothing is handed out twice,
and nothing overtakes.
-/

namespace FileDepot

/-- What can be asked of a hand-off queue. -/
inductive QueueCall (Item : Type)
  | push (item : Item)
  | tryPop
  | pop
  | popDraining
  | close
  deriving DecidableEq, Repr

inductive QueueAnswer (Item : Type)
  | pushed (outcome : Except Item Unit)
  | tried (item? : Option Item)
  | popped (outcome : Popped Item)
  | closed

/-- A call that was completed, with its answer. -/
structure QueueExchange (Party Item : Type) where
  party : Party
  call : QueueCall Item
  answer : QueueAnswer Item

namespace QueueExchange

variable {Party Item : Type}

/-- The item that the queue took in. -/
def accepted? (exchange : QueueExchange Party Item) : Option Item :=
  match exchange.call, exchange.answer with
  | .push item, .pushed (.ok _) => some item
  | _, _ => none

/-- The item that the party got. -/
def handedOut? (exchange : QueueExchange Party Item) : Option Item :=
  match exchange.answer with
  | .tried item? => item?
  | .popped (.item item) => some item
  | _ => none

/-- What a draining pop came to, if it was one. -/
def drained? (exchange : QueueExchange Party Item) : Option (Popped Item) :=
  match exchange.call, exchange.answer with
  | .popDraining, .popped outcome => some outcome
  | _, _ => none

def closes (exchange : QueueExchange Party Item) : Bool :=
  match exchange.call with
  | .close => true
  | _ => false

section Records

/-- The items that were taken in, in the order of their acceptance. -/
def accepted (past : List (QueueExchange Party Item)) : List Item :=
  past.filterMap accepted?

/-- The items that were handed out, in this order. -/
def handedOut (past : List (QueueExchange Party Item)) : List Item :=
  past.filterMap handedOut?

def drainings (past : List (QueueExchange Party Item)) : List (Popped Item) :=
  past.filterMap drained?

def wasClosed (past : List (QueueExchange Party Item)) : Bool :=
  past.any closes

/-- The calls were made after the queue was closed, with the given items left
in it: whoever does not drain gets nothing, and whoever drains gets what is
left, one item after the other, and then the end. -/
structure OnlyDrains (left : List Item)
    (later : List (QueueExchange Party Item)) : Prop where
  pops : ∀ exchange ∈ later, exchange.call = .pop →
    exchange.answer = .popped .finished
  tries : ∀ exchange ∈ later, exchange.call = .tryPop →
    exchange.answer = .tried none
  handedOut_eq : handedOut later = left.take (drainings later).length
  drainings_eq : drainings later =
    (left.take (drainings later).length).map .item ++
      List.replicate ((drainings later).length - left.length) .finished

variable (exchange : QueueExchange Party Item)
  (later : List (QueueExchange Party Item))

theorem accepted_cons :
    accepted (exchange :: later) =
      exchange.accepted?.toList ++ accepted later := by
  simp only [accepted, List.filterMap_eq_flatMap_toList, List.flatMap_cons]

theorem handedOut_cons :
    handedOut (exchange :: later) =
      exchange.handedOut?.toList ++ handedOut later := by
  simp only [handedOut, List.filterMap_eq_flatMap_toList, List.flatMap_cons]

theorem drainings_cons :
    drainings (exchange :: later) =
      exchange.drained?.toList ++ drainings later := by
  simp only [drainings, List.filterMap_eq_flatMap_toList, List.flatMap_cons]

theorem wasClosed_cons :
    wasClosed (exchange :: later) = (exchange.closes || wasClosed later) :=
  rfl

end Records

namespace OnlyDrains

variable {left : List Item} {exchange : QueueExchange Party Item}
  {later : List (QueueExchange Party Item)} (rest : OnlyDrains left later)

include rest

theorem undrained (nothing : exchange.handedOut? = none)
    (noDraining : exchange.drained? = none)
    (pops : exchange.call = .pop → exchange.answer = .popped .finished)
    (tries : exchange.call = .tryPop → exchange.answer = .tried none) :
    OnlyDrains left (exchange :: later) := by
  have drains : drainings (exchange :: later) = drainings later := by
    rw [drainings_cons, noDraining]
    rfl
  constructor
  · exact List.forall_mem_cons.mpr ⟨pops, rest.pops⟩
  · exact List.forall_mem_cons.mpr ⟨tries, rest.tries⟩
  · rw [drains, handedOut_cons, nothing, ← rest.handedOut_eq]
    rfl
  · rw [drains, ← rest.drainings_eq]

variable {party : Party}

theorem drained (item : Item) :
    OnlyDrains (item :: left)
      (⟨party, .popDraining, .popped (.item item)⟩ :: later) := by
  have drains : drainings
      (⟨party, .popDraining, .popped (.item item)⟩ :: later) =
        .item item :: drainings later := by
    rw [drainings_cons]
    rfl
  constructor
  · exact List.forall_mem_cons.mpr ⟨nofun, rest.pops⟩
  · exact List.forall_mem_cons.mpr ⟨nofun, rest.tries⟩
  · rw [drains, handedOut_cons, rest.handedOut_eq, List.length_cons,
      List.take_succ_cons]
    rfl
  · rw [drains, List.length_cons, List.take_succ_cons, List.length_cons,
      Nat.add_sub_add_right, List.map_cons, List.cons_append,
      ← rest.drainings_eq]

omit rest in
theorem finished (rest : OnlyDrains [] later) :
    OnlyDrains [] (⟨party, .popDraining, .popped .finished⟩ :: later) := by
  have drains : drainings
      (⟨party, .popDraining, .popped .finished⟩ :: later) =
        .finished :: drainings later := by
    rw [drainings_cons]
    rfl
  have ends := rest.drainings_eq
  have nothing := rest.handedOut_eq
  rw [List.take_nil] at ends nothing
  constructor
  · exact List.forall_mem_cons.mpr ⟨nofun, rest.pops⟩
  · exact List.forall_mem_cons.mpr ⟨nofun, rest.tries⟩
  · rw [drains, handedOut_cons, nothing, List.take_nil]
    rfl
  · rw [drains, List.take_nil, List.length_cons, List.length_nil, Nat.sub_zero,
      List.replicate_succ]
    exact congrArg (Popped.finished :: ·) ends

end OnlyDrains

end QueueExchange

namespace HandoffQueue

open QueueExchange

variable {Item : Type}

def perform (queue : HandoffQueue Item) :
    QueueCall Item → QueueAnswer Item × HandoffQueue Item
  | .push item =>
      let (outcome, after) := queue.push item
      (.pushed outcome, after)
  | .tryPop =>
      let (item?, after) := queue.tryPop
      (.tried item?, after)
  | .pop =>
      let (outcome, after) := queue.pop
      (.popped outcome, after)
  | .popDraining =>
      let (outcome, after) := queue.popDraining
      (.popped outcome, after)
  | .close => (.closed, queue.close)

/-- A queue serves recorded exchanges one after the other, and ends up as
another one. -/
inductive Serves {Party : Type} :
    HandoffQueue Item → List (QueueExchange Party Item) →
      HandoffQueue Item → Prop
  | nothing (queue : HandoffQueue Item) : Serves queue [] queue
  | next {queue after last : HandoffQueue Item}
      {exchange : QueueExchange Party Item}
      {later : List (QueueExchange Party Item)}
      (performs : queue.perform exchange.call = (exchange.answer, after))
      (serves : Serves after later last) :
      Serves queue (exchange :: later) last

section Exchanges

variable {Party : Type} {queue after : HandoffQueue Item}
  {exchange : QueueExchange Party Item}
  (performs : queue.perform exchange.call = (exchange.answer, after))

include performs

/-- What stood in the queue and what came in is what was handed out and what
stands in the queue now, in order.  Only closing closes a queue. -/
theorem conserves_perform :
    exchange.handedOut?.toList ++ after.items =
        queue.items ++ exchange.accepted?.toList ∧
      after.closed = (queue.closed || exchange.closes) := by
  rcases queue with ⟨items, closed⟩
  rcases exchange with ⟨party, call, answer⟩
  cases call with
  | push item =>
      cases closed <;> cases performs <;>
        exact ⟨by simp [handedOut?, accepted?], rfl⟩
  | tryPop | pop | popDraining =>
      cases closed <;> cases items <;> cases performs <;>
        exact ⟨by simp [handedOut?, accepted?], rfl⟩
  | close =>
      cases performs
      exact ⟨by simp [handedOut?, accepted?, close],
        by simp [close, closes]⟩

theorem answer_of_push {item : Item} (pushes : exchange.call = .push item) :
    exchange.answer =
      .pushed (if queue.closed then .error item else .ok ()) := by
  rw [pushes, perform, push] at performs
  cases closed : queue.closed <;> rw [closed] at performs <;>
    exact (congrArg Prod.fst performs).symm

end Exchanges

/-- Only a draining pop gets anything from a closed queue, and as long as
there is something left. -/
theorem perform_of_closed {queue : HandoffQueue Item}
    (closed : queue.closed = true) (call : QueueCall Item) :
    queue.perform call =
      match call, queue.items with
      | .push item, _ => (.pushed (.error item), queue)
      | .tryPop, _ => (.tried none, queue)
      | .pop, _ => (.popped .finished, queue)
      | .popDraining, [] => (.popped .finished, queue)
      | .popDraining, item :: rest =>
          (.popped (.item item), { queue with items := rest })
      | .close, _ => (.closed, queue) := by
  rcases queue with ⟨items, isClosed⟩
  cases closed
  cases call with
  | popDraining => cases items <;> rfl
  | _ => rfl

section Opened

variable {queue : HandoffQueue Item} (opened : queue.closed = false)

include opened

/-- Before a queue is closed it makes no difference how an item is waited
for. -/
theorem pop_eq_popDraining : queue.pop = queue.popDraining := by
  rcases queue with ⟨items, closed⟩
  cases opened
  cases items <;> rfl

theorem pop_eq_item_iff {item : Item} :
    queue.pop.1 = .item item ↔ queue.items.head? = some item := by
  rcases queue with ⟨items, closed⟩
  cases opened
  cases items <;> simp [pop]

theorem tryPop_of_opened :
    queue.tryPop =
      (queue.items.head?, { queue with items := queue.items.tail }) := by
  rcases queue with ⟨items, closed⟩
  cases opened
  cases items <;> rfl

end Opened

theorem perform_blocked_iff {queue : HandoffQueue Item}
    {call : QueueCall Item} :
    (queue.perform call).1 = .popped .blocked ↔
      (call = .pop ∨ call = .popDraining) ∧ queue.closed = false ∧
        queue.items = [] := by
  rcases queue with ⟨items, closed⟩
  cases call <;> cases closed <;> cases items <;>
    simp [perform, push, pop, popDraining]

namespace Serves

variable {Party : Type} {queue middle last : HandoffQueue Item}
  {earlier later : List (QueueExchange Party Item)}

theorem append (before : Serves queue earlier middle)
    (behind : Serves middle later last) :
    Serves queue (earlier ++ later) last := by
  induction before with
  | nothing queue => exact behind
  | next performs _ ih => exact .next performs (ih behind)

theorem split (serves : Serves queue (earlier ++ later) last) :
    ∃ middle, Serves queue earlier middle ∧ Serves middle later last := by
  induction earlier generalizing queue with
  | nil => exact ⟨queue, .nothing queue, serves⟩
  | cons exchange rest ih =>
      cases serves with
      | next performs further =>
          obtain ⟨middle, before, behind⟩ := ih further
          exact ⟨middle, .next performs before, behind⟩

/-- Whatever stood in the queue or came in was handed out or stands there
still, in order. -/
theorem conserves (serves : Serves queue later last) :
    handedOut later ++ last.items = queue.items ++ accepted later ∧
      last.closed = (queue.closed || wasClosed later) := by
  induction serves with
  | nothing queue => simp [handedOut, accepted, wasClosed]
  | @next queue after last exchange later performs _ ih =>
      obtain ⟨order, closing⟩ := conserves_perform performs
      rw [handedOut_cons, accepted_cons, List.append_assoc, ih.1,
        ← List.append_assoc, order, List.append_assoc, ih.2, closing,
        wasClosed_cons, Bool.or_assoc]
      exact ⟨rfl, rfl⟩

theorem onlyDrains (serves : Serves queue later last)
    (closed : queue.closed = true) : OnlyDrains queue.items later := by
  induction serves with
  | nothing queue => exact ⟨nofun, nofun, by rfl, by simp [drainings]⟩
  | @next queue after last exchange later performs _ ih =>
      rcases exchange with ⟨party, call, answer⟩
      rw [perform_of_closed closed] at performs
      cases call with
      | popDraining =>
          cases items : queue.items with
          | nil =>
              rw [items] at performs
              cases performs
              exact .finished (items ▸ ih closed)
          | cons item rest =>
              rw [items] at performs
              cases performs
              exact (ih closed).drained item
      | push item =>
          cases performs
          exact (ih closed).undrained rfl rfl nofun nofun
      | tryPop =>
          cases performs
          exact (ih closed).undrained rfl rfl nofun fun _ => rfl
      | pop =>
          cases performs
          exact (ih closed).undrained rfl rfl (fun _ => rfl) nofun
      | close =>
          cases performs
          exact (ih closed).undrained rfl rfl nofun nofun

end Serves

end HandoffQueue

/-- A hand-off queue with the parties that use it, and a record of what they
did with it. -/
structure SharedQueue (Party Item : Type) where
  queue : HandoffQueue Item := {}
  /-- The call in which a party waits. -/
  parked : Party → Option (QueueCall Item) := fun _ => none
  /-- The completed calls, first one first. -/
  past : List (QueueExchange Party Item) := []

inductive QueueAct (Party Item : Type)
  /-- A party makes a call. -/
  | calls (party : Party) (call : QueueCall Item)
  /-- A parked party is woken, for whatever reason. -/
  | wakes (party : Party)

namespace SharedQueue

open QueueExchange

variable {Party Item : Type}

/-- The record is what an unshared queue could have served, and only those
wait who may. -/
structure Orderly (shared : SharedQueue Party Item) : Prop where
  serves : HandoffQueue.Serves {} shared.past shared.queue
  parked : ∀ party call, shared.parked party = some call →
    call = .pop ∨ call = .popDraining

namespace Orderly

variable {shared : SharedQueue Party Item} (orderly : shared.Orderly)

include orderly

/-- At each point of the record the queue was as the record so far says, and
from there it served the rest. -/
theorem middle {earlier later : List (QueueExchange Party Item)}
    (split : shared.past = earlier ++ later) :
    ∃ middle : HandoffQueue Item,
      handedOut earlier ++ middle.items = accepted earlier ∧
      middle.closed = wasClosed earlier ∧
      middle.Serves later shared.queue := by
  have serves := orderly.serves
  rw [split] at serves
  obtain ⟨middle, before, behind⟩ := serves.split
  obtain ⟨items, closed⟩ := before.conserves
  exact ⟨middle, by simpa using items, by simpa using closed, behind⟩

theorem handedOut_append_items :
    handedOut shared.past ++ shared.queue.items = accepted shared.past := by
  simpa using orderly.serves.conserves.1

theorem closed_eq : shared.queue.closed = wasClosed shared.past := by
  simpa using orderly.serves.conserves.2

theorem items_eq_nil_iff :
    shared.queue.items = [] ↔ handedOut shared.past = accepted shared.past := by
  rw [← orderly.handedOut_append_items]
  simp

end Orderly

section Parties

variable [DecidableEq Party]

/-- A party gets hold of the queue, and either completes its call or is parked
inside it. -/
def attempt (shared : SharedQueue Party Item) (party : Party)
    (call : QueueCall Item) : SharedQueue Party Item :=
  match shared.queue.perform call with
  | (.popped .blocked, _) =>
      { shared with
        parked := Function.update shared.parked party (some call) }
  | (answer, queue) =>
      { queue
        parked := Function.update shared.parked party none
        past := shared.past ++ [⟨party, call, answer⟩] }

/-- A parked party makes no other call, and only a parked one is woken. -/
def act (shared : SharedQueue Party Item) :
    QueueAct Party Item → SharedQueue Party Item
  | .calls party call =>
      match shared.parked party with
      | none => shared.attempt party call
      | some _ => shared
  | .wakes party =>
      match shared.parked party with
      | none => shared
      | some call => shared.attempt party call

def run : List (QueueAct Party Item) → SharedQueue Party Item →
    SharedQueue Party Item
  | [], shared => shared
  | act :: later, shared => run later (shared.act act)

/-- An attempt completes, and is recorded with what the queue answered, unless
the queue has the party wait. -/
theorem attempt_cases (shared : SharedQueue Party Item) (party : Party)
    (call : QueueCall Item) :
    ((shared.queue.perform call).1 = .popped .blocked ∧
      shared.attempt party call =
        { shared with
          parked := Function.update shared.parked party (some call) }) ∨
    ((shared.queue.perform call).1 ≠ .popped .blocked ∧
      shared.attempt party call =
        { queue := (shared.queue.perform call).2
          parked := Function.update shared.parked party none
          past := shared.past ++
            [⟨party, call, (shared.queue.perform call).1⟩] }) := by
  unfold attempt
  split
  · rename_i performs
    exact Or.inl ⟨by rw [performs], rfl⟩
  · rename_i answer queue completes performs
    rw [performs]
    exact Or.inr ⟨completes, rfl⟩

namespace Orderly

variable {shared : SharedQueue Party Item} (orderly : shared.Orderly)

include orderly

theorem parked_update {party other : Party}
    {call? : Option (QueueCall Item)} {awaited : QueueCall Item}
    (waits : ∀ call, call? = some call → call = .pop ∨ call = .popDraining)
    (parks : Function.update shared.parked party call? other =
      some awaited) :
    awaited = .pop ∨ awaited = .popDraining := by
  by_cases same : other = party
  · rw [same, Function.update_self] at parks
    exact waits awaited parks
  · rw [Function.update_of_ne same] at parks
    exact orderly.parked other awaited parks

theorem attempt (party : Party) (call : QueueCall Item) :
    (shared.attempt party call).Orderly := by
  rcases shared.attempt_cases party call with
    ⟨blocked, goes⟩ | ⟨-, goes⟩
  · have waits := (HandoffQueue.perform_blocked_iff.mp blocked).1
    rw [goes]
    refine ⟨orderly.serves, fun other awaited => orderly.parked_update ?_⟩
    rintro _ ⟨⟩
    exact waits
  · rw [goes]
    exact ⟨orderly.serves.append (.next rfl (.nothing _)),
      fun other awaited => orderly.parked_update nofun⟩

theorem act (act : QueueAct Party Item) : (shared.act act).Orderly := by
  unfold SharedQueue.act
  cases act with
  | calls party call =>
      dsimp only
      split
      · exact orderly.attempt party call
      · exact orderly
  | wakes party =>
      dsimp only
      split
      · exact orderly
      · exact orderly.attempt party _

theorem run (acts : List (QueueAct Party Item)) :
    (SharedQueue.run acts shared).Orderly := by
  induction acts generalizing shared with
  | nil => exact orderly
  | cons act later ih => exact ih (orderly.act act)

/-- A party that gets hold of the queue completes its call, unless it pops and
the queue is open and empty. -/
theorem attempt_completes_iff (party : Party) (call : QueueCall Item) :
    (∃ answer, (shared.attempt party call).past =
        shared.past ++ [⟨party, call, answer⟩]) ↔
      ¬((call = .pop ∨ call = .popDraining) ∧
        wasClosed shared.past = false ∧
        handedOut shared.past = accepted shared.past) := by
  rw [← orderly.closed_eq, ← orderly.items_eq_nil_iff,
    ← HandoffQueue.perform_blocked_iff]
  rcases shared.attempt_cases party call with
    ⟨blocked, goes⟩ | ⟨completes, goes⟩
  · simp [goes, blocked]
  · simp [goes, completes]

end Orderly

/-- However any number of producers and consumers take turns at a queue, at
every point what was handed out, followed by what is queued, is what was
accepted, in this order.  A push is refused, with its own item, if a close
came before it, and else accepted.  After a close pops and tried pops come to
nothing, while draining ones go on with what was left, in order, to the end.
Until then it makes no difference whether a pop drains, and any pop gets the
oldest item.  Every call of a party that is not parked completes at once, but
for pops of either kind while the queue is open and everything accepted was
handed out; and a parked one completes when the party is woken, unless that is
still so. -/
theorem items_are_handed_on_once_in_order
    (acts : List (QueueAct Party Item)) :
    let shared : SharedQueue Party Item := run acts {}
    let past := shared.past
    let drainedDry := wasClosed past = false ∧ handedOut past = accepted past
    handedOut past ++ shared.queue.items = accepted past ∧
    (∀ earlier exchange later item, past = earlier ++ exchange :: later →
      exchange.call = .push item →
      exchange.answer =
        .pushed (if wasClosed earlier then .error item else .ok ())) ∧
    (∀ earlier later, past = earlier ++ later → wasClosed earlier = true →
      OnlyDrains ((accepted earlier).drop (handedOut earlier).length)
        later) ∧
    (wasClosed past = false →
      shared.queue.pop = shared.queue.popDraining ∧
      (∀ item, shared.queue.pop.1 = .item item ↔
        shared.queue.items.head? = some item) ∧
      shared.queue.tryPop = (shared.queue.items.head?,
        { shared.queue with items := shared.queue.items.tail })) ∧
    (∀ party call, shared.parked party = none →
      ((∃ answer, (shared.act (.calls party call)).past =
          past ++ [⟨party, call, answer⟩]) ↔
        ¬((call = .pop ∨ call = .popDraining) ∧ drainedDry))) ∧
    ∀ party call, shared.parked party = some call →
      (call = .pop ∨ call = .popDraining) ∧
      ((∃ answer, (shared.act (.wakes party)).past =
          past ++ [⟨party, call, answer⟩]) ↔ ¬drainedDry) := by
  intro shared past drainedDry
  have start : ({} : SharedQueue Party Item).Orderly := ⟨.nothing _, nofun⟩
  have orderly : shared.Orderly := start.run acts
  refine ⟨orderly.handedOut_append_items, ?_, ?_, ?_, ?_, ?_⟩
  · intro earlier exchange later item split pushes
    obtain ⟨middle, -, closed, behind⟩ := orderly.middle split
    rw [← closed]
    cases behind with
    | next performs _ => exact HandoffQueue.answer_of_push performs pushes
  · intro earlier later split closing
    obtain ⟨middle, items, closed, behind⟩ := orderly.middle split
    rw [← items, List.drop_left]
    exact behind.onlyDrains (closed.trans closing)
  · intro opened
    have stillOpen := orderly.closed_eq.trans opened
    exact ⟨HandoffQueue.pop_eq_popDraining stillOpen,
      fun _ => HandoffQueue.pop_eq_item_iff stillOpen,
      HandoffQueue.tryPop_of_opened stillOpen⟩
  · intro party call free
    rw [SharedQueue.act, free]
    exact orderly.attempt_completes_iff party call
  · intro party call parks
    have waits := orderly.parked party call parks
    refine ⟨waits, ?_⟩
    rw [SharedQueue.act, parks]
    refine (orderly.attempt_completes_iff party call).trans ?_
    simp only [waits, true_and]
    rfl

end Parties

/-- The first consumer is parked before anything is there, the second item is
left in the queue when it is closed, and a third one comes too late. -/
def shift : List (QueueAct Nat String) :=
  [.calls 1 .pop, .calls 2 (.push "first"), .calls 3 (.push "last"),
    .wakes 1, .calls 2 .close, .calls 3 (.push "late"), .calls 1 .pop,
    .calls 4 .popDraining, .calls 4 .popDraining]

/-- The item left in a closed queue goes to the consumer that drains it. -/
theorem last_item_is_drained :
    let shared : SharedQueue Nat String := run shift {}
    let earlier := shared.past.take 4
    let later := shared.past.drop 4
    shared.past = earlier ++ later ∧ wasClosed earlier = true ∧
      handedOut earlier = ["first"] ∧ OnlyDrains ["last"] later ∧
      drainings later = [.item "last", .finished] ∧
      handedOut shared.past ++ shared.queue.items = ["first", "last"] := by
  intro shared earlier later
  obtain ⟨kept, -, drains, -⟩ := items_are_handed_on_once_in_order shift
  have split : shared.past = earlier ++ later :=
    (List.take_append_drop 4 shared.past).symm
  exact ⟨split, rfl, rfl, drains earlier later split rfl, rfl, kept⟩

end SharedQueue

end FileDepot
