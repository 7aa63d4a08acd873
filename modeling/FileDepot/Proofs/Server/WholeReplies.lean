import FileDepot.Proofs.Server.Staffing

/-!
# Replies stay whole

While a worker has an outbox reserved, nobody else queues anything there, so
that what was queued of a reply stands in one piece among all that was ever
queued for its client.
-/

namespace FileDepot

namespace Mailroom

/-- The request of a number that was dispatched, with its reply. -/
def Served (room : Mailroom) (number : Nat) (service : Service) : Prop :=
  room.journal[number]? = some service

theorem Served.lt {room : Mailroom} {number : Nat} {service : Service}
    (served : room.Served number service) : number < room.journal.length :=
  (List.getElem?_eq_some_iff.mp served).1

theorem served_append_iff {room after : Mailroom} {last : Service}
    (journal : after.journal = room.journal ++ [last]) {number : Nat}
    {service : Service} :
    after.Served number service ↔ room.Served number service ∨
      number = room.journal.length ∧ service = last := by
  rw [Served, journal, List.getElem?_append]
  split
  · rename_i earlier
    constructor
    · exact Or.inl
    · rintro (served | ⟨rfl, -⟩)
      · exact served
      · exact absurd earlier (Nat.lt_irrefl _)
  · rename_i late
    rw [List.getElem?_singleton]
    constructor
    · intro listed
      split at listed
      · exact Or.inr ⟨by omega, (Option.some.inj listed).symm⟩
      · cases listed
    · rintro (served | ⟨rfl, rfl⟩)
      · exact absurd served.lt late
      · simp

/-- What was queued of the reply to a request stands in one piece of the mail
of its client, between letters that belong to other requests. -/
structure Filed (room : Mailroom) (number : Nat) (service : Service)
    (front : List Letter) (queued : List Response) (back : List Letter) :
    Prop where
  mail_eq : room.mail service.client =
    front ++ queued.map (Letter.mk (.reply number)) ++ back
  apart : ∀ letter ∈ front ++ back, letter.origin ≠ .reply number
  part : queued <+: service.reply.responses
  whole : room.hub.outboxClosed? service.client = some false →
    queued ++ room.left service.client number = service.reply.responses
  last : room.left service.client number ≠ [] → back = []

/-- All replies are filed in the mail of the clients that asked for them. -/
structure Tidy (room : Mailroom) : Prop where
  known : ∀ number service, room.Served number service →
    service.client < room.nextClient
  filed : ∀ number service, room.Served number service →
    ∃ front queued back, room.Filed number service front queued back
  signed : ∀ client, ∀ letter ∈ room.mail client, ∀ number,
    letter.origin = .reply number →
    ∃ service, room.Served number service ∧ service.client = client
  owed : ∀ client number, room.left client number ≠ [] →
    ∃ service, room.Served number service ∧ service.client = client
  queued : ∀ client,
    room.hub.queued client <:+ (room.mail client).map Letter.response

theorem tidy_new (limits : Limits) : (new limits).Tidy where
  known _ _ listed := by simp [Served, new] at listed
  filed _ _ listed := by simp [Served, new] at listed
  signed _ _ listed := by cases listed
  owed _ _ owes := absurd rfl owes
  queued _ := List.nil_suffix

namespace Filed

variable {room after : Mailroom} {number : Nat} {service : Service}
  {front back : List Letter} {queued : List Response}
  (filed : room.Filed number service front queued back)

include filed

theorem keep (mail : after.mail service.client = room.mail service.client)
    (opened : after.hub.outboxClosed? service.client = some false →
      room.hub.outboxClosed? service.client = some false)
    (left : after.left service.client number =
      room.left service.client number) :
    after.Filed number service front queued back where
  mail_eq := mail.trans filed.mail_eq
  apart := filed.apart
  part := filed.part
  whole isOpen := by
    rw [left]
    exact filed.whole (opened isOpen)
  last owes := filed.last (left ▸ owes)

/-- A letter that does not belong to a reply comes behind all of it. -/
theorem append {letter : Letter} (apart : letter.origin ≠ .reply number)
    (mail : after.mail service.client =
      room.mail service.client ++ [letter])
    (opened : after.hub.outboxClosed? service.client = some false →
      room.hub.outboxClosed? service.client = some false)
    (none : room.left service.client number = [])
    (left : after.left service.client number =
      room.left service.client number) :
    after.Filed number service front queued (back ++ [letter]) where
  mail_eq := by
    rw [mail, filed.mail_eq, List.append_assoc]
  apart := by
    intro other listed
    rw [← List.append_assoc] at listed
    rcases List.mem_append.mp listed with old | last
    · exact filed.apart other old
    · rw [List.mem_singleton.mp last]
      exact apart
  part := filed.part
  whole isOpen := by
    rw [left]
    exact filed.whole (opened isOpen)
  last owes := absurd (left.trans none) owes

theorem push {response : Response} {rest : List Response}
    (owes : room.left service.client number = response :: rest)
    (isOpen : room.hub.outboxClosed? service.client = some false)
    (mail : after.mail service.client =
      room.mail service.client ++ [⟨.reply number, response⟩])
    (left : after.left service.client number = rest) :
    after.Filed number service front (queued ++ [response]) [] := by
  have nothing : back = [] := filed.last (by simp [owes])
  subst nothing
  have whole := filed.whole isOpen
  rw [owes] at whole
  refine ⟨?_, filed.apart, ?_, ?_, fun _ => rfl⟩
  · simp [mail, filed.mail_eq]
  · rw [← whole]
    exact ⟨rest, by simp⟩
  · intro _
    rw [left, ← whole]
    simp

/-- Where an outbox is closed, the rest of a reply is given up. -/
theorem refuse
    (isClosed : after.hub.outboxClosed? service.client ≠ some false)
    (mail : after.mail service.client = room.mail service.client)
    (left : after.left service.client number = []) :
    after.Filed number service front queued back where
  mail_eq := mail.trans filed.mail_eq
  apart := filed.apart
  part := filed.part
  whole isOpen := absurd isOpen isClosed
  last owes := absurd left owes

end Filed

namespace Tidy

variable {room after : Mailroom} (tidy : room.Tidy)

include tidy

/-- A step in which nothing is dispatched and no letter is queued. -/
theorem keep (journal : after.journal = room.journal)
    (nextClient : room.nextClient ≤ after.nextClient)
    (mail : after.mail = room.mail)
    (opened : ∀ client, client < room.nextClient →
      after.hub.outboxClosed? client = some false →
      room.hub.outboxClosed? client = some false)
    (queued : ∀ client,
      after.hub.queued client <:+ room.hub.queued client)
    (left : ∀ client number,
      after.left client number = room.left client number) :
    after.Tidy where
  known := by
    intro number service listed
    rw [Served, journal] at listed
    exact Nat.lt_of_lt_of_le (tidy.known number service listed) nextClient
  filed := by
    intro number service listed
    rw [Served, journal] at listed
    obtain ⟨front, placed, back, filed⟩ := tidy.filed number service listed
    exact ⟨front, placed, back, filed.keep (by rw [mail])
      (opened _ (tidy.known number service listed)) (left _ _)⟩
  signed := by
    simp only [mail, Served, journal]
    exact tidy.signed
  owed := by
    intro client number owes
    rw [left] at owes
    simp only [Served, journal]
    exact tidy.owed client number owes
  queued client := by
    rw [mail]
    exact (queued client).trans (tidy.queued client)

/-- A letter that is queued comes at the end of the mail. -/
theorem queued_mailWith {client : ClientId} {letter : Letter}
    (mail : after.mail = room.mailWith client letter)
    (extended : Hub.Extends room.hub
      (Hub.onlyFor client [letter.response]) after.hub) (other : ClientId) :
    after.hub.queued other <:+ (after.mail other).map Letter.response := by
  rw [extended.queued, mail, mailWith, Hub.onlyFor]
  by_cases same : other = client
  · subst same
    obtain ⟨written, whole⟩ := tidy.queued other
    rw [if_pos rfl, Function.update_self, List.map_append]
    exact ⟨written, by rw [← whole, ← List.append_assoc]; rfl⟩
  · rw [if_neg same, List.append_nil, Function.update_of_ne same]
    exact tidy.queued other

/-- A step in which a letter is queued that belongs to no reply, in an outbox
that is not reserved. -/
theorem tell (staffed : room.Staffed) {client : ClientId} {number : Nat}
    {response : Response} (free : room.reserved client = false)
    (journal : after.journal = room.journal)
    (nextClient : after.nextClient = room.nextClient)
    (mail : after.mail = room.mailWith client ⟨.ending number, response⟩)
    (extended : Hub.Extends room.hub (Hub.onlyFor client [response])
      after.hub)
    (left : ∀ other number,
      after.left other number = room.left other number) :
    after.Tidy where
  known := by
    simp only [Served, journal, nextClient]
    exact tidy.known
  filed := by
    intro request service listed
    rw [Served, journal] at listed
    obtain ⟨front, placed, back, filed⟩ := tidy.filed request service listed
    by_cases same : service.client = client
    · refine ⟨front, placed, back ++ [⟨.ending number, response⟩],
        filed.append (by simp) ?_ (extended.wasOpen _) ?_ (left _ _)⟩
      · rw [mail, mailWith, same, Function.update_self]
      · rw [same]
        exact staffed.left_of_free free request
    · refine ⟨front, placed, back,
        filed.keep ?_ (extended.wasOpen _) (left _ _)⟩
      rw [mail, mailWith, Function.update_of_ne same]
  signed := by
    intro other letter listed request replies
    simp only [Served, journal]
    rw [mail, mailWith] at listed
    by_cases same : other = client
    · subst same
      rw [Function.update_self] at listed
      rcases List.mem_append.mp listed with old | last
      · exact tidy.signed other letter old request replies
      · rw [List.mem_singleton.mp last] at replies
        cases replies
    · rw [Function.update_of_ne same] at listed
      exact tidy.signed other letter listed request replies
  owed := by
    intro other request owes
    rw [left] at owes
    simp only [Served, journal]
    exact tidy.owed other request owes
  queued := tidy.queued_mailWith mail extended

/-- The reply to a request that is dispatched is all still to be queued. -/
theorem dispatch (staffed : room.Staffed) {client : ClientId}
    {connection kept : Connection} {read : Except Error Request}
    {reply : Reply} {hub : Hub}
    (asking : room.jobs client = some (.asking read))
    (goes : room.hub.dispatchRead connection read = (reply, kept, hub)) :
    (room.dispatched client read reply kept hub).Tidy := by
  have opened (other : ClientId)
      (isOpen : hub.outboxClosed? other = some false) :
      room.hub.outboxClosed? other = some false :=
    Hub.outboxClosed?_dispatchRead goes other ▸ isOpen
  have served_iff {number : Nat} {service : Service} :
      (room.dispatched client read reply kept hub).Served number service ↔
        room.Served number service ∨ number = room.journal.length ∧
          service = ⟨client, read, room.hub.store, hub.store, reply⟩ :=
    served_append_iff rfl
  have own : (room.dispatched client read reply kept hub).left client
      room.journal.length = reply.responses := by
    simp [left, dispatched, Job.left]
  have others {other : ClientId} {number : Nat}
      (old : other ≠ client ∨ number ≠ room.journal.length) :
      (room.dispatched client read reply kept hub).left other number =
        room.left other number := by
    by_cases same : other = client
    · subst same
      have different := old.resolve_left (fun away => away rfl)
      rw [left_of_job asking]
      simp [left, dispatched, Job.left, Ne.symm different]
    · exact left_congr (Function.update_of_ne same ..) number
  refine ⟨?_, ?_, ?_, ?_, ?_⟩
  · intro number service listed
    rcases served_iff.mp listed with old | ⟨-, rfl⟩
    · exact tidy.known number service old
    · exact staffed.working client _ asking
  · intro number service listed
    rcases served_iff.mp listed with old | ⟨rfl, rfl⟩
    · obtain ⟨front, placed, back, filed⟩ := tidy.filed number service old
      exact ⟨front, placed, back, filed.keep rfl (opened _)
        (others (Or.inr (Nat.ne_of_lt old.lt)))⟩
    · refine ⟨room.mail client, [], [], ?_, ?_, List.nil_prefix, ?_,
        fun _ => rfl⟩
      · simp [dispatched]
      · intro letter listed replies
        rw [List.append_nil] at listed
        obtain ⟨earlier, old, -⟩ := tidy.signed client letter listed _ replies
        exact absurd old.lt (Nat.lt_irrefl _)
      · intro _
        rw [List.nil_append, own]
  · intro other letter listed number replies
    obtain ⟨earlier, found, owner⟩ :=
      tidy.signed other letter listed number replies
    exact ⟨earlier, served_iff.mpr (Or.inl found), owner⟩
  · intro other number owes
    by_cases old : other ≠ client ∨ number ≠ room.journal.length
    · rw [others old] at owes
      obtain ⟨earlier, found, owner⟩ := tidy.owed other number owes
      exact ⟨earlier, served_iff.mpr (Or.inl found), owner⟩
    · obtain ⟨rfl, rfl⟩ : other = client ∧ number = room.journal.length := by
        simpa only [not_or, not_not] using old
      exact ⟨_, served_iff.mpr (Or.inr ⟨rfl, rfl⟩), rfl⟩
  · intro other
    change hub.queued other <:+ (room.mail other).map Letter.response
    rw [Hub.queued_dispatchRead goes]
    exact tidy.queued other

theorem push {client : ClientId} {number : Nat} {response : Response}
    {rest : List Response} {errand : Errand}
    (replying : room.jobs client =
      some (.replying number (response :: rest) errand))
    (jobs : after.jobs = Function.update room.jobs client
      (some (.replying number rest errand)))
    (isOpen : room.hub.outboxClosed? client = some false)
    (journal : after.journal = room.journal)
    (nextClient : after.nextClient = room.nextClient)
    (mail : after.mail = room.mailWith client ⟨.reply number, response⟩)
    (extended : Hub.Extends room.hub (Hub.onlyFor client [response])
      after.hub) : after.Tidy := by
  have before (request : Nat) : room.left client request =
      if number = request then response :: rest else [] := by
    rw [left_of_job replying, Job.left]
  have behind (request : Nat) : after.left client request =
      if number = request then rest else [] := by
    simp [left, jobs, Job.left]
  have others {other : ClientId} {request : Nat}
      (old : other ≠ client ∨ number ≠ request) :
      after.left other request = room.left other request := by
    by_cases same : other = client
    · subst same
      have different := old.resolve_left (fun away => away rfl)
      rw [before, behind, if_neg different, if_neg different]
    · exact left_congr (by rw [jobs, Function.update_of_ne same]) request
  have mailHere : after.mail client =
      room.mail client ++ [⟨.reply number, response⟩] := by
    rw [mail, mailWith, Function.update_self]
  have mailThere {other : ClientId} (different : other ≠ client) :
      after.mail other = room.mail other := by
    rw [mail, mailWith, Function.update_of_ne different]
  obtain ⟨service, served, owner⟩ :=
    tidy.owed client number (by simp [before])
  -- Only the reply that is being queued grows, and behind the replies to
  -- earlier requests of the client comes one more letter.
  refine ⟨?_, ?_, ?_, ?_, ?_⟩
  · simp only [Served, journal, nextClient]
    exact tidy.known
  · intro request other listed
    rw [Served, journal] at listed
    obtain ⟨front, placed, back, filed⟩ := tidy.filed request other listed
    by_cases same : other.client = client
    · by_cases current : number = request
      · subst current
        have owes : room.left other.client number = response :: rest := by
          rw [same, before, if_pos rfl]
        exact ⟨front, placed ++ [response], [], filed.push owes
          (same ▸ isOpen) (same ▸ mailHere) (by rw [same, behind, if_pos rfl])⟩
      · refine ⟨front, placed, back ++ [⟨.reply number, response⟩],
          filed.append (by simp [current]) (same ▸ mailHere) (extended.wasOpen _) ?_
            (others (Or.inr current))⟩
        rw [same, before, if_neg current]
    · exact ⟨front, placed, back, filed.keep (mailThere same) (extended.wasOpen _)
        (others (Or.inl same))⟩
  · intro other letter listed request replies
    simp only [Served, journal]
    by_cases same : other = client
    · subst same
      rw [mailHere] at listed
      rcases List.mem_append.mp listed with old | last
      · exact tidy.signed other letter old request replies
      · rw [List.mem_singleton.mp last] at replies
        cases replies
        exact ⟨service, served, owner⟩
    · rw [mailThere same] at listed
      exact tidy.signed other letter listed request replies
  · intro other request owes
    simp only [Served, journal]
    by_cases old : other ≠ client ∨ number ≠ request
    · rw [others old] at owes
      exact tidy.owed other request owes
    · obtain ⟨rfl, rfl⟩ : other = client ∧ number = request := by
        simpa only [not_or, not_not] using old
      exact ⟨service, served, owner⟩
  · exact tidy.queued_mailWith mail extended

theorem refuse {client : ClientId} {number : Nat} {failed : Errand}
    (jobs : after.jobs = Function.update room.jobs client
      (some (.replying number [] failed)))
    (isClosed : room.hub.outboxClosed? client ≠ some false)
    (journal : after.journal = room.journal)
    (nextClient : after.nextClient = room.nextClient)
    (mail : after.mail = room.mail)
    (extended : Hub.Extends room.hub (fun _ => []) after.hub) :
    after.Tidy := by
  have nothing (request : Nat) : after.left client request = [] := by
    simp [left, jobs, Job.left]
  have others {other : ClientId} (different : other ≠ client)
      (request : Nat) : after.left other request = room.left other request :=
    left_congr (by rw [jobs, Function.update_of_ne different]) request
  refine ⟨?_, ?_, ?_, ?_, ?_⟩
  · simp only [Served, journal, nextClient]
    exact tidy.known
  · intro request other listed
    rw [Served, journal] at listed
    obtain ⟨front, placed, back, filed⟩ := tidy.filed request other listed
    refine ⟨front, placed, back, ?_⟩
    by_cases same : other.client = client
    · refine filed.refuse ?_ (by rw [mail]) (same ▸ nothing request)
      rw [same, extended.outboxClosed?]
      exact isClosed
    · exact filed.keep (by rw [mail]) (extended.wasOpen _) (others same request)
  · simp only [Served, journal, mail]
    exact tidy.signed
  · intro other request owes
    simp only [Served, journal]
    by_cases same : other = client
    · exact absurd (same ▸ nothing request) owes
    · rw [others same] at owes
      exact tidy.owed other request owes
  · intro other
    rw [extended.queued, List.append_nil, mail]
    exact tidy.queued other

theorem step (staffed : room.Staffed) (step : room.Step after) :
    after.Tidy := by
  have queuedAlike (client : ClientId) :
      room.hub.queued client <:+ room.hub.queued client :=
    List.suffix_refl _
  cases step with
  | idle => exact tidy
  | beside beside =>
      exact tidy.keep rfl beside.nextClient rfl beside.opened beside.queued
        fun _ _ => rfl
  | reserved seated named free =>
      exact tidy.keep rfl (Nat.le_refl _) rfl (fun _ _ => id) queuedAlike
        (left_update free rfl fun _ => rfl)
  | dispatched seated asking goes =>
      exact tidy.dispatch staffed asking goes
  | pushed replying isOpen extended =>
      exact tidy.push replying rfl isOpen rfl rfl rfl extended
  | refused replying isClosed _ _ extended =>
      exact tidy.refuse rfl isClosed rfl rfl rfl extended
  | dropped replying =>
      exact tidy.keep rfl (Nat.le_refl _) rfl (fun _ _ => id) queuedAlike
        (left_update replying rfl fun _ => (ite_self _).symm)
  | notified notifying free isOpen extended =>
      exact tidy.tell staffed free rfl rfl rfl extended
        (left_update notifying rfl fun _ => rfl)
  | unheard notifying extended =>
      refine tidy.keep rfl (Nat.le_refl _) rfl
        (fun other _ => extended.wasOpen other) ?_
        (left_update notifying rfl fun _ => rfl)
      intro other
      simp only [extended.queued, List.append_nil, List.suffix_refl]
  | granted telling free isOpen extended =>
      exact tidy.tell staffed free rfl rfl rfl extended fun _ _ => rfl
  | finished seated notifying =>
      exact tidy.keep rfl (Nat.le_refl _) rfl (fun _ _ => id) queuedAlike
        (left_update notifying rfl fun _ => rfl)

end Tidy

end Mailroom

end FileDepot
