import FileDepot.Proofs.Store.LockQueues

/-!
# What the lock scan does to one file

A lock that is free is offered to one waiting client after the other, until
one of them can be told.  Those who were offered it leave the queue, and a
client that could not be told has the lock taken back.
-/

namespace FileDepot

namespace StoredFile

section Queue

variable (told : ClientId → Bool)

/-- The clients of a queue whose turn comes: all up to the first that can be
told. -/
def turns : List ClientId → List ClientId
  | [] => []
  | next :: rest => next :: if told next then [] else turns rest

/-- The first client of a queue that can be told, and those behind it. -/
def passOn : List ClientId → Option ClientId × List ClientId
  | [] => (none, [])
  | next :: rest => if told next then (some next, rest) else passOn rest

theorem turns_append_passOn (queue : List ClientId) :
    turns told queue ++ (passOn told queue).2 = queue := by
  induction queue with
  | nil => rfl
  | cons next rest ih =>
      cases able : told next with
      | true => simp [turns, passOn, able]
      | false => simp [turns, passOn, able, ih]

theorem passOn_fst_eq_some_iff {queue : List ClientId} {client : ClientId} :
    (passOn told queue).1 = some client ↔
      client ∈ turns told queue ∧ told client = true := by
  induction queue with
  | nil => simp [passOn, turns]
  | cons next rest ih =>
      cases able : told next with
      | true =>
          simp only [passOn, turns, able, if_true, Option.some.injEq,
            List.mem_singleton]
          constructor
          · rintro rfl
            exact ⟨rfl, able⟩
          · rintro ⟨rfl, -⟩
            rfl
      | false =>
          simp only [passOn, turns, able, Bool.false_eq_true, if_false, ih,
            List.mem_cons]
          constructor
          · rintro ⟨later, able⟩
            exact ⟨Or.inr later, able⟩
          · rintro ⟨rfl | later, able'⟩
            · simp [able] at able'
            · exact ⟨later, able'⟩

/-- The clients that are offered the lock of a file. -/
def offered (file : StoredFile) : List ClientId :=
  match file.owner with
  | some _ => []
  | none => turns told file.waiters

/-- A file after the scan. -/
def settle (file : StoredFile) : StoredFile :=
  match file.owner with
  | some _ => file
  | none =>
      { file with
        owner := (passOn told file.waiters).1
        waiters := (passOn told file.waiters).2 }

/-- A file after one offer, which is taken back from a client that cannot be
told. -/
def offer (file : StoredFile) : StoredFile :=
  match file.grantNext with
  | none => file
  | some (client, granted) =>
      if told client then granted else granted.release client

variable {told}

theorem grantNext_cases (file : StoredFile) :
    (file.grantNext = none ∧ (file.owner = none → file.waiters = [])) ∨
    ∃ next rest, file.owner = none ∧ file.waiters = next :: rest ∧
      file.grantNext =
        some (next, { file with owner := some next, waiters := rest }) := by
  cases handed : file.grantNext with
  | none => exact Or.inl ⟨rfl, grantNext_eq_none_iff.mp handed⟩
  | some result =>
      rcases result with ⟨next, granted⟩
      obtain ⟨rest, free, waiting, rfl⟩ := grantNext_eq_some_iff.mp handed
      exact Or.inr ⟨next, rest, free, waiting, rfl⟩

theorem settle_of_grantNext_none {file : StoredFile}
    (nothing : file.grantNext = none) : file.settle told = file := by
  have idle := grantNext_eq_none_iff.mp nothing
  rcases file with ⟨content, unwritten, owner, waiters⟩
  cases owner with
  | some holder => rfl
  | none =>
      have empty : waiters = [] := idle rfl
      subst empty
      rfl

theorem offered_of_grantNext_none {file : StoredFile}
    (nothing : file.grantNext = none) : file.offered told = [] := by
  have idle := grantNext_eq_none_iff.mp nothing
  unfold offered
  cases free : file.owner with
  | some holder => rfl
  | none => simp [idle free, turns]

/-- One offer does not change what the scan comes to. -/
theorem settle_offer (file : StoredFile) :
    (file.offer told).settle told = file.settle told := by
  rcases file.grantNext_cases with
    ⟨nothing, -⟩ | ⟨next, rest, free, waiting, handed⟩
  · rw [offer, nothing]
  · cases able : told next with
    | true => simp [offer, handed, able, settle, free, waiting, passOn]
    | false =>
        simp [offer, handed, able, release, settle, free, waiting, passOn]

/-- A client is offered the lock either at once or later. -/
theorem mem_offered_iff {file : StoredFile} {client : ClientId} :
    client ∈ file.offered told ↔
      (∃ granted, file.grantNext = some (client, granted)) ∨
        client ∈ (file.offer told).offered told := by
  rcases file.grantNext_cases with
    ⟨nothing, -⟩ | ⟨next, rest, free, waiting, handed⟩
  · simp [offer, nothing, offered_of_grantNext_none nothing]
  · cases able : told next with
    | true =>
        simp [offer, handed, able, offered, free, waiting, turns, eq_comm]
    | false =>
        simp [offer, handed, able, offered, release, free, waiting, turns,
          eq_comm]

/-- A file that nobody has to be passed over for is settled by one offer. -/
theorem settle_of_told {file : StoredFile}
    (able : ∀ client granted, file.grantNext = some (client, granted) →
      told client = true) :
    file.settle told = file.offer told ∧
      (file.offer told).offered told = [] := by
  rcases file.grantNext_cases with
    ⟨nothing, -⟩ | ⟨next, rest, free, waiting, handed⟩
  · rw [offer, nothing]
    exact ⟨settle_of_grantNext_none nothing,
      offered_of_grantNext_none nothing⟩
  · have able := able next _ handed
    simp [offer, handed, able, settle, offered, free, waiting, passOn]

theorem offered_sublist (file : StoredFile) :
    (file.offered told).Sublist file.waiters := by
  unfold offered
  split
  · exact List.nil_sublist _
  · have split := turns_append_passOn told file.waiters
    conv_rhs => rw [← split]
    exact List.sublist_append_left _ _

theorem QueueInOrder.offer {file : StoredFile}
    (inOrder : file.QueueInOrder) : (file.offer told).QueueInOrder := by
  unfold StoredFile.offer
  split
  · exact inOrder
  · rename_i client granted handed
    split
    · exact inOrder.grantNext handed
    · exact (inOrder.grantNext handed).release client

theorem not_offered_again {file granted : StoredFile} {client : ClientId}
    (inOrder : file.QueueInOrder)
    (handed : file.grantNext = some (client, granted)) :
    client ∉ (file.offer told).offered told := by
  obtain ⟨rest, free, waiting, rfl⟩ := grantNext_eq_some_iff.mp handed
  have nodup := inOrder.nodup
  rw [waiting, List.nodup_cons] at nodup
  intro again
  have later := (offered_sublist (file.offer told)).subset again
  simp only [offer, handed] at later
  split at later
  · exact nodup.1 later
  · rw [waiters_release] at later
    exact nodup.1 later

theorem offered_of_left {file : StoredFile} {client : ClientId}
    (waited : client ∈ file.waiters)
    (left : client ∉ (file.settle told).waiters) :
    client ∈ file.offered told := by
  unfold settle at left
  unfold offered
  split at left
  · exact absurd waited left
  · rename_i free
    rw [← turns_append_passOn told file.waiters] at waited
    rcases List.mem_append.mp waited with early | late
    · exact early
    · exact absurd late left

theorem not_mem_settle_of_offered {file : StoredFile} {client : ClientId}
    (inOrder : file.QueueInOrder) (offered : client ∈ file.offered told) :
    client ∉ (file.settle told).waiters := by
  unfold StoredFile.offered at offered
  unfold settle
  split at offered
  · cases offered
  · have nodup := inOrder.nodup
    rw [← turns_append_passOn told file.waiters] at nodup
    intro still
    exact (List.nodup_append.mp nodup).2.2 client offered client still rfl

theorem owner_settle_of_offered {file : StoredFile} {client : ClientId}
    (offered : client ∈ file.offered told) :
    (file.settle told).owner = some client ↔ told client = true := by
  unfold StoredFile.offered at offered
  unfold settle
  split at offered
  · cases offered
  · rename_i free
    simp only [passOn_fst_eq_some_iff, offered, true_and]

end Queue

/-- A file after its lock was taken back from those who were granted it and
could not be told. -/
def takeBack (told : ClientId → Bool) (path : String) :
    List LockGrant → StoredFile → StoredFile
  | [], file => file
  | grant :: others, file =>
      takeBack told path others
        (if grant.path = path ∧ told grant.client = false then
          file.release grant.client
        else
          file)

section TakeBack

variable {told : ClientId → Bool} {path : String}

/-- Only those who were granted the lock of a file can lose it. -/
theorem takeBack_of_other_owner {grants : List LockGrant}
    {file : StoredFile}
    (unheld : ∀ grant ∈ grants, grant.path = path →
      told grant.client = false → file.owner ≠ some grant.client) :
    takeBack told path grants file = file := by
  induction grants with
  | nil => rfl
  | cons grant others ih =>
      have rest := ih fun other listed =>
        unheld other (List.mem_cons_of_mem _ listed)
      rw [takeBack]
      split
      · rename_i both
        rw [release_of_not_held
          (unheld grant List.mem_cons_self both.1 both.2)]
        exact rest
      · exact rest

theorem takeBack_of_granted {grants : List LockGrant} {client : ClientId}
    {file : StoredFile} (held : file.owner = some client)
    (listed : { client, path } ∈ grants)
    (untold : told client = false) :
    takeBack told path grants file = file.release client := by
  have free : (file.release client).owner = none := by
    rw [release_of_held held]
  induction grants with
  | nil => cases listed
  | cons grant others ih =>
      rw [takeBack]
      by_cases here : grant = { client, path }
      · subst here
        rw [if_pos ⟨rfl, untold⟩]
        exact takeBack_of_other_owner fun other _ _ _ => by simp [free]
      · have later : { client, path } ∈ others := by
          rcases List.mem_cons.mp listed with same | later
          · exact absurd same.symm here
          · exact later
        have kept : (if grant.path = path ∧ told grant.client = false then
            file.release grant.client else file) = file := by
          split
          · rename_i both
            refine release_of_not_held ?_
            intro same
            rw [held, Option.some.injEq] at same
            rcases grant with ⟨other, target⟩
            exact here (by rw [same, ← both.1])
          · rfl
        rw [kept]
        exact ih later

end TakeBack

end StoredFile

end FileDepot
