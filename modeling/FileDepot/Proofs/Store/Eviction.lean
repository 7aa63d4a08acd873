import FileDepot.Proofs.Store.Tables
import FileDepot.Store.Eviction
import Mathlib.Data.List.Basic

/-!
# Victims and their eviction

Victims are chosen along the order of the store, among the files that may go,
and together they free what is wanted.  Evicting them takes exactly their
files out, hands out their contents, and names everybody who waited for them.
-/

namespace FileDepot

namespace Store

/-- The size of the file at a path, zero if there is none. -/
def sizeAt (store : Store) (path : String) : Nat :=
  match store.file? path with
  | none => 0
  | some file => file.size

/-- The sizes of the files at some paths, together. -/
def bytesAt (store : Store) : List String → Nat
  | [] => 0
  | path :: others => store.sizeAt path + store.bytesAt others

/-- The clients that wait for the file at a path. -/
def orphansAt (store : Store) (path : String) : List Orphan :=
  match store.file? path with
  | none => []
  | some file => orphansOf path file

section Planning

variable {store : Store} {requester : ClientId} {spared : Option String}

/-- How a choice along a path and the younger ones comes about. -/
theorem chooseVictims_cons {path : String} {younger victims : List String}
    {need : Shortfall}
    (chosen : store.chooseVictims requester spared (path :: younger) need =
      some victims) :
    (need.met = true ∧ victims = []) ∨
      (need.met = false ∧
        store.chooseVictims requester spared younger need = some victims) ∨
      ∃ file rest, store.file? path = some file ∧
        passesOver spared requester need path file = false ∧
        store.chooseVictims requester spared younger (need.less file) =
          some rest ∧ victims = path :: rest := by
  rw [chooseVictims] at chosen
  cases met : need.met with
  | true =>
      simp only [met, if_true, Option.some.injEq] at chosen
      exact Or.inl ⟨rfl, chosen.symm⟩
  | false =>
      right
      simp only [met, Bool.false_eq_true, if_false] at chosen
      cases found : store.file? path with
      | none =>
          rw [found] at chosen
          exact Or.inl ⟨rfl, chosen⟩
      | some file =>
          rw [found] at chosen
          cases passed : passesOver spared requester need path file with
          | true =>
              simp only [passed, if_true] at chosen
              exact Or.inl ⟨rfl, chosen⟩
          | false =>
              simp only [passed, Bool.false_eq_true, if_false,
                Option.map_eq_some_iff] at chosen
              obtain ⟨rest, later, rfl⟩ := chosen
              exact Or.inr ⟨file, rest, rfl, passed, later, rfl⟩

theorem chooseVictims_nil {victims : List String} {need : Shortfall}
    (chosen : store.chooseVictims requester spared [] need = some victims) :
    need.met = true ∧ victims = [] := by
  rw [chooseVictims] at chosen
  cases met : need.met with
  | true =>
      simp only [met, if_true, Option.some.injEq] at chosen
      exact ⟨rfl, chosen.symm⟩
  | false => simp [met] at chosen

theorem chooseVictims_sublist {paths victims : List String}
    {need : Shortfall}
    (chosen : store.chooseVictims requester spared paths need =
      some victims) : victims.Sublist paths := by
  induction paths generalizing victims need with
  | nil => simp [(chooseVictims_nil chosen).2]
  | cons path younger ih =>
      rcases chooseVictims_cons chosen with
        ⟨-, rfl⟩ | ⟨-, later⟩ | ⟨file, rest, -, -, later, rfl⟩
      · exact List.nil_sublist _
      · exact (ih later).cons path
      · exact (ih later).cons_cons path

/-- A victim is a stored file that is not spared and that nobody but the
requester has locked. -/
theorem chooseVictims_eligible {paths victims : List String}
    {need : Shortfall}
    (chosen : store.chooseVictims requester spared paths need =
      some victims) {victim : String} (member : victim ∈ victims) :
    spared ≠ some victim ∧ ∃ file, store.file? victim = some file ∧
      file.lockedByOther requester = false := by
  induction paths generalizing victims need with
  | nil => simp [(chooseVictims_nil chosen).2] at member
  | cons path younger ih =>
      rcases chooseVictims_cons chosen with
        ⟨-, rfl⟩ | ⟨-, later⟩ | ⟨file, rest, found, passed, later, rfl⟩
      · simp at member
      · exact ih later member
      · rcases List.mem_cons.mp member with rfl | among
        · simp only [passesOver, Bool.or_eq_false_iff,
            decide_eq_false_iff_not] at passed
          exact ⟨passed.1.1, file, found, passed.1.2⟩
        · exact ih later among

/-- Victims free as many files and bytes as are wanted. -/
theorem chooseVictims_frees {paths victims : List String}
    {need : Shortfall}
    (chosen : store.chooseVictims requester spared paths need =
      some victims) :
    need.files ≤ victims.length ∧ need.bytes ≤ store.bytesAt victims := by
  have nothingWanted {need : Shortfall} (met : need.met = true) :
      need.files = 0 ∧ need.bytes = 0 := by
    simpa [Shortfall.met] using met
  induction paths generalizing victims need with
  | nil =>
      obtain ⟨met, rfl⟩ := chooseVictims_nil chosen
      obtain ⟨noFiles, noBytes⟩ := nothingWanted met
      omega
  | cons path younger ih =>
      rcases chooseVictims_cons chosen with
        ⟨met, rfl⟩ | ⟨-, later⟩ | ⟨file, rest, found, -, later, rfl⟩
      · obtain ⟨noFiles, noBytes⟩ := nothingWanted met
        omega
      · exact ih later
      · have restFrees := ih later
        simp only [Shortfall.less] at restFrees
        simp only [List.length_cons, bytesAt, sizeAt, found]
        omega

end Planning

section Evicting

theorem evict_cons_of_take {store smaller : Store} {path : String}
    {file : StoredFile} (taken : store.take path = some (file, smaller))
    (others : List String) :
    evict (path :: others) store =
      let (evicted, after) := evict others
        { smaller with evictions := smaller.evictions + 1 }
      ({ files := ⟨path, file.content⟩ :: evicted.files
         orphans := orphansOf path file ++ evicted.orphans }, after) := by
  rw [evict, taken]

theorem evict_cons_of_absent {store : Store} {path : String}
    (absent : store.file? path = none) (others : List String) :
    evict (path :: others) store = evict others store := by
  rw [evict, take_eq_none_iff.mpr absent]

theorem file?_evict (victims : List String) (store : Store) (path : String) :
    (evict victims store).2.file? path =
      if path ∈ victims then none else store.file? path := by
  induction victims generalizing store with
  | nil => simp [evict]
  | cons victim others ih =>
      cases taken : store.take victim with
      | none =>
          have absent := take_eq_none_iff.mp taken
          rw [evict_cons_of_absent absent, ih]
          by_cases same : path = victim
          · simp [same, absent]
          · simp [same]
      | some removed =>
          rcases removed with ⟨file, smaller⟩
          rw [evict_cons_of_take taken]
          have kept := file?_of_take taken path
          simp only [ih, List.mem_cons]
          change (if path ∈ others then none else smaller.file? path) = _
          rw [kept]
          by_cases same : path = victim
          · simp [same]
          · simp [same]

@[simp] theorem limits_evict (victims : List String) (store : Store) :
    (evict victims store).2.limits = store.limits := by
  induction victims generalizing store with
  | nil => rfl
  | cons victim others ih =>
      cases taken : store.take victim with
      | none => rw [evict_cons_of_absent (take_eq_none_iff.mp taken), ih]
      | some removed =>
          rcases removed with ⟨file, smaller⟩
          rw [evict_cons_of_take taken]
          simp only [ih]
          obtain ⟨-, rfl⟩ := take_eq_some_iff.mp taken
          rfl

/-- The orphans of an eviction are the clients that waited for the victims, in
the order of the victims and of their queues. -/
theorem orphans_evict {victims : List String} (nodup : victims.Nodup)
    (store : Store) :
    (evict victims store).1.orphans = victims.flatMap store.orphansAt := by
  induction victims generalizing store with
  | nil => rfl
  | cons victim others ih =>
      obtain ⟨notAgain, othersNodup⟩ := List.nodup_cons.mp nodup
      rw [List.flatMap_cons]
      cases taken : store.take victim with
      | none =>
          have absent := take_eq_none_iff.mp taken
          rw [evict_cons_of_absent absent, ih othersNodup]
          simp [orphansAt, absent]
      | some removed =>
          rcases removed with ⟨file, smaller⟩
          obtain ⟨found, -⟩ := take_eq_some_iff.mp taken
          rw [evict_cons_of_take taken]
          simp only [ih othersNodup]
          have here : store.orphansAt victim = orphansOf victim file := by
            simp [orphansAt, found]
          rw [here]
          congr 1
          apply List.flatMap_congr
          intro other among
          have different : other ≠ victim := fun same =>
            notAgain (same ▸ among)
          have kept := file?_of_take taken other
          rw [if_neg different] at kept
          simp only [orphansAt]
          change (match smaller.file? other with
            | none => []
            | some file => orphansOf other file) = _
          rw [kept]

end Evicting

end Store

end FileDepot
