/-!
# Indexes

An index holds at most one value for each key and remembers the order in
which its keys first came.  `Index.find?` is the view of an index through
which its operations are described.
-/

namespace FileDepot

/-- Values by key, at most one for each key. -/
structure Index (Key Value : Type) where
  entries : List (Key × Value) := []
  nodup : (entries.map Prod.fst).Nodup := by simp

namespace Index

variable {Key Value : Type}

/-- The keys, in the order in which they came. -/
def keys (index : Index Key Value) : List Key :=
  index.entries.map Prod.fst

/-- The values, in the order of their keys. -/
def values (index : Index Key Value) : List Value :=
  index.entries.map Prod.snd

/-- The sum of a measure over the values of entries. -/
def totalOf (measure : Value → Nat) : List (Key × Value) → Nat
  | [] => 0
  | (_, value) :: rest => measure value + totalOf measure rest

/-- The sum of a measure over all values. -/
def total (index : Index Key Value) (measure : Value → Nat) : Nat :=
  totalOf measure index.entries

def size (index : Index Key Value) : Nat :=
  index.entries.length

instance [Repr Key] [Repr Value] : Repr (Index Key Value) where
  reprPrec index precedence := reprPrec index.entries precedence

instance [DecidableEq Key] [DecidableEq Value] : DecidableEq (Index Key Value) :=
  fun first second =>
    if same : first.entries = second.entries then
      isTrue (by cases first; cases second; cases same; rfl)
    else
      isFalse fun equal => same (congrArg entries equal)

theorem ext {first second : Index Key Value}
    (same : first.entries = second.entries) : first = second := by
  cases first; cases second; cases same; rfl

def empty : Index Key Value := {}

instance : Inhabited (Index Key Value) := ⟨empty⟩

section Search

variable [DecidableEq Key]

/-- The value of the first entry with the given key. -/
def lookup (key : Key) : List (Key × Value) → Option Value
  | [] => none
  | (other, value) :: rest =>
      if other = key then some value else lookup key rest

def find? (index : Index Key Value) (key : Key) : Option Value :=
  lookup key index.entries

def contains (index : Index Key Value) (key : Key) : Bool :=
  (index.find? key).isSome

theorem lookup_eq_none_iff {key : Key} {entries : List (Key × Value)} :
    lookup key entries = none ↔ key ∉ entries.map Prod.fst := by
  induction entries with
  | nil => simp [lookup]
  | cons entry rest ih =>
      rcases entry with ⟨other, value⟩
      by_cases same : other = key
      · simp [lookup, same]
      · simp [lookup, same, ih, Ne.symm same]

def modify (index : Index Key Value) (key : Key) (change : Value → Value) :
    Index Key Value where
  entries := index.entries.map fun entry =>
    if entry.1 = key then (entry.1, change entry.2) else entry
  nodup := by
    have sameKeys : (index.entries.map fun entry =>
          if entry.1 = key then (entry.1, change entry.2) else entry).map
            Prod.fst = index.entries.map Prod.fst := by
      rw [List.map_map]
      apply List.map_congr_left
      intro entry _
      simp only [Function.comp_apply]
      split <;> rfl
    rw [sameKeys]
    exact index.nodup

theorem totalOf_replace_absent {key : Key} (change : Value → Value)
    (measure : Value → Nat) {entries : List (Key × Value)}
    (absent : key ∉ entries.map Prod.fst) :
    totalOf measure (entries.map fun entry =>
      if entry.1 = key then (entry.1, change entry.2) else entry) =
      totalOf measure entries := by
  induction entries with
  | nil => rfl
  | cons entry rest ih =>
      rcases entry with ⟨other, value⟩
      simp only [List.map_cons, List.mem_cons, not_or] at absent
      simp [totalOf, Ne.symm absent.1, ih absent.2]

theorem total_modify (index : Index Key Value) (key : Key) (value old : Value)
    (measure : Value → Nat) (found : index.find? key = some old) :
    (index.modify key fun _ => value).total measure + measure old =
      index.total measure + measure value := by
  rcases index with ⟨entries, nodup⟩
  simp only [find?, modify, total] at found ⊢
  induction entries with
  | nil => simp [lookup] at found
  | cons entry rest ih =>
      rcases entry with ⟨other, present⟩
      simp only [List.map_cons, List.nodup_cons] at nodup
      by_cases same : other = key
      · subst same
        simp only [lookup, if_pos, Option.some.injEq] at found
        subst found
        simp only [List.map_cons, if_pos, totalOf]
        rw [totalOf_replace_absent (fun _ => value) measure nodup.1]
        omega
      · simp only [lookup, same, if_false] at found
        have smaller := ih nodup.2 found
        simp only [List.map_cons, same, if_false, totalOf]
        omega

def mapValues (index : Index Key Value) (change : Value → Value) :
    Index Key Value where
  entries := index.entries.map fun entry => (entry.1, change entry.2)
  nodup := by
    rw [List.map_map]
    exact index.nodup

def erase (index : Index Key Value) (key : Key) : Index Key Value where
  entries := index.entries.filter fun entry => entry.1 ≠ key
  nodup := index.nodup.sublist (List.filter_sublist.map Prod.fst)

/-- Gives a key a value, in place of the one that it has or else behind all
other keys. -/
def insert (index : Index Key Value) (key : Key) (value : Value) :
    Index Key Value :=
  if absent : lookup key index.entries = none then
    { entries := index.entries ++ [(key, value)]
      nodup := by
        rw [List.map_append, List.nodup_append]
        refine ⟨index.nodup, by simp, ?_⟩
        intro first firstIn second secondIn same
        simp only [List.map_cons, List.map_nil, List.mem_singleton] at secondIn
        subst same secondIn
        exact lookup_eq_none_iff.mp absent firstIn }
  else
    index.modify key fun _ => value

end Search

end Index

end FileDepot
