import FileDepot.Index

/-!
# Laws of indexes

Every operation on an index is described by what `Index.find?` answers
afterwards.  Sizes and sums over all values follow the same operations, and a
look-up finds exactly the entries that the index lists.
-/

namespace FileDepot

namespace Index

variable {Key Value : Type}

@[simp] theorem totalOf_append (measure : Value → Nat)
    (first second : List (Key × Value)) :
    totalOf measure (first ++ second) =
      totalOf measure first + totalOf measure second := by
  induction first with
  | nil => simp [totalOf]
  | cons entry rest ih =>
      simp only [List.cons_append, totalOf, ih]
      omega

theorem totalOf_congr {measure : Value → Nat}
    {first second : List (Key × Value)}
    (same : first.map (fun entry => measure entry.2) =
      second.map fun entry => measure entry.2) :
    totalOf measure first = totalOf measure second := by
  induction first generalizing second with
  | nil =>
      cases second with
      | nil => rfl
      | cons entry rest => simp at same
  | cons entry rest ih =>
      cases second with
      | nil => simp at same
      | cons other others =>
          simp only [List.map_cons, List.cons.injEq] at same
          simp only [totalOf, same.1, ih same.2]

theorem countP_values (index : Index Key Value) (counts : Value → Bool) :
    index.values.countP counts =
      index.total fun value => (counts value).toNat := by
  simp only [values, total]
  induction index.entries with
  | nil => rfl
  | cons entry rest ih =>
      rw [List.map_cons, List.countP_cons, ih, totalOf]
      cases counts entry.2 with
      | true => exact Nat.add_comm _ 1
      | false => exact (Nat.zero_add _).symm

section Search

variable [DecidableEq Key]

/-- Where no key occurs twice, a look-up finds exactly the listed entries. -/
theorem lookup_eq_some_iff {key : Key} {value : Value}
    {entries : List (Key × Value)}
    (nodup : (entries.map Prod.fst).Nodup) :
    lookup key entries = some value ↔ (key, value) ∈ entries := by
  induction entries with
  | nil => simp [lookup]
  | cons entry rest ih =>
      rcases entry with ⟨other, present⟩
      simp only [List.map_cons, List.nodup_cons] at nodup
      have absent (same : other = key) : (key, value) ∉ rest := by
        intro listed
        exact nodup.1 (List.mem_map.mpr ⟨(key, value), listed, same.symm⟩)
      by_cases same : other = key
      · simp [lookup, same, absent same, eq_comm]
      · simp [lookup, same, ih nodup.2, Ne.symm same]

theorem find?_eq_some_iff (index : Index Key Value) {key : Key}
    {value : Value} :
    index.find? key = some value ↔ (key, value) ∈ index.entries :=
  lookup_eq_some_iff index.nodup

theorem find?_eq_none_iff (index : Index Key Value) {key : Key} :
    index.find? key = none ↔ key ∉ index.keys :=
  lookup_eq_none_iff

theorem contains_iff (index : Index Key Value) {key : Key} :
    index.contains key = true ↔ ∃ value, index.find? key = some value :=
  Option.isSome_iff_exists

theorem contains_eq_false_iff (index : Index Key Value) {key : Key} :
    index.contains key = false ↔ index.find? key = none := by
  simp [contains]

theorem mem_keys_iff (index : Index Key Value) {key : Key} :
    key ∈ index.keys ↔ index.contains key = true := by
  rw [← Decidable.not_iff_not, ← find?_eq_none_iff, Bool.not_eq_true,
    contains_eq_false_iff]

@[simp] theorem find?_empty (key : Key) :
    (empty : Index Key Value).find? key = none :=
  rfl

theorem lookup_change (key other : Key) (change : Value → Value)
    (entries : List (Key × Value)) :
    lookup other (entries.map fun entry =>
        if entry.1 = key then (entry.1, change entry.2) else entry) =
      if other = key then (lookup other entries).map change
      else lookup other entries := by
  induction entries with
  | nil => simp [lookup]
  | cons entry rest ih =>
      rcases entry with ⟨present, value⟩
      by_cases same : present = key
      · by_cases sought : present = other
        · simp [lookup, same, ← sought]
        · have different : other ≠ key := fun equal =>
            sought (same.trans equal.symm)
          simpa [lookup, same, sought, different, Ne.symm different] using ih
      · by_cases sought : present = other
        · simp [lookup, same, ← sought]
        · simpa [lookup, same, sought] using ih

theorem find?_modify (index : Index Key Value) (key other : Key)
    (change : Value → Value) :
    (index.modify key change).find? other =
      if other = key then (index.find? other).map change
      else index.find? other :=
  lookup_change key other change index.entries

@[simp] theorem find?_mapValues (index : Index Key Value) (key : Key)
    (change : Value → Value) :
    (index.mapValues change).find? key = (index.find? key).map change := by
  rcases index with ⟨entries, nodup⟩
  simp only [mapValues, find?]
  clear nodup
  induction entries with
  | nil => rfl
  | cons entry rest ih =>
      rcases entry with ⟨present, value⟩
      by_cases same : present = key
      · simp [lookup, same]
      · simpa [lookup, same] using ih

theorem find?_erase (index : Index Key Value) (key other : Key) :
    (index.erase key).find? other =
      if other = key then none else index.find? other := by
  apply Option.ext
  intro value
  rw [find?_eq_some_iff]
  by_cases same : other = key
  · simp [erase, same]
  · simp [erase, same, find?_eq_some_iff]

theorem lookup_append (key : Key) (first second : List (Key × Value)) :
    lookup key (first ++ second) =
      (lookup key first).or (lookup key second) := by
  induction first with
  | nil => rfl
  | cons entry rest ih =>
      rcases entry with ⟨present, value⟩
      by_cases same : present = key
      · simp [lookup, same]
      · simpa [lookup, same] using ih

theorem entries_insert_absent (index : Index Key Value) {key : Key}
    (value : Value) (absent : index.find? key = none) :
    (index.insert key value).entries = index.entries ++ [(key, value)] := by
  have unlisted : lookup key index.entries = none := absent
  simp [insert, unlisted]

theorem find?_insert (index : Index Key Value) (key other : Key)
    (value : Value) :
    (index.insert key value).find? other =
      if other = key then some value else index.find? other := by
  by_cases absent : index.find? key = none
  · rw [find?, entries_insert_absent index value absent, lookup_append,
      ← find?]
    by_cases same : other = key
    · simp [same, absent, lookup]
    · simp [same, lookup, Ne.symm same]
  · have listed : lookup key index.entries ≠ none := absent
    rw [insert, dif_neg listed, find?_modify]
    by_cases same : other = key
    · obtain ⟨old, found⟩ := Option.ne_none_iff_exists'.mp absent
      simp [same, found]
    · simp [same]

theorem insert_eq_modify (index : Index Key Value) {key : Key} {old : Value}
    (value : Value) (found : index.find? key = some old) :
    index.insert key value = index.modify key fun _ => value := by
  have listed : lookup key index.entries ≠ none := by
    rw [← find?, found]
    exact Option.some_ne_none old
  rw [insert, dif_neg listed]

theorem insert_insert (index : Index Key Value) (key : Key)
    (first second : Value) :
    (index.insert key first).insert key second = index.insert key second := by
  have present : (index.insert key first).find? key = some first := by
    rw [find?_insert, if_pos rfl]
  rw [insert_eq_modify _ second present]
  apply ext
  cases found : index.find? key with
  | none =>
      have unlisted : key ∉ index.entries.map Prod.fst :=
        lookup_eq_none_iff.mp found
      have kept : index.entries.map (fun entry =>
          if entry.1 = key then (entry.1, second) else entry) =
            index.entries := by
        refine (List.map_congr_left ?_).trans (List.map_id _)
        intro entry listed
        have different : entry.1 ≠ key := fun same =>
          unlisted (same ▸ List.mem_map_of_mem listed)
        exact if_neg different
      simp only [modify, entries_insert_absent index _ found,
        List.map_append, kept, List.map_cons, List.map_nil, if_true]
  | some old =>
      rw [insert_eq_modify index first found,
        insert_eq_modify index second found]
      simp only [modify, List.map_map]
      apply List.map_congr_left
      intro entry _
      by_cases same : entry.1 = key
      · simp [same]
      · simp [same]

theorem insert_found (index : Index Key Value) {key : Key} {value : Value}
    (found : index.find? key = some value) :
    index.insert key value = index := by
  rw [insert_eq_modify index value found]
  apply ext
  refine (List.map_congr_left ?_).trans (List.map_id _)
  rintro ⟨other, present⟩ listed
  by_cases same : other = key
  · subst same
    have listedPresent := index.find?_eq_some_iff.mpr listed
    rw [found, Option.some.injEq] at listedPresent
    simp [listedPresent]
  · simp [same]

theorem erase_modify (index : Index Key Value) (key : Key)
    (change : Value → Value) :
    (index.modify key change).erase key = index.erase key := by
  apply ext
  simp only [erase, modify]
  induction index.entries with
  | nil => rfl
  | cons entry rest ih =>
      rcases entry with ⟨present, value⟩
      by_cases same : present = key
      · simpa [same] using ih
      · simpa [same] using ih

theorem modify_modify_comm (index : Index Key Value) {first second : Key}
    (different : first ≠ second) (change other : Value → Value) :
    (index.modify first change).modify second other =
      (index.modify second other).modify first change := by
  apply ext
  simp only [modify, List.map_map]
  apply List.map_congr_left
  rintro ⟨key, value⟩ _
  by_cases here : key = first
  · subst here
    simp [different]
  · by_cases there : key = second
    · subst there
      simp [different.symm]
    · simp [here, there]

/-- A change of all values makes up for one that a value got before, if it
takes the old value and the new one to the same. -/
theorem mapValues_modify_found (index : Index Key Value) {key : Key}
    {old : Value} (found : index.find? key = some old) {value : Value}
    {change : Value → Value} (same : change value = change old) :
    (index.modify key fun _ => value).mapValues change =
      index.mapValues change := by
  apply ext
  simp only [modify, mapValues, List.map_map]
  apply List.map_congr_left
  rintro ⟨other, present⟩ listed
  by_cases here : other = key
  · subst here
    have foundPresent := index.find?_eq_some_iff.mpr listed
    rw [found, Option.some.injEq] at foundPresent
    simp [← foundPresent, same]
  · simp [here]

/-- A change that spares every value of an index changes nothing. -/
theorem mapValues_eq_self (index : Index Key Value) {change : Value → Value}
    (spares : ∀ key value, index.find? key = some value →
      change value = value) : index.mapValues change = index := by
  apply ext
  refine (List.map_congr_left ?_).trans (List.map_id _)
  rintro ⟨key, value⟩ listed
  have spared := spares key value (index.find?_eq_some_iff.mpr listed)
  exact congrArg (Prod.mk key) spared

theorem erase_erase_comm (index : Index Key Value) (first second : Key) :
    (index.erase first).erase second = (index.erase second).erase first := by
  apply ext
  simp only [erase, List.filter_filter]
  congr 1
  funext entry
  exact Bool.and_comm _ _

theorem erase_modify_comm (index : Index Key Value) (first second : Key)
    (change : Value → Value) :
    (index.modify first change).erase second =
      (index.erase second).modify first change := by
  apply ext
  simp only [erase, modify, List.filter_map]
  congr 2
  funext entry
  simp only [Function.comp_apply]
  split <;> rfl

end Search

section Measures

variable [DecidableEq Key]

theorem size_insert_absent (index : Index Key Value) {key : Key}
    (value : Value) (absent : index.find? key = none) :
    (index.insert key value).size = index.size + 1 := by
  simp [size, entries_insert_absent index value absent]

theorem total_insert_absent (index : Index Key Value) {key : Key}
    (value : Value) (measure : Value → Nat)
    (absent : index.find? key = none) :
    (index.insert key value).total measure =
      index.total measure + measure value := by
  simp [total, entries_insert_absent index value absent, totalOf]

/-- The first occurrence of a key splits the entries, and its removal joins
what stands before with what stands behind. -/
theorem entries_erase_found (index : Index Key Value) {key : Key}
    {value : Value} (found : index.find? key = some value) :
    ∃ before behind, index.entries = before ++ (key, value) :: behind ∧
      (index.erase key).entries = before ++ behind := by
  obtain ⟨before, behind, split⟩ :=
    List.append_of_mem ((index.find?_eq_some_iff).mp found)
  have nodup := index.nodup
  rw [split, List.map_append, List.map_cons, List.nodup_append] at nodup
  have keepsAll (part : List (Key × Value))
      (others : ∀ entry ∈ part, entry.1 ≠ key) :
      part.filter (fun entry => entry.1 ≠ key) = part :=
    List.filter_eq_self.mpr fun entry listed => by
      simpa using others entry listed
  refine ⟨before, behind, split, ?_⟩
  simp only [erase, split, List.filter_append]
  rw [keepsAll before, List.filter_cons, if_neg (by simp), keepsAll behind]
  · intro entry listed same
    exact (List.nodup_cons.mp nodup.2.1).1
      (List.mem_map.mpr ⟨entry, listed, same⟩)
  · intro entry listed same
    exact nodup.2.2 entry.1 (List.mem_map.mpr ⟨entry, listed, rfl⟩) key
      (by simp) same

/-- A value that takes the place of another stands where that one stood. -/
theorem entries_insert_found (index : Index Key Value) {key : Key}
    {old : Value} (value : Value) (found : index.find? key = some old) :
    ∃ before behind, index.entries = before ++ (key, old) :: behind ∧
      (index.insert key value).entries = before ++ (key, value) :: behind := by
  obtain ⟨before, behind, split⟩ :=
    List.append_of_mem ((index.find?_eq_some_iff).mp found)
  have nodup := index.nodup
  rw [split, List.map_append, List.map_cons, List.nodup_append] at nodup
  have keepsAll (part : List (Key × Value))
      (others : ∀ entry ∈ part, entry.1 ≠ key) :
      part.map (fun entry =>
        if entry.1 = key then (entry.1, value) else entry) = part := by
    refine (List.map_congr_left ?_).trans (List.map_id _)
    exact fun entry listed => if_neg (others entry listed)
  refine ⟨before, behind, split, ?_⟩
  rw [insert_eq_modify index value found]
  simp only [modify, split, List.map_append, List.map_cons, if_true]
  rw [keepsAll before, keepsAll behind]
  · intro entry listed same
    exact (List.nodup_cons.mp nodup.2.1).1
      (List.mem_map.mpr ⟨entry, listed, same⟩)
  · intro entry listed same
    exact nodup.2.2 entry.1 (List.mem_map.mpr ⟨entry, listed, rfl⟩) key
      (by simp) same

theorem size_erase_found (index : Index Key Value) {key : Key}
    {value : Value} (found : index.find? key = some value) :
    (index.erase key).size + 1 = index.size := by
  obtain ⟨before, behind, split, joined⟩ := index.entries_erase_found found
  simp only [size, split, joined, List.length_append, List.length_cons]
  omega

theorem total_erase_found (index : Index Key Value) {key : Key}
    {value : Value} (measure : Value → Nat)
    (found : index.find? key = some value) :
    (index.erase key).total measure + measure value =
      index.total measure := by
  obtain ⟨before, behind, split, joined⟩ := index.entries_erase_found found
  simp only [total, split, joined, totalOf_append, totalOf]
  omega

@[simp] theorem size_modify (index : Index Key Value) (key : Key)
    (change : Value → Value) :
    (index.modify key change).size = index.size := by
  simp [size, modify]

@[simp] theorem contains_modify (index : Index Key Value) (key other : Key)
    (change : Value → Value) :
    (index.modify key change).contains other = index.contains other := by
  simp only [contains, find?_modify]
  split <;> simp

end Measures

end Index

end FileDepot
