import FileDepot.Proofs.Files.Directories
import FileDepot.Proofs.IndexLaws

/-!
# What happens to the files that paths name

A change that leaves the directories alone may still take names away and give
names out.  `Keeps` says which names a change may take: every other path names
the file that it named before, and no file turns into something else.
-/

namespace FileDepot

namespace FileSystem

variable {system before middle after : FileSystem}

/-- No node has a number that is still to be given out. -/
def Numbered (system : FileSystem) : Prop :=
  ∀ node, system.next ≤ node → system.node? node = none

theorem numbered_fresh : fresh.Numbered := by
  intro node new
  have other : node ≠ 0 := by
    rintro rfl
    exact absurd new (by decide)
  rw [node?, fresh, Index.find?_insert, if_neg other]
  rfl

theorem Numbered.lt_next (numbered : system.Numbered) {node : NodeId}
    {present : Node} (found : system.node? node = some present) :
    node < system.next := by
  apply Nat.lt_of_not_le
  intro new
  rw [numbered node new] at found
  cases found

theorem directory?_eq_ok_iff {node parent : NodeId}
    {entries : Index String NodeId} :
    system.directory? node = .ok (parent, entries) ↔
      system.node? node = some (.directory parent entries) := by
  rw [directory?]
  split <;> simp_all

theorem entry?_eq_ok_iff {directory : NodeId} {name : String}
    {found : Option NodeId} :
    system.entry? directory name = .ok found ↔
      name.utf8ByteSize ≤ PathName.maxNameLength ∧
        ∃ parent entries,
          system.directory? directory = .ok (parent, entries) ∧
            entries.find? name = found := by
  rw [ entry?]
  cases system.directory? directory with
  | error fault => simp [bind, Except.bind]
  | ok inside =>
      obtain ⟨parent, entries⟩ := inside
      by_cases long : PathName.maxNameLength < name.utf8ByteSize
      · simp only [bind, Except.bind, if_pos long, reduceCtorEq, false_iff]
        exact fun fits => Nat.not_le.mpr long fits.1
      · simp only [bind, Except.bind, if_neg long, pure, Except.pure,
          Except.ok.injEq, Prod.mk.injEq, Nat.not_lt.mp long, true_and]
        constructor
        · exact fun found => ⟨parent, entries, ⟨rfl, rfl⟩, found⟩
        · rintro ⟨_, _, ⟨rfl, rfl⟩, found⟩
          exact found

theorem content?_isSome_iff {node : NodeId} :
    (system.content? node).isSome = true ↔
      ∃ content, system.node? node = some (.regular content) := by
  rw [content?]
  split <;> simp_all

theorem isDirectoryNode_eq_false_iff {node : NodeId} :
    system.isDirectoryNode node = false ↔
      ∀ parent entries,
        system.node? node ≠ some (.directory parent entries) := by
  rw [isDirectoryNode, directory?]
  cases system.node? node with
  | none => simp
  | some present => cases present <;> simp

theorem entry?_congr {node : NodeId}
    (same : after.directory? node = before.directory? node) (name : String) :
    after.entry? node name = before.entry? node name := by
  rw [ entry?, entry?, same]

theorem entry?_of_inside {directory parent : NodeId}
    {entries : Index String NodeId} {name : String} {found : Option NodeId}
    (inside : system.directory? directory = .ok (parent, entries)) :
    system.entry? directory name = .ok found ↔
      name.utf8ByteSize ≤ PathName.maxNameLength ∧
        entries.find? name = found := by
  rw [entry?_eq_ok_iff]
  constructor
  · rintro ⟨fits, _, _, again, listed⟩
    rw [inside, Except.ok.injEq, Prod.mk.injEq] at again
    exact ⟨fits, again.2 ▸ listed⟩
  · rintro ⟨fits, listed⟩
    exact ⟨fits, parent, entries, inside, listed⟩

/-- A change of files that takes no names but those that it may take. -/
structure Keeps (taken : NodeId → String → Prop)
    (before after : FileSystem) : Prop where
  directories : SameDirectories before after
  names : ∀ directory name node, ¬ taken directory name →
    before.entry? directory name = .ok (some node) →
      after.entry? directory name = .ok (some node)
  sockets : ∀ node, before.node? node = some .socket →
    after.node? node = some .socket
  files : ∀ node, (before.content? node).isSome = true →
    (after.content? node).isSome = true
  numbered : before.Numbered → after.Numbered

/-- A change that takes no name at all. -/
abbrev KeepsAll : FileSystem → FileSystem → Prop :=
  Keeps fun _ _ => False

namespace Keeps

variable {taken more : NodeId → String → Prop}

theorem refl (taken : NodeId → String → Prop) (system : FileSystem) :
    Keeps taken system system :=
  ⟨.refl system, fun _ _ _ _ found => found, fun _ found => found,
    fun _ found => found, id⟩

theorem trans (first : Keeps taken before middle)
    (second : Keeps taken middle after) : Keeps taken before after where
  directories := first.directories.trans second.directories
  names directory name node free found :=
    second.names directory name node free
      (first.names directory name node free found)
  sockets node found := second.sockets node (first.sockets node found)
  files node found := second.files node (first.files node found)
  numbered start := second.numbered (first.numbered start)

theorem mono (keeps : Keeps taken before after)
    (wider : ∀ directory name, taken directory name → more directory name) :
    Keeps more before after where
  directories := keeps.directories
  names directory name node free :=
    keeps.names directory name node (free ∘ wider directory name)
  sockets := keeps.sockets
  files := keeps.files
  numbered := keeps.numbered

end Keeps

theorem KeepsAll.keeps (keeps : KeepsAll before after)
    (taken : NodeId → String → Prop) : Keeps taken before after :=
  Keeps.mono keeps fun _ _ => False.elim

/-- A change of the names in one directory, of which none that refers to a
directory comes or goes. -/
theorem Keeps.of_inside {taken : NodeId → String → Prop}
    {directory parent : NodeId} {old new : Index String NodeId}
    (root : after.root = before.root) (here : after.here = before.here)
    (was : before.directory? directory = .ok (parent, old))
    (is : after.directory? directory = .ok (parent, new))
    (others : ∀ node, node ≠ directory →
      after.directory? node = before.directory? node)
    (below : ∀ name child, before.isDirectoryNode child = true →
      (new.find? name = some child ↔ old.find? name = some child))
    (names : ∀ name node, ¬ taken directory name →
      old.find? name = some node → new.find? name = some node)
    (leaves : ∀ node present, (∀ up down, present ≠ .directory up down) →
      before.node? node = some present → after.node? node = some present)
    (numbered : before.Numbered → after.Numbered) :
    Keeps taken before after where
  directories :=
    { root, here
      above := fun node => by
        by_cases inside : node = directory
        · rw [inside, was, is]
          rfl
        · rw [others node inside]
      below := fun node name child kind => by
        by_cases inside : node = directory
        · rw [inside, entry?_of_inside was, entry?_of_inside is,
            below name child kind]
        · rw [entry?_congr (others node inside)] }
  names node name child free found := by
    by_cases inside : node = directory
    · subst inside
      obtain ⟨fits, listed⟩ := (entry?_of_inside was).mp found
      exact (entry?_of_inside is).mpr ⟨fits, names name child free listed⟩
    · rwa [entry?_congr (others node inside)]
  sockets node found := leaves node .socket (by simp) found
  files node found := by
    obtain ⟨content, found⟩ := content?_isSome_iff.mp found
    exact content?_isSome_iff.mpr
      ⟨content, leaves node (.regular content) (by simp) found⟩
  numbered := numbered

/-- Locks are not part of the tree. -/
theorem keepsAll_locked (system : FileSystem) (locked : List NodeId) :
    KeepsAll system { system with locked } :=
  ⟨⟨rfl, rfl, fun _ => rfl, fun _ _ _ _ => Iff.rfl⟩,
    fun _ _ _ _ found => found, fun _ found => found, fun _ found => found, id⟩

/-- A change of what is in one directory is seen in that directory only. -/
theorem node?_changeEntries {directory parent : NodeId}
    {entries : Index String NodeId}
    (change : Index String NodeId → Index String NodeId)
    (inside : system.node? directory = some (.directory parent entries))
    (node : NodeId) :
    (system.changeEntries directory change).node? node =
      if node = directory then some (.directory parent (change entries))
      else system.node? node := by
  have entered : system.nodes.find? directory =
      some (.directory parent entries) := inside
  rw [changeEntries, node?, Index.find?_modify]
  by_cases here : node = directory
  · rw [if_pos here, if_pos here, here, entered]
    rfl
  · rw [if_neg here, if_neg here]
    rfl

/-! ### New names -/

section AddNode

variable {directory parent : NodeId} {name : String}
  {entries : Index String NodeId} {present : Node}

theorem node?_addNode (numbered : system.Numbered)
    (inside : system.node? directory = some (.directory parent entries))
    (node : NodeId) :
    (system.addNode directory name present).2.node? node =
      if node = directory then
        some (.directory parent (entries.insert name system.next))
      else if node = system.next then some present
      else system.node? node := by
  have old : directory ≠ system.next := Nat.ne_of_lt (numbered.lt_next inside)
  have grown (other : NodeId) :
      node? { system with
          nodes := system.nodes.insert system.next present
          next := system.next + 1 } other =
        if other = system.next then some present else system.node? other :=
    Index.find?_insert ..
  have entered := grown directory
  rw [if_neg old, inside] at entered
  rw [addNode, node?_changeEntries _ entered, grown]

variable (numbered : system.Numbered)
  (free : system.entry? directory name = .ok none)

include numbered free

theorem entry?_addNode :
    FileSystem.entry? (system.addNode directory name present).2 directory name =
      .ok (some system.next) := by
  obtain ⟨fits, parent, entries, inside, -⟩ := entry?_eq_ok_iff.mp free
  rw [directory?_eq_ok_iff] at inside
  refine entry?_eq_ok_iff.mpr
    ⟨fits, parent, entries.insert name system.next, ?_, ?_⟩
  · rw [directory?_eq_ok_iff, node?_addNode numbered inside, if_pos rfl]
  · rw [Index.find?_insert, if_pos rfl]

theorem node?_addNode_next :
    (system.addNode directory name present).2.node? system.next =
      some present := by
  obtain ⟨-, parent, entries, inside, -⟩ := entry?_eq_ok_iff.mp free
  rw [directory?_eq_ok_iff] at inside
  rw [node?_addNode numbered inside,
    if_neg (Nat.ne_of_gt (numbered.lt_next inside)), if_pos rfl]

/-- A file under a free name takes nothing from anybody. -/
theorem keepsAll_addNode (file : ∀ up below, present ≠ .directory up below) :
    KeepsAll system (system.addNode directory name present).2 := by
  obtain ⟨-, parent, entries, inside, unused⟩ := entry?_eq_ok_iff.mp free
  have entered := directory?_eq_ok_iff.mp inside
  have absent : system.node? system.next = none :=
    numbered system.next (Nat.le_refl _)
  have nodes (node : NodeId) :=
    @node?_addNode system directory parent name entries present numbered entered
      node
  have is : (system.addNode directory name present).2.directory? directory =
      .ok (parent, entries.insert name system.next) := by
    rw [directory?_eq_ok_iff, nodes, if_pos rfl]
  have others (node : NodeId) (other : node ≠ directory) :
      (system.addNode directory name present).2.directory? node =
        system.directory? node := by
    rw [directory?, directory?, nodes, if_neg other]
    by_cases new : node = system.next
    · rw [if_pos new, new, absent]
      cases present with
      | directory up below => exact absurd rfl (file up below)
      | regular content => rfl
      | socket => rfl
    · rw [if_neg new]
  have below (other : String) (child : NodeId)
      (kind : system.isDirectoryNode child = true) :
      (entries.insert name system.next).find? other = some child ↔
        entries.find? other = some child := by
    have old : system.next ≠ child := by
      rintro rfl
      rw [isDirectoryNode, directory?, absent] at kind
      cases kind
    rw [Index.find?_insert]
    by_cases same : other = name
    · simp [same, unused, old]
    · rw [if_neg same]
  have names (other : String) (node : NodeId) (_ : ¬ False)
      (found : entries.find? other = some node) :
      (entries.insert name system.next).find? other = some node := by
    rw [Index.find?_insert, if_neg, found]
    rintro rfl
    rw [unused] at found
    cases found
  refine Keeps.of_inside rfl rfl inside is others below names ?_ ?_
  · intro node old leaf found
    rw [nodes, if_neg, if_neg (Nat.ne_of_lt (numbered.lt_next found)), found]
    rintro rfl
    rw [entered, Option.some.injEq] at found
    exact leaf _ _ found.symm
  · intro _ node new
    have past : system.next < node := new
    have old := numbered.lt_next entered
    rw [nodes, if_neg (Nat.ne_of_gt (Nat.lt_trans old past)),
      if_neg (Nat.ne_of_gt past)]
    exact numbered node (Nat.le_of_lt past)

end AddNode

/-! ### Names that go -/

section EraseName

variable {directory : NodeId} {name : String} {node : NodeId}
  (found : system.entry? directory name = .ok (some node))

include found

theorem entry?_eraseName :
    FileSystem.entry?
      (system.changeEntries directory fun entries => entries.erase name)
      directory name = .ok none := by
  obtain ⟨fits, parent, entries, inside, -⟩ := entry?_eq_ok_iff.mp found
  rw [directory?_eq_ok_iff] at inside
  refine entry?_eq_ok_iff.mpr ⟨fits, parent, entries.erase name, ?_, ?_⟩
  · rw [directory?_eq_ok_iff, node?_changeEntries _ inside, if_pos rfl]
  · rw [Index.find?_erase, if_pos rfl]

/-- Removing the name of a file takes that name and nothing else. -/
theorem keeps_eraseName (file : system.isDirectoryNode node = false) :
    Keeps (fun place taken => place = directory ∧ taken = name) system
      (system.changeEntries directory fun entries => entries.erase name) := by
  obtain ⟨-, parent, entries, inside, listed⟩ := entry?_eq_ok_iff.mp found
  have entered := directory?_eq_ok_iff.mp inside
  have nodes := node?_changeEntries (fun entries => entries.erase name) entered
  have is : (system.changeEntries directory fun entries =>
      entries.erase name).directory? directory =
        .ok (parent, entries.erase name) := by
    rw [directory?_eq_ok_iff, nodes, if_pos rfl]
  have others (other : NodeId) (outside : other ≠ directory) :
      (system.changeEntries directory fun entries =>
        entries.erase name).directory? other = system.directory? other := by
    rw [directory?, directory?, nodes, if_neg outside]
  have below (other : String) (child : NodeId)
      (kind : system.isDirectoryNode child = true) :
      (entries.erase name).find? other = some child ↔
        entries.find? other = some child := by
    rw [Index.find?_erase]
    by_cases same : other = name
    · have differs : node ≠ child := by
        rintro rfl
        rw [file] at kind
        cases kind
      simp [same, listed, differs]
    · rw [if_neg same]
  have names (other : String) (child : NodeId)
      (spared : ¬ (directory = directory ∧ other = name))
      (present : entries.find? other = some child) :
      (entries.erase name).find? other = some child := by
    rw [Index.find?_erase, if_neg fun same => spared ⟨rfl, same⟩, present]
  refine Keeps.of_inside rfl rfl inside is others below names ?_ ?_
  · intro other old leaf present
    rw [nodes, if_neg, present]
    rintro rfl
    rw [entered, Option.some.injEq] at present
    exact leaf _ _ present.symm
  · intro numbered other new
    have old : directory < other :=
      Nat.lt_of_lt_of_le (numbered.lt_next entered) new
    rw [nodes, if_neg (Nat.ne_of_gt old)]
    exact numbered other new

end EraseName

/-! ### New contents -/

theorem node?_setContent {node : NodeId} {content : Bytes} (other : NodeId) :
    (system.setContent node content).node? other =
      if other = node then (system.node? other).map fun _ => .regular content
      else system.node? other :=
  Index.find?_modify ..

theorem keepsAll_setContent {node : NodeId} (content : Bytes)
    (file : (system.content? node).isSome = true) :
    KeepsAll system (system.setContent node content) := by
  obtain ⟨old, present⟩ := content?_isSome_iff.mp file
  have inside (other : NodeId) :
      (system.setContent node content).directory? other =
        system.directory? other := by
    rw [directory?, directory?, node?_setContent]
    by_cases same : other = node
    · rw [if_pos same, same, present]
      rfl
    · rw [if_neg same]
  constructor
  case directories =>
    exact ⟨rfl, rfl, fun other => by rw [inside],
      fun other name _ _ => by rw [entry?_congr (inside other)]⟩
  case names =>
    intro other name _ _ found
    rwa [entry?_congr (inside other)]
  case sockets =>
    intro other socket
    rw [node?_setContent, if_neg, socket]
    rintro rfl
    rw [present] at socket
    cases socket
  case files =>
    intro other regular
    obtain ⟨was, found⟩ := content?_isSome_iff.mp regular
    rw [content?_isSome_iff, node?_setContent]
    by_cases same : other = node
    · exact ⟨content, by rw [if_pos same, found]; rfl⟩
    · exact ⟨was, by rw [if_neg same, found]⟩
  case numbered =>
    intro numbered other new
    rw [node?_setContent, numbered other new]
    split <;> rfl

end FileSystem

end FileDepot
