import FileDepot.Proofs.Files.NamedFiles

/-!
# What the calls on files come to

Each call on a path either fails or finds the place of the path and does one
thing there.  The lemmas say which, so that nothing else takes the calls
apart.
-/

namespace FileDepot

namespace FileSystem

variable {system before after : FileSystem} {path name : String}
  {directory node : NodeId}

/-- A path leads to a name in a directory, and the name refers to a node. -/
structure Names (system : FileSystem) (path : String) (directory : NodeId)
    (name : String) (node : NodeId) : Prop where
  located : system.locate path = .ok (.entry directory name false)
  found : system.entry? directory name = .ok (some node)

namespace Names

theorem resolve (names : system.Names path directory name node) :
    system.resolve path = .ok node := by
  simp [FileSystem.resolve, nodeAt?, names.located, names.found, bind,
    Except.bind, pure, Except.pure]

theorem node_unique (names : system.Names path directory name node)
    {place : NodeId} {other : String} {child : NodeId}
    (again : system.Names path place other child) : child = node := by
  have resolved := again.resolve
  rw [names.resolve] at resolved
  exact (Except.ok.inj resolved).symm

/-- A path goes on to name its file unless the name is taken away. -/
theorem kept {taken : NodeId → String → Prop}
    (names : before.Names path directory name node)
    (keeps : Keeps taken before after) (spared : ¬ taken directory name) :
    after.Names path directory name node where
  located := keeps.directories.locate
    (isDirectoryNode_of_asked names.found) names.located
  found := keeps.names directory name node spared names.found

/-- A path that leads to a name which refers to something else no longer
names its file. -/
theorem lost (names : before.Names path directory name node)
    (same : SameDirectories before after)
    (gone : after.entry? directory name ≠ .ok (some node)) :
    after.resolve path ≠ .ok node := by
  have located := same.locate (isDirectoryNode_of_asked names.found)
    names.located
  intro resolved
  obtain ⟨place, again, resolved⟩ := bind_eq_ok_iff.mp resolved
  rw [located, Except.ok.injEq] at again
  obtain ⟨found, asked, resolved⟩ := bind_eq_ok_iff.mp resolved
  subst again
  cases found with
  | none => cases resolved
  | some other =>
      cases resolved
      apply gone
      rw [nodeAt?] at asked
      split at asked <;> simp_all

end Names

/-- Opening a file for writing finds the file or makes it. -/
theorem openForWriting_cases {opened : FileSystem}
    (success : system.openForWriting path = .ok (node, opened)) :
    ∃ directory name,
      system.locate path = .ok (.entry directory name false) ∧
        (system.entry? directory name = .ok none ∧
            (node, opened) = system.addNode directory name (.regular []) ∨
          system.entry? directory name = .ok (some node) ∧
            (system.content? node).isSome = true ∧ opened = system) := by
  obtain ⟨place, located, success⟩ := bind_eq_ok_iff.mp success
  match place with
  | .node _ => cases success
  | .entry directory name true =>
      obtain ⟨_, -, refused⟩ := bind_eq_ok_iff.mp success
      cases refused
  | .entry directory name false =>
      obtain ⟨found, asked, success⟩ := bind_eq_ok_iff.mp success
      rw [mapError_eq_ok_iff] at asked
      refine ⟨directory, name, located, ?_⟩
      cases found with
      | none => exact .inl ⟨asked, (Except.ok.inj success).symm⟩
      | some present =>
          cases kind : system.node? present with
          | none => simp [kind] at success
          | some shape =>
              cases shape with
              | directory parent entries => simp [kind] at success
              | socket => simp [kind] at success
              | regular content =>
                  simp only [kind, pure, Except.pure, Except.ok.injEq,
                    Prod.mk.injEq] at success
                  obtain ⟨rfl, rfl⟩ := success
                  exact .inr ⟨asked, content?_isSome_iff.mpr ⟨content, kind⟩,
                    rfl⟩

theorem openForWriting_opened {opened : FileSystem}
    (numbered : system.Numbered)
    (success : system.openForWriting path = .ok (node, opened)) :
    KeepsAll system opened ∧ opened.locked = system.locked ∧
      (opened.content? node).isSome = true ∧
        ∃ directory name, opened.Names path directory name node := by
  obtain ⟨directory, name, located, ⟨free, made⟩ | ⟨found, file, rfl⟩⟩ :=
    openForWriting_cases success
  · have newNode : node = system.next := congrArg Prod.fst made
    have newSystem : opened =
        (system.addNode directory name (.regular [])).2 :=
      congrArg Prod.snd made
    subst newNode newSystem
    have keeps : KeepsAll system
        (system.addNode directory name (.regular [])).2 :=
      keepsAll_addNode numbered free (by simp)
    refine ⟨keeps, rfl, ?_, directory, name, ?_, entry?_addNode numbered free⟩
    · exact content?_isSome_iff.mpr ⟨[], node?_addNode_next numbered free⟩
    · exact keeps.directories.locate (isDirectoryNode_of_asked free) located
  · exact ⟨.refl _ opened, rfl, file, directory, name, located, found⟩

/-- Removing a file takes its name away. -/
theorem removeFile_eq_ok_iff :
    system.removeFile path = .ok after ↔
      ∃ directory name node, system.Names path directory name node ∧
        system.isDirectoryNode node = false ∧
          after = system.changeEntries directory fun entries =>
            entries.erase name := by
  constructor
  · intro success
    obtain ⟨place, located, success⟩ := bind_eq_ok_iff.mp success
    match place with
    | .node _ => cases success
    | .entry directory name only =>
        obtain ⟨found, asked, success⟩ := bind_eq_ok_iff.mp success
        rw [mapError_eq_ok_iff] at asked
        cases found with
        | none => cases success
        | some node =>
            cases file : system.isDirectoryNode node with
            | true => simp [file] at success
            | false =>
                cases only with
                | true => simp [file] at success
                | false =>
                    simp only [file, pure, Except.pure, Bool.false_eq_true,
                      if_false, Except.ok.injEq] at success
                    exact ⟨directory, name, node, ⟨located, asked⟩, file,
                      success.symm⟩
  · rintro ⟨directory, name, node, ⟨located, found⟩, file, rfl⟩
    refine bind_eq_ok_iff.mpr ⟨_, located, bind_eq_ok_iff.mpr
      ⟨some node, mapError_eq_ok_iff.mpr found, ?_⟩⟩
    simp [file, pure, Except.pure]

/-- A place for a new file is a name that refers to nothing. -/
theorem freePlace_cases
    (success : system.freePlace path false = .ok (directory, name)) :
    system.locate path = .ok (.entry directory name false) ∧
      system.entry? directory name = .ok none := by
  obtain ⟨place, located, success⟩ := bind_eq_ok_iff.mp success
  match place with
  | .node _ => cases success
  | .entry _ _ only =>
      obtain ⟨found, asked, success⟩ := bind_eq_ok_iff.mp success
      rw [mapError_eq_ok_iff] at asked
      cases found with
      | some node => cases success
      | none =>
          cases only with
          | true => cases success
          | false =>
              cases success
              exact ⟨located, asked⟩

/-- A socket is bound to a free name, or to no name if the path is empty. -/
theorem bindSocket_cases (success : system.bindSocket path = .ok after) :
    path = "" ∧ after = system ∨
      ∃ directory name,
        system.locate path = .ok (.entry directory name false) ∧
          system.entry? directory name = .ok none ∧
            after = (system.addNode directory name .socket).2 := by
  rw [bindSocket] at success
  by_cases nul : path.toList.contains (Char.ofNat 0) = true
  · rw [if_pos nul] at success
    cases success
  rw [if_neg nul] at success
  by_cases long : maxAddressLength ≤ path.utf8ByteSize
  · rw [if_pos long] at success
    cases success
  rw [if_neg long] at success
  by_cases unnamed : path.isEmpty = true
  · rw [if_pos unnamed] at success
    exact .inl ⟨String.isEmpty_iff.mp unnamed, (Except.ok.inj success).symm⟩
  rw [if_neg unnamed] at success
  cases placed : system.freePlace path false with
  | error fault =>
      rw [placed] at success
      split at success <;> simp_all
  | ok place =>
      rw [placed] at success
      obtain ⟨directory, name⟩ := place
      obtain ⟨located, free⟩ := freePlace_cases placed
      exact .inr ⟨directory, name, located, free, (Except.ok.inj success).symm⟩

theorem bindSocket_bound (numbered : system.Numbered)
    (success : system.bindSocket path = .ok after) :
    KeepsAll system after ∧ after.locked = system.locked ∧
      (path ≠ "" → ∃ directory name node,
        after.Names path directory name node ∧
          after.node? node = some .socket) := by
  obtain ⟨unnamed, rfl⟩ | ⟨directory, name, located, free, rfl⟩ :=
    bindSocket_cases success
  · exact ⟨.refl _ after, rfl, fun named => absurd unnamed named⟩
  · have keeps : KeepsAll system (system.addNode directory name .socket).2 :=
      keepsAll_addNode numbered free (by simp)
    refine ⟨keeps, rfl, fun _ => ⟨directory, name, system.next,
      ⟨?_, entry?_addNode numbered free⟩, node?_addNode_next numbered free⟩⟩
    exact keeps.directories.locate (isDirectoryNode_of_asked free) located

end FileSystem

end FileDepot
