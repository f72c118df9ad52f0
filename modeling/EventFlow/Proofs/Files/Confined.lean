import EventFlow.Proofs.Files.Creating

/-!
What saving flows in a directory changes.

* `save_others`: whatever befalls a save, it changes its file and the sibling of that, and nothing
  else;
* `saved_alone`: so saving a flow leaves the files of all flows alone that are stored under other
  names;
* `Confined`: nothing is different but flow files and their siblings, as children of the directory;
  `SavedAlone.confined`, `Confined.trans`: so it is after any saves.
-/

namespace EventFlow.Files

/-- The locations of a directory and of those that its path goes through. -/
def Path.Reaches (dir : Path) (l : Location) : Prop :=
  ∃ parts, parts <+: dir.parts ∧ parts.foldl enter [] = l

/-- Nothing has come to a location but the directory itself or one on its way, where there was
nothing. -/
def Spared (dir : Path) (t u : Tree) (l : Location) : Prop :=
  u.entry? l = t.entry? l ∨ dir.Reaches l ∧ t.entry? l = none ∧ u.entry? l = some .directory

/-- The places of flow files in a directory, and of the siblings that they are written to first. -/
def FlowPlace (dir : Path) (l : Location) : Prop :=
  ∃ name, isFlowFile name = true ∧
    (l = dir.location ++ [name] ∨ l = dir.location ++ [name ++ ".tmp"])

/-- The trees that differ from an earlier one in flow files of a directory and their siblings
only. -/
def Confined (dir : Path) (t u : Tree) : Prop :=
  ∀ l, ¬FlowPlace dir l → Spared dir t u l

/-- The trees that differ from an earlier one in the file of one flow and its sibling only. What is
stored under another name is still there. -/
structure SavedAlone (dir : Path) (flow : String) (t u : Tree) : Prop where
  spared : ∀ l, l ≠ dir.location ++ [fileName flow] →
    l ≠ dir.location ++ [fileName flow ++ ".tmp"] → Spared dir t u l
  others : ∀ other entry, fileName other ≠ fileName flow →
    t.entry? (dir.location ++ [fileName other]) = some entry →
    u.entry? (dir.location ++ [fileName other]) = some entry

variable {dir p : Path} {t u v : Tree} {l : Location}

theorem Spared.trans (h : Spared dir t u l) (h' : Spared dir u v l) : Spared dir t v l := by
  obtain same | ⟨reached, free, made⟩ := h
  · rwa [Spared, ← same]
  · obtain same | ⟨-, free', -⟩ := h'
    · exact .inr ⟨reached, free, same.trans made⟩
    · rw [made] at free'
      cases free'

theorem Spared.kept {entry : Entry} (h : Spared dir t u l) (there : t.entry? l = some entry) :
    u.entry? l = some entry := by
  obtain same | ⟨-, free, -⟩ := h
  · rw [same, there]
  · rw [free] at there
    cases there

theorem Confined.refl (dir : Path) (t : Tree) : Confined dir t t :=
  fun _ _ => .inl rfl

theorem Confined.trans (h : Confined dir t u) (h' : Confined dir u v) : Confined dir t v :=
  fun l other => (h l other).trans (h' l other)

/-- On the way of a file is the directory that it is in, and what is on the way of that. -/
theorem Undisturbed.spared {name : String} (solid : Solid name)
    (h : Undisturbed (dir.child name) t u l) : Spared dir t u l := by
  have above : Spared (dir.child name).parent t u l := h
  rwa [Path.parent_child solid] at above

theorem save_others (d : Disk) (f : Flow) (p : Path) (replace : Bool) :
    Throughout (fun u => ∀ l, l ≠ p.location → l ≠ (temporary p).location →
      Undisturbed p d.tree u l) d (save d f p replace).disk := by
  unfold save
  split
  · exact .refl _ d
  · rename_i text _
    split
    · have created := saveNew_created d f.name p (bytesOf text)
      exact created.others.mono fun u aside l other _ => aside l other
    · split
      · exact .refl _ d
      · rename_i named
        have replaced := saveOver_replaced d f.name named (bytesOf text)
        exact replaced.throughout.mono fun u replacing => replacing.others

/-- At every moment of a save, the file of its flow and the sibling are all that is different. -/
theorem saved_alone (d : Disk) (f : Flow) (dir : Path) (replace : Bool) :
    Throughout (SavedAlone dir f.name d.tree) d
      (save d f (dir.child (fileName f.name)) replace).disk := by
  have flowFile := isFlowFile_fileName f.name
  have solid := solid_of_isFlowFile flowFile
  refine (save_others d f _ replace).mono fun u others => ?_
  have spared : ∀ l, l ≠ dir.location ++ [fileName f.name] →
      l ≠ dir.location ++ [fileName f.name ++ ".tmp"] → Spared dir d.tree u l := by
    intro l notFile notSibling
    refine (others l ?_ ?_).spared solid
    · rwa [location_child solid]
    · rwa [temporary_child solid, location_child (solid_temporary _)]
  refine ⟨spared, fun other entry different there => (spared _ ?_ ?_).kept there⟩
  · simpa using different
  · intro same
    have same' : fileName other = fileName f.name ++ ".tmp" := by simpa using same
    have flowFile' := isFlowFile_fileName other
    rw [same', isFlowFile_temporary] at flowFile'
    cases flowFile'

theorem SavedAlone.confined {flow : String} (h : SavedAlone dir flow t u) : Confined dir t u := by
  intro l other
  have flowFile := isFlowFile_fileName flow
  exact h.spared l (fun same => other ⟨_, flowFile, .inl same⟩)
    fun same => other ⟨_, flowFile, .inr same⟩

end EventFlow.Files
