import EventFlow.Files.Disk
import EventFlow.Proofs.Traverse
import Mathlib.Data.List.Basic

/-!
Entries of a tree of files, and where paths lead.

* `entry?_put`, `entry?_erase`, `mem_names`: what a change of the tree does to its entries;
* `Keeps.locate`: a path leads to the same place for as long as no directory goes away;
* `truncate_ok`, `append_ok`, `rename_ok`: all that a call does which is not refused.
-/

namespace EventFlow

section Lookup

variable {α β : Type} [BEq α] [LawfulBEq α] [DecidableEq α]

theorem lookup_cons (rest : List (α × β)) (k m : α) (b : β) :
    List.lookup m ((k, b) :: rest) = if m = k then some b else List.lookup m rest := by
  rw [List.lookup_cons]
  by_cases same : m = k
  · simp [same]
  · simp [same, beq_eq_false_iff_ne.mpr same]

/-- Looking up a list in which an entry was put, either here or further on. -/
theorem lookup_put_cons {k l m : α} {old b : β} {rest changed : List (α × β)}
    (further : List.lookup m changed = if m = l then some b else List.lookup m rest) :
    List.lookup m (if k = l then (k, b) :: rest else (k, old) :: changed) =
      if m = l then some b else List.lookup m ((k, old) :: rest) := by
  by_cases here : k = l
  · subst here
    rw [if_pos rfl, lookup_cons, lookup_cons]
    split <;> rfl
  · rw [if_neg here, lookup_cons, lookup_cons, further]
    by_cases same : m = k
    · have other : m ≠ l := same ▸ here
      simp only [if_pos same, if_neg other]
    · simp only [if_neg same]

end Lookup

namespace Files

/-- A name with something of its own in it, neither empty nor that of the directory above. -/
def Solid (name : String) : Prop :=
  name ≠ "" ∧ name ≠ ".."

namespace Path

theorem parts_child {p : Path} {name : String} (solid : Solid name) :
    (p.child name).parts = p.parts ++ [name] := by
  simp [child, solid.1]

theorem parent_child {p : Path} {name : String} (solid : Solid name) :
    (p.child name).parent = p := by
  simp [parent, child, solid.1]

theorem name_child {p : Path} {name : String} (solid : Solid name) :
    (p.child name).name = name := by
  simp [Path.name, parts_child solid]

end Path

namespace Tree

variable {t u : Tree} {at_ l : Location} {p q : Path}

theorem lookup_put (t : Tree) (l m : Location) (e : Entry) :
    List.lookup m (t.put l e) = if m = l then some e else List.lookup m t := by
  induction t with
  | nil => exact lookup_cons [] l m e
  | cons first rest ih =>
    rw [put]
    exact lookup_put_cons ih

theorem lookup_erase (t : Tree) (l m : Location) :
    List.lookup m (t.erase l) = if m = l then none else List.lookup m t := by
  induction t with
  | nil => simp [erase]
  | cons first rest ih =>
    obtain ⟨k, old⟩ := first
    have step : erase ((k, old) :: rest) l =
        if k = l then erase rest l else (k, old) :: erase rest l := by
      by_cases here : k = l <;> simp [erase, here]
    rw [step, lookup_cons]
    by_cases here : k = l
    · subst here
      rw [if_pos rfl, ih]
      split <;> rfl
    · rw [if_neg here, lookup_cons, ih]
      by_cases same : m = k
      · have other : m ≠ l := same ▸ here
        simp only [if_pos same, if_neg other]
      · simp only [if_neg same]

/-- Only the root has the empty location, and it is a directory. -/
theorem ne_root (file : t.entry? l ≠ some .directory) : l ≠ [] := by
  rintro rfl
  exact file rfl

theorem entry?_of_ne {m : Location} (below : m ≠ []) : t.entry? m = List.lookup m t := by
  unfold entry?
  rw [if_neg]
  simpa using below

theorem entry?_put (below : l ≠ []) (e : Entry) (m : Location) :
    Tree.entry? (t.put l e) m = if m = l then some e else t.entry? m := by
  by_cases root : m = []
  · subst root
    rw [if_neg below.symm]
    rfl
  · rw [entry?_of_ne root, entry?_of_ne root, lookup_put]

theorem entry?_erase (below : l ≠ []) (m : Location) :
    Tree.entry? (t.erase l) m = if m = l then none else t.entry? m := by
  by_cases root : m = []
  · subst root
    rw [if_neg below.symm]
    rfl
  · rw [entry?_of_ne root, entry?_of_ne root, lookup_erase]

/-- A directory lists a name if and only if there is an entry of the name in it. -/
theorem mem_names {name : String} : name ∈ t.names at_ ↔ t.entry? (at_ ++ [name]) ≠ none := by
  rw [entry?_of_ne (by simp), ← Option.isSome_iff_ne_none, List.lookup_isSome_iff]
  unfold names
  rw [List.mem_filterMap]
  refine exists_congr fun p => and_congr_right fun _ => ?_
  rw [beq_iff_eq]
  constructor
  · intro listed
    split at listed
    · rename_i last found
      split at listed
      · rename_i under
        rw [← Option.some.inj listed, ← under]
        exact List.dropLast_append_getLast? last found
      · cases listed
    · cases listed
  · intro same
    simp [← same]

/-- Every directory of a tree is one of another tree. -/
def Keeps (t u : Tree) : Prop :=
  ∀ l, t.entry? l = some .directory → u.entry? l = some .directory

theorem Keeps.trans {v : Tree} (h : t.Keeps u) (h' : u.Keeps v) : t.Keeps v :=
  fun l found => h' l (h l found)

theorem keeps_put (file : t.entry? l ≠ some .directory) (e : Entry) : t.Keeps (t.put l e) := by
  intro m found
  have other : m ≠ l := fun same => file (same ▸ found)
  rw [entry?_put (ne_root file), if_neg other]
  exact found

theorem keeps_erase (file : t.entry? l ≠ some .directory) : t.Keeps (t.erase l) := by
  intro m found
  have other : m ≠ l := fun same => file (same ▸ found)
  rw [entry?_erase (ne_root file), if_neg other]
  exact found

theorem Keeps.locateFrom (keeps : t.Keeps u) {parts : List String}
    (h : t.locateFrom at_ parts = .ok l) : u.locateFrom at_ parts = .ok l := by
  induction parts generalizing at_ with
  | nil => exact h
  | cons part rest ih =>
    unfold Tree.locateFrom at h ⊢
    cases entry : t.entry? at_ with
    | none => rw [entry] at h; cases h
    | some e =>
      rw [entry] at h
      cases e with
      | file => cases h
      | directory =>
        rw [keeps at_ entry]
        dsimp only at h ⊢
        split at h
        · rename_i up
          rw [if_pos up]
          exact ih h
        · rename_i down
          rw [if_neg down]
          split at h
          · cases h
          · rename_i short
            rw [if_neg short]
            exact ih h

/-- A path leads to the same place for as long as no directory goes away. -/
theorem Keeps.locate (keeps : t.Keeps u) (h : t.locate p = .ok l) : u.locate p = .ok l := by
  unfold Tree.locate at h ⊢
  split at h
  · cases h
  · rename_i clean
    rw [if_neg clean]
    split at h
    · cases h
    · rename_i short
      rw [if_neg short]
      exact keeps.locateFrom h

theorem locateFrom_append (t : Tree) (at_ : Location) (first second : List String) :
    t.locateFrom at_ (first ++ second) =
      (t.locateFrom at_ first).bind fun l => t.locateFrom l second := by
  induction first generalizing at_ with
  | nil => rfl
  | cons part rest ih =>
    simp only [List.cons_append, locateFrom]
    split
    · rfl
    · rfl
    · split
      · exact ih _
      · split
        · rfl
        · exact ih _

theorem locateFrom_of_locate (h : t.locate p = .ok l) : t.locateFrom [] p.parts = .ok l := by
  unfold locate at h
  split at h
  · cases h
  · split at h
    · cases h
    · exact h

/-- The path of a name below a directory leads to that name in the directory, if anywhere. -/
theorem locate_child {name : String} (located : t.locate p = .ok at_) (solid : Solid name)
    (h : t.locate (p.child name) = .ok l) : l = at_ ++ [name] := by
  have leads := locateFrom_of_locate h
  rw [Path.parts_child solid, locateFrom_append, locateFrom_of_locate located] at leads
  simp only [Except.bind, locateFrom, if_neg solid.2] at leads
  split at leads
  · cases leads
  · cases leads
  · split at leads
    · cases leads
    · exact (Except.ok.inj leads).symm

theorem find_eq_ok {e : Entry} :
    t.find p = .ok e ↔ ∃ l, t.locate p = .ok l ∧ t.entry? l = some e := by
  unfold find
  cases t.locate p with
  | error error => simp [bind, Except.bind]
  | ok l => cases h : t.entry? l <;> simp [bind, Except.bind, h]

/-- The content of a file is what is read from it. -/
theorem read_of_find {content : Bytes} (found : t.find p = .ok (.file content)) :
    t.read p = .ok content := by
  rw [read, found]
  rfl

theorem truncate_ok (h : t.truncate p = .ok u) :
    ∃ l, t.locate p = .ok l ∧ t.entry? l ≠ some .directory ∧ u = t.put l (.file []) := by
  unfold truncate at h
  obtain ⟨l, located, h⟩ := Except.exists_of_bind_eq_ok h
  split at h
  · cases h
  · rename_i free
    exact ⟨l, located, free, (Except.ok.inj h).symm⟩

theorem append_ok {bytes : Bytes} (h : t.append p bytes = .ok u) :
    ∃ l content, t.locate p = .ok l ∧ t.entry? l = some (.file content) ∧
      u = t.put l (.file (content ++ bytes)) := by
  unfold append at h
  obtain ⟨l, located, h⟩ := Except.exists_of_bind_eq_ok h
  split at h
  · rename_i content entry
    exact ⟨l, content, located, entry, (Except.ok.inj h).symm⟩
  · cases h
  · cases h

theorem rename_ok (h : t.rename p q = .ok u) :
    ∃ source target content, t.locate p = .ok source ∧ t.locate q = .ok target ∧
      t.entry? source = some (.file content) ∧ t.entry? target ≠ some .directory ∧
      u = (t.erase source).put target (.file content) := by
  unfold rename at h
  obtain ⟨source, located, h⟩ := Except.exists_of_bind_eq_ok h
  obtain ⟨target, located', h⟩ := Except.exists_of_bind_eq_ok h
  split at h
  · cases h
  · rename_i content entry free
    exact ⟨source, target, content, located, located', entry, free, (Except.ok.inj h).symm⟩
  · cases h
  · cases h

theorem makeDirectory_ok (h : t.makeDirectory p = .ok u) :
    ∃ l, t.locate p = .ok l ∧ t.entry? l = none ∧ u = t.put l .directory := by
  unfold makeDirectory at h
  obtain ⟨l, located, h⟩ := Except.exists_of_bind_eq_ok h
  split at h
  · cases h
  · rename_i entry
    exact ⟨l, located, entry, (Except.ok.inj h).symm⟩

theorem create_ok (h : t.create p = .ok u) :
    ∃ l, t.locate p = .ok l ∧ t.entry? l = none ∧ u = t.put l (.file []) := by
  unfold create at h
  obtain ⟨l, located, h⟩ := Except.exists_of_bind_eq_ok h
  split at h
  · cases h
  · rename_i entry
    exact ⟨l, located, entry, (Except.ok.inj h).symm⟩

theorem remove_ok (h : t.remove p = .ok u) :
    ∃ l content, t.locate p = .ok l ∧ t.entry? l = some (.file content) ∧ u = t.erase l := by
  unfold remove at h
  obtain ⟨l, located, h⟩ := Except.exists_of_bind_eq_ok h
  split at h
  · rename_i content entry
    exact ⟨l, content, located, entry, (Except.ok.inj h).symm⟩
  · cases h
  · cases h

end Tree

end Files

end EventFlow
