import EventFlow.Files.Saving
import EventFlow.Proofs.Files.Calls

/-!
The calls of a save that change one file only, and make directories on the way of a path.

* `Preparing.call`, `aside_of_runs`: whatever befalls such calls, no entry but that file is ever
  different, except that a directory may come to where nothing was;
* `runs_inDirectory`: what makes runs of them;
* `Undisturbed.target`: where no component goes up, the path itself leads to no such directory.
-/

namespace EventFlow.Files

/-- Nothing but a directory on the way of a path has come to a location, where there was nothing. -/
def Undisturbed (p : Path) (t u : Tree) (l : Location) : Prop :=
  u.entry? l = t.entry? l ∨ p.OnWay l ∧ t.entry? l = none ∧ u.entry? l = some .directory

/-- The trees that differ from an earlier one at the file of a path `q`, and in new directories on
the way of `p`. -/
def Aside (p q : Path) (t u : Tree) : Prop :=
  ∀ l, l ≠ q.location → Undisturbed p t u l

/-- The calls that change the file of `q` or make a directory on the way of `p`. -/
inductive Preparing (p q : Path) : Call → Prop
  | makeDirectory {above : Path} (upper : above.parts <+: p.parts.dropLast) :
      Preparing p q (.makeDirectory above)
  | create : Preparing p q (.create q)
  | truncate : Preparing p q (.truncate q)
  | write (bytes : Bytes) : Preparing p q (.write q bytes)
  | flush : Preparing p q (.flush q)
  | sync : Preparing p q (.sync q)
  | close : Preparing p q (.close q)
  | remove : Preparing p q (.remove q)

section Calls

variable {p q : Path} {t u v : Tree} {c : Call} {d e : Disk}

theorem Aside.refl (p q : Path) (t : Tree) : Aside p q t t :=
  fun _ _ => .inl rfl

theorem Aside.put (h : Aside p q t u) (e : Entry) (below : q.location ≠ []) :
    Aside p q t (u.put q.location e) := by
  intro l other
  rw [Undisturbed, Tree.entry?_put below, if_neg other]
  exact h l other

theorem Aside.erase (h : Aside p q t u) (below : q.location ≠ []) :
    Aside p q t (u.erase q.location) := by
  intro l other
  rw [Undisturbed, Tree.entry?_erase below, if_neg other]
  exact h l other

/-- A directory on the way is made only where there has been nothing all along. -/
theorem Undisturbed.made {l m : Location} (h : Undisturbed p t u m) (way : p.OnWay l)
    (free : u.entry? l = none) : Undisturbed p t (u.put l .directory) m := by
  rw [Undisturbed, Tree.entry?_put (Tree.ne_root (by rw [free]; nofun))]
  by_cases here : m = l
  · subst here
    rw [if_pos rfl]
    obtain same | ⟨_, _, directory⟩ := h
    · exact .inr ⟨way, same.symm.trans free, rfl⟩
    · rw [free] at directory
      cases directory
  · rw [if_neg here]
    exact h

theorem Aside.append (h : Aside p q t u) {bytes : Bytes}
    (appended : u.append q bytes = .ok v) : Aside p q t v := by
  obtain ⟨l, content, leads, entry, rfl⟩ := Tree.append_ok appended
  have below : l ≠ [] := Tree.ne_root (by rw [entry]; nofun)
  obtain rfl := locate_eq leads
  exact h.put _ below

theorem Preparing.effect (prepares : Preparing p q c) (h : Aside p q t u)
    (done : c.effect u = .ok v) : Aside p q t v := by
  cases prepares with
  | makeDirectory upper =>
    obtain ⟨l, leads, free, rfl⟩ := Tree.makeDirectory_ok done
    exact fun m other => (h m other).made ⟨_, upper, (locate_eq leads).symm⟩ free
  | create =>
    obtain ⟨l, leads, free, rfl⟩ := Tree.create_ok done
    obtain rfl := locate_eq leads
    exact h.put _ (Tree.ne_root (by rw [free]; nofun))
  | truncate =>
    obtain ⟨l, leads, free, rfl⟩ := Tree.truncate_ok done
    obtain rfl := locate_eq leads
    exact h.put _ (Tree.ne_root free)
  | write bytes => exact h.append done
  | remove =>
    obtain ⟨l, content, leads, entry, rfl⟩ := Tree.remove_ok done
    obtain rfl := locate_eq leads
    exact h.erase (Tree.ne_root (by rw [entry]; nofun))
  | flush | sync | close =>
    cases done
    exact h

theorem Preparing.remains (prepares : Preparing p q c) (h : Aside p q t u) (fault : Fault) :
    Aside p q t (c.remains u fault) := by
  cases prepares with
  | write bytes =>
    rw [Call.remains]
    split
    · rename_i appended
      exact h.append appended
    · exact h
  | makeDirectory | create | truncate | remove | flush | sync | close => exact h

theorem Preparing.call (prepares : Preparing p q c) (h : Aside p q t d.tree) :
    Aside p q t (d.call c).1.tree :=
  call_meets h (fun _ => prepares.effect h) (prepares.remains h)

theorem Preparing.paths_clean (prepares : Preparing p q c) (clean : p.Clean) (clean' : q.Clean) :
    ∀ r ∈ c.paths, r.Clean := by
  cases prepares with
  | makeDirectory upper =>
    simp only [Call.paths, List.mem_singleton, forall_eq]
    exact fun part member => clean part ((List.dropLast_subset _) (upper.mem member))
  | create | truncate | write | flush | sync | close | remove => simpa [Call.paths] using clean'

theorem inDirectory_append (d : Disk) (p : Path) (first second : List Call) :
    inDirectory d p (first ++ second) = match inDirectory d p first with
      | (e, none) => e.calls second
      | (e, some error) => (e, some error) := by
  unfold inDirectory
  split
  · rfl
  · exact calls_append _ first second

end Calls

section Runs

variable {p q : Path} {d : Disk} {run : Disk × Option FileError}

theorem runs_inDirectory {Kind : Call → Prop} {calls : List Call}
    (makes : ∀ above : Path, above.parts <+: p.parts.dropLast → Kind (.makeDirectory above))
    (kinds : ∀ c ∈ calls, Kind c) : Runs Kind d (inDirectory d p calls) := by
  have made : Runs Kind d (d.makeDirectories p.parent) := runs_ensureDirectory makes _
  unfold inDirectory
  split
  · rename_i ensured
    rwa [ensured] at made
  · rename_i ensured
    rw [ensured] at made
    exact made.trans (runs_calls kinds)

/-- Nothing but the file and new directories is ever different. -/
theorem aside_of_runs (h : Runs (Preparing p q) d run) :
    Throughout (Aside p q d.tree) d run.1 ∧ Aside p q d.tree run.1.tree :=
  h.throughout (.refl p q d.tree) fun _ _ prepares before => prepares.call before

theorem removeQuietly_fst (d : Disk) (p : Path) :
    (removeQuietly d p).1 = (d.call (.remove p)).1 := by
  unfold removeQuietly
  split <;> simp [*]

theorem sound_inDirectory (sound : d.Sound) (p : Path) (calls : List Call) :
    (inDirectory d p calls).1.Sound := by
  have any : Runs (fun _ => True) d (inDirectory d p calls) :=
    runs_inDirectory (fun _ _ => trivial) fun _ _ => trivial
  exact any.sound sound

theorem sound_removeQuietly (sound : d.Sound) (p : Path) : (removeQuietly d p).1.Sound := by
  rw [removeQuietly_fst]
  exact sound.call _

end Runs

section Target

variable {p : Path} {t u : Tree}

/-- Where no component goes up, a path leads to none of the directories on its way. -/
theorem Undisturbed.target (h : Undisturbed p t u p.location) (down : ".." ∉ p.parts) :
    u.entry? p.location = t.entry? p.location := by
  obtain same | ⟨⟨parts, above, leads⟩, free, -⟩ := h
  · exact same
  · have whole : p.location = p.parts := foldl_enter down []
    have down' : ".." ∉ parts := fun up => down ((List.dropLast_subset _) (above.mem up))
    have part : parts = p.parts := by
      rw [← whole, ← leads, foldl_enter down', List.nil_append]
    have empty : p.parts = [] := by
      have short := above.length_le
      rw [part, List.length_dropLast] at short
      exact List.eq_nil_of_length_eq_zero (by omega)
    rw [whole, empty] at free
    cases free

end Target

end EventFlow.Files
