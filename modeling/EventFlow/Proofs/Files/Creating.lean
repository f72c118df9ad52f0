import EventFlow.Proofs.Files.Replacing

/-!
A save that may only create its file, call by call. Any of its calls may be struck by a fault.

* `directories_undisturbed`: the calls that make directories change nothing that was there;
* `opening_done`, `opening_refused`: a new file is opened only where nothing was, and if the opening
  is refused everything is as it was;
* `save_creating`: what such a save leaves behind. An older file is kept if the opening is refused
  because of it; if it is refused for another reason, the file is removed;
* `save_removesOlder`: that happens.
-/

namespace EventFlow.Files

variable {p : Path} {t u : Tree} {d e : Disk} {bytes : Bytes}

/-- What was there is still there. -/
theorem Undisturbed.kept {l : Location} {entry : Entry} (h : Undisturbed p t u l)
    (there : t.entry? l = some entry) : u.entry? l = some entry := by
  obtain same | ⟨-, free, -⟩ := h
  · rw [same, there]
  · rw [free] at there
    cases there

/-- The calls that make directories on the way of a path. -/
def Upper (p : Path) (c : Call) : Prop :=
  ∃ above : Path, above.parts <+: p.parts.dropLast ∧ c = .makeDirectory above

theorem Upper.call {c : Call} (upper : Upper p c) (h : ∀ l, Undisturbed p t d.tree l) :
    ∀ l, Undisturbed p t (d.call c).1.tree l := by
  obtain ⟨above, way, rfl⟩ := upper
  refine call_meets (P := fun u => ∀ l, Undisturbed p t u l) h (fun u done l => ?_) fun _ => h
  obtain ⟨m, leads, free, rfl⟩ := Tree.makeDirectory_ok done
  exact (h l).made ⟨_, way, (locate_eq leads).symm⟩ free

theorem directories_undisturbed (d : Disk) (p : Path) :
    Throughout (fun u => ∀ l, Undisturbed p d.tree u l) d (d.makeDirectories p.parent).1 ∧
      ∀ l, Undisturbed p d.tree (d.makeDirectories p.parent).1.tree l := by
  have runs : Runs (Upper p) d (d.makeDirectories p.parent) :=
    runs_ensureDirectory (fun above way => ⟨above, way, rfl⟩) _
  exact runs.throughout (fun _ => .inl rfl) fun _ _ upper before => upper.call before

/-- The calls of a save up to the opening of the new file. -/
def opening (d : Disk) (p : Path) : Disk × Option FileError :=
  inDirectory d p [.create p]

/-- All calls of such a save, with the refusal of the last one. -/
def creation (d : Disk) (p : Path) (bytes : Bytes) : Disk × Option FileError :=
  inDirectory d p [.create p, .write p bytes, .close p]

theorem creation_eq (d : Disk) (p : Path) (bytes : Bytes) :
    creation d p bytes = match opening d p with
      | (e, none) => e.calls [.write p bytes, .close p]
      | (e, some error) => (e, some error) :=
  inDirectory_append d p [.create p] _

/-- A new file is opened only where nothing was, and the path leads to it then. -/
theorem opening_done (h : opening d p = (e, none)) :
    d.tree.entry? p.location = none ∧ e.tree.locate p = .ok p.location ∧
      e.tree.entry? p.location = some (.file []) := by
  have before := (directories_undisturbed d p).2 p.location
  unfold opening inDirectory at h
  split at h
  · cases h
  · rename_i d' made
    rw [made] at before
    rw [calls_single] at h
    obtain ⟨l, leads, free, same⟩ := Tree.create_ok (call_done h)
    obtain rfl := locate_eq leads
    have file : d'.tree.entry? p.location ≠ some .directory := by
      rw [free]
      nofun
    refine ⟨?_, same ▸ (Tree.keeps_put file _).locate leads, ?_⟩
    · cases there : d.tree.entry? p.location with
      | none => rfl
      | some entry => exact (before.kept there).symm.trans free
    · rw [same, Tree.entry?_put (Tree.ne_root file), if_pos rfl]

/-- If the opening is refused, nothing that was there has ever changed. -/
theorem opening_refused {error : FileError} (h : opening d p = (e, some error)) :
    Throughout (fun u => ∀ l, Undisturbed p d.tree u l) d e ∧
      ∀ l, Undisturbed p d.tree e.tree l := by
  have before := directories_undisturbed d p
  unfold opening inDirectory at h
  split at h
  · rename_i made
    rw [made] at before
    cases h
    exact before
  · rename_i d' made
    rw [made] at before
    rw [calls_single] at h
    have same := call_refused (fun _ _ => Call.noConfusion) h
    have at_ : e = (d'.call (.create p)).1 := by rw [h]
    rw [same]
    refine ⟨before.1.trans (at_ ▸ .call ?_), before.2⟩
    rw [← at_, same]
    exact before.2

theorem runs_creation (d : Disk) (p : Path) (bytes : Bytes) :
    Runs (Preparing p p) d (creation d p bytes) := by
  refine runs_inDirectory (fun _ upper => .makeDirectory upper) ?_
  simp only [List.forall_mem_cons]
  exact ⟨.create, .write bytes, .close, by simp⟩

/-- When no call is refused, the file is new and holds just the bytes. -/
theorem creation_done (h : creation d p bytes = (e, none)) :
    d.tree.entry? p.location = none ∧ e.tree.find p = .ok (.file bytes) := by
  rw [creation_eq] at h
  split at h
  · rename_i d' opened
    obtain ⟨free, leads, empty⟩ := opening_done opened
    obtain ⟨u, written, closed⟩ := Except.exists_of_bind_eq_ok (calls_done h)
    cases closed
    obtain ⟨l, content, leads', entry, same⟩ := Tree.append_ok written
    obtain rfl := locate_eq leads'
    cases empty.symm.trans entry
    have file : d'.tree.entry? p.location ≠ some .directory := by
      rw [empty]
      nofun
    refine ⟨free, Tree.find_eq_ok.mpr ⟨p.location, same ▸ (Tree.keeps_put file _).locate leads, ?_⟩⟩
    rw [same, Tree.entry?_put (Tree.ne_root file), if_pos rfl, List.nil_append]
  · cases h

/-- The removal of a file that there is takes it away, unless it is refused. -/
theorem entry?_removed (p : Path) (d : Disk) :
    (d.call (.remove p)).1.tree.entry? p.location =
      if (d.call (.remove p)).2 = none then none else d.tree.entry? p.location := by
  cases went : d.call (.remove p) with
  | mk e refused =>
    cases refused with
    | none =>
      obtain ⟨l, content, leads, entry, same⟩ := Tree.remove_ok (call_done went)
      obtain rfl := locate_eq leads
      rw [same, Tree.entry?_erase (Tree.ne_root (by rw [entry]; nofun)), if_pos rfl, if_pos rfl]
    | some error => rw [if_neg nofun, call_refused (fun _ _ => Call.noConfusion) went]

/-- Only a file can be removed. -/
theorem remove_refused (noFile : ∀ content, d.tree.entry? p.location ≠ some (.file content)) :
    (d.call (.remove p)).2 ≠ none := by
  intro went
  obtain ⟨l, content, leads, entry, -⟩ := Tree.remove_ok (call_done (Prod.ext rfl went))
  obtain rfl := locate_eq leads
  exact noFile content entry

/-- A creating save is its calls, and the removal of the file if one of them is refused for another
reason than a file that is there. -/
theorem saveNew_eq (d : Disk) (flow : String) (p : Path) (bytes : Bytes) :
    saveNew d flow p bytes = match creation d p bytes with
      | (e, none) => ⟨e, .ok true, [savedLog flow p]⟩
      | (e, some .nullByte) => ⟨e, .error .nullByte, []⟩
      | (e, some .present) =>
        ⟨e, .ok false,
          [warning ("Not saving flow '" ++ flow ++ "': " ++ p.text ++ " already exists")]⟩
      | (e, some error) => ⟨(removeQuietly e p).1, .ok false,
          notSavedLog flow p error :: (removeQuietly e p).2⟩ :=
  rfl

/-- What a creating save leads to, whatever befalls its calls. -/
structure Created (p : Path) (bytes : Bytes) (d : Disk) (saved : Saved) : Prop where
  others : Throughout (Aside p p d.tree) d saved.disk
  done : saved.result = .ok true →
    d.tree.entry? p.location = none ∧ saved.disk.tree.find p = .ok (.file bytes)
  kept : (opening d p).2 = some .present → saved.result = .ok false ∧
    Throughout (fun u => ∀ l, Undisturbed p d.tree u l) d saved.disk
  lost : ∀ content, d.tree.entry? p.location = some (.file content) →
    (opening d p).2 ≠ some .present → saved.result = .ok false →
      saved.disk.tree.entry? p.location =
        if ((opening d p).1.call (.remove p)).2 = none then none else some (.file content)
  notDone : (∀ content, d.tree.entry? p.location ≠ some (.file content)) →
    ((opening d p).2 = none → (creation d p bytes).2 ≠ some .present ∧
      ((creation d p bytes).1.call (.remove p)).2 = none) →
    saved.result = .ok false → Undisturbed p d.tree saved.disk.tree p.location
  tried : p.Clean → d.Sound → ∃ done, saved.result = .ok done

/-- The first calls are all of them if they are refused. -/
theorem creation_refused {error : FileError} (h : opening d p = (e, some error)) (bytes : Bytes) :
    creation d p bytes = (e, some error) := by
  rw [creation_eq, h]

/-- A file that was there is still there when a new one cannot be opened. -/
theorem opening_kept {content : Bytes} (there : d.tree.entry? p.location = some (.file content)) :
    ∃ e error, opening d p = (e, some error) ∧
      e.tree.entry? p.location = some (.file content) := by
  cases opened : opening d p with
  | mk e refused =>
    cases refused with
    | none => exact absurd (opening_done opened).1 (by rw [there]; nofun)
    | some error =>
      exact ⟨e, error, rfl, ((opening_refused opened).2 p.location).kept there⟩

/-- Where there was no file there is none after one of the calls was refused and the file that may
have been created is removed. -/
theorem creation_undone (noFile : ∀ content, d.tree.entry? p.location ≠ some (.file content))
    (removes : (opening d p).2 = none → ((creation d p bytes).1.call (.remove p)).2 = none) :
    Undisturbed p d.tree ((creation d p bytes).1.call (.remove p)).1.tree p.location := by
  cases opened : opening d p with
  | mk e refused =>
    cases refused with
    | none =>
      refine .inl ?_
      rw [entry?_removed, if_pos (removes (by rw [opened])), (opening_done opened).1]
    | some error =>
      have undisturbed := (opening_refused opened).2 p.location
      rw [creation_refused opened]
      have noFile' (content : Bytes) : e.tree.entry? p.location ≠ some (.file content) := by
        intro file
        obtain same | ⟨-, -, directory⟩ := undisturbed
        · exact noFile content (same.symm.trans file)
        · rw [file] at directory
          cases directory
      rw [Undisturbed, entry?_removed, if_neg (remove_refused noFile')]
      exact undisturbed

theorem saveNew_created (d : Disk) (flow : String) (p : Path) (bytes : Bytes) :
    Created p bytes d (saveNew d flow p bytes) := by
  have aside := aside_of_runs (runs_creation d p bytes)
  have tried (clean : p.Clean) (sound : d.Sound) := saveNew_tried clean sound flow bytes
  -- Calls that open no file are all that there are.
  have refused {error : FileError} (early : (opening d p).2 = some error) :
      creation d p bytes = ((opening d p).1, some error) :=
    creation_refused (Prod.ext rfl early) bytes
  rw [saveNew_eq] at tried ⊢
  split <;> rename_i went <;> rw [went] at aside tried refused
  · refine ⟨aside.1, fun _ => creation_done went, fun present => ?_, nofun, nofun,
      fun _ _ => ⟨true, rfl⟩⟩
    cases refused present
  · refine ⟨aside.1, nofun, fun present => ?_, nofun, nofun, tried⟩
    cases refused present
  · rename_i e
    refine ⟨aside.1, nofun, fun present => ⟨rfl, ?_⟩, fun content there other => ?_,
      fun noFile honest => ?_, fun _ _ => ⟨false, rfl⟩⟩
    · cases refused present
      exact (opening_refused (Prod.ext rfl present)).1
    · obtain ⟨e', error, opened, -⟩ := opening_kept there
      rw [opened] at refused other
      cases refused rfl
      exact absurd rfl other
    · intro _
      cases opened : (opening d p).2 with
      | none => exact absurd (by rw [went]) (honest opened).1
      | some error =>
        cases refused opened
        exact (opening_refused (Prod.ext rfl opened)).2 p.location
  · rename_i e error _ notPresent
    rw [removeQuietly_fst]
    refine ⟨aside.1.trans (.call (Preparing.remove.call aside.2)), nofun, fun present => ?_,
      fun content there _ _ => ?_, fun noFile honest _ => ?_, fun _ _ => ⟨false, rfl⟩⟩
    · cases refused present
      exact absurd rfl notPresent
    · obtain ⟨e', error', opened, kept⟩ := opening_kept there
      rw [opened] at refused ⊢
      cases refused rfl
      rw [entry?_removed, kept]
    · have undone := creation_undone noFile fun none' => (honest none').2
      rw [went] at undone
      exact undone

/-- Whatever befalls the calls of a creating save: a file is reported as saved only where nothing
was, and then it holds the whole text; beyond its place no file is changed. If the opening of the
file is refused because something is there, all that was there is kept. If it is refused for another
reason, a file that was there is removed. -/
theorem save_creating (d : Disk) (f : Flow) (p : Path) (text : List Char)
    (dumped : f.dump = .ok text) :
    Created p (bytesOf text) d (save d f p false) := by
  have saves : save d f p false = saveNew d f.name p (bytesOf text) := by
    rw [save, dumped]
    rfl
  rw [saves]
  exact saveNew_created d f.name p (bytesOf text)

section Draft

theorem create_draft (d : Disk) (p : Path) :
    save d draft p false = saveNew d "draft" p (bytesOf draftText) := by
  rw [save, dump_draft]
  rfl

/-- A disk with nothing on it, on which the third call from now on, writing to the new file, stops
after five bytes. -/
def fullDisk : Disk where
  tree := []
  faults := [none, none, some ⟨.other, 5⟩]
  past := []

theorem save_creating_fullDisk :
    let saved := save fullDisk draft draftFile false
    draft.dump = .ok draftText ∧
      Created draftFile (bytesOf draftText) fullDisk saved ∧ saved.result = .ok false ∧
      saved.disk.tree = [(["flows"], .directory)] := by
  intro saved
  have saves : saved = saveNew fullDisk "draft" draftFile (bytesOf draftText) :=
    create_draft fullDisk draftFile
  refine ⟨dump_draft, ?_, ?_, ?_⟩
  · exact save_creating fullDisk draft draftFile draftText dump_draft
  · rw [saves]
    rfl
  · rw [saves]
    rfl

/-- A disk with an older file, on which the second call from now on, the opening of the file, is
struck: there may be too many open files. -/
def busyDisk : Disk where
  tree := [(["flows"], .directory), (["flows", "draft.json"], .file [1, 2, 3])]
  faults := [none, some ⟨.other, 0⟩]
  past := []

/-- The older file is removed. -/
theorem save_removesOlder :
    let saved := save busyDisk draft draftFile false
    draft.dump = .ok draftText ∧
      busyDisk.tree.find draftFile = .ok (.file [1, 2, 3]) ∧ saved.result = .ok false ∧
      saved.disk.tree.find draftFile = .error .absent := by
  intro saved
  have saves : saved = saveNew busyDisk "draft" draftFile (bytesOf draftText) :=
    create_draft busyDisk draftFile
  refine ⟨dump_draft, rfl, ?_, ?_⟩
  · rw [saves]
    rfl
  · rw [saves]
    rfl

end Draft

end EventFlow.Files
