import EventFlow.Host.Directory
import EventFlow.Proofs.Document.RoundTrip
import EventFlow.Proofs.Files.Alike
import EventFlow.Proofs.Files.Loading
import EventFlow.Proofs.Files.Saving

/-!
Saving all stored flows in a directory, and storing what is found there.

* `saveFlows_holds`: after a save of all flows, a file holds the last one that goes to it;
* `loadFiles_stored`: of the flows that files give, the last one of a name is stored under the name;
* `loadDirectory_saveAll`: so of the flows whose names make the same file name only the last comes
  back, as it is when its text is read.
-/

namespace EventFlow

/-- The flow that the text of a flow gives, if there is one. -/
def Flow.reload? (c : Catalog) (version : String) (f : Flow) : Option Flow :=
  match f.dump with
  | .ok text => (Flow.read c version text).result.toOption
  | .error _ => none

theorem Flow.name_of_reload? {c : Catalog} {version : String} {f g : Flow} (sound : f.Sound c)
    (h : f.reload? c version = some g) : g.name = f.name := by
  unfold reload? at h
  split at h
  · rename_i text dumped
    cases loaded : (Flow.read c version text).result with
    | error error => rw [loaded] at h; cases h
    | ok g' =>
      rw [loaded] at h
      cases h
      have reloads : f.Reloads c g := ⟨version, text, (dump_eq_ok_iff.mp dumped).1, loaded⟩
      rw [reloads.eq sound]
      rfl
  · cases h

namespace Host

open Files (fileName)

/-- The flow stored under a name. -/
def flow? (h : Host) (name : String) : Option Flow :=
  (h.fetch? name).bind fun i => (h.managers[i]?).map fun m => m.editor.flow

/-- The stored flows in order. -/
def flows (h : Host) : List Flow :=
  h.storedManagers.map fun p => p.2.editor.flow

section Save

/-- The flow that a file is left with when flows are saved in order. -/
def lastIn (flows : List Flow) (file : String) : Option Flow :=
  flows.reverse.find? fun f => fileName f.name == file

theorem lastIn_cons (f : Flow) (flows : List Flow) (file : String) :
    lastIn (f :: flows) file =
      (lastIn flows file).or (if fileName f.name = file then some f else none) := by
  unfold lastIn
  rw [List.reverse_cons, List.find?_append, List.find?_singleton]
  simp only [beq_iff_eq]

theorem mem_of_lastIn {flows : List Flow} {file : String} {f : Flow}
    (h : lastIn flows file = some f) : f ∈ flows ∧ fileName f.name = file :=
  ⟨List.mem_reverse.mp (List.mem_of_find?_eq_some h), by simpa using List.find?_some h⟩

/-- A flow is left in its file exactly if none after it goes to the same file. -/
theorem lastIn_eq_self {before after : List Flow} {f : Flow}
    (names : ((before ++ f :: after).map Flow.name).Nodup) :
    lastIn (before ++ f :: after) (fileName f.name) = some f ↔
      ¬∃ g ∈ after, fileName g.name = fileName f.name := by
  unfold lastIn
  rw [List.reverse_append, List.reverse_cons, List.append_assoc, List.find?_append]
  cases later : after.reverse.find? fun g => fileName g.name == fileName f.name with
  | none =>
    have others : ¬∃ g ∈ after, fileName g.name = fileName f.name := by simpa using later
    simp [others]
  | some g =>
    have there : g ∈ after := List.mem_reverse.mp (List.mem_of_find?_eq_some later)
    have same : fileName g.name = fileName f.name := by simpa using List.find?_some later
    have other : g ≠ f := by
      rintro rfl
      simp only [List.map_append, List.map_cons, List.nodup_append, List.nodup_cons] at names
      exact names.2.1.1 (List.mem_map_of_mem there)
    have some' : ∃ g ∈ after, fileName g.name = fileName f.name := ⟨g, there, same⟩
    simp [other, some']

variable {h : Host} {dir : Files.Path} {flows : List Flow}

/-- Saving changes nothing but the disk. -/
theorem saveFlows_host (h : Host) (dir : Files.Path) (flows : List Flow) :
    ∃ disk, (h.saveFlows dir flows).host = { h with disk := disk } := by
  induction flows generalizing h with
  | nil => exact ⟨h.disk, rfl⟩
  | cons f rest ih =>
    unfold saveFlows
    dsimp only
    split
    · exact ⟨_, rfl⟩
    · obtain ⟨disk, same⟩ := ih { h with
        disk := (Files.save h.disk f (dir.child (fileName f.name)) true).disk }
      exact ⟨disk, same⟩

theorem saveFlows_le {n : Nat} (done : (h.saveFlows dir flows).result = .ok n) :
    n ≤ flows.length := by
  induction flows generalizing h n with
  | nil =>
    cases done
    exact Nat.le_refl _
  | cons f rest ih =>
    unfold saveFlows at done
    dsimp only at done
    split at done
    · cases done
    · rename_i saved _
      obtain ⟨count, others, same⟩ := Except.exists_of_map_eq_ok done
      have bound := ih others
      rw [List.length_cons]
      split at same <;> omega

/-- All flows are saved if and only if the first one is, and all others after it. -/
theorem saveFlows_cons {f : Flow} :
    (h.saveFlows dir (f :: flows)).result = .ok (flows.length + 1) ↔
      (Files.save h.disk f (dir.child (fileName f.name)) true).result = .ok true ∧
      (saveFlows { h with
        disk := (Files.save h.disk f (dir.child (fileName f.name)) true).disk } dir flows).result =
          .ok flows.length := by
  constructor
  · intro all
    unfold saveFlows at all
    dsimp only at all
    split at all
    · cases all
    · rename_i saved result
      obtain ⟨count, others, same⟩ := Except.exists_of_map_eq_ok all
      have bound := saveFlows_le others
      cases saved with
      | true =>
        obtain rfl : count = flows.length := Nat.succ.inj same
        exact ⟨result, others⟩
      | false =>
        have same' : count = flows.length + 1 := same
        omega
  · rintro ⟨done, others⟩
    simp only [saveFlows, done, others]
    rfl

theorem saveFlows_cons_host {f : Flow} {saved : Bool}
    (done : (Files.save h.disk f (dir.child (fileName f.name)) true).result = .ok saved) :
    (h.saveFlows dir (f :: flows)).host = (saveFlows { h with
      disk := (Files.save h.disk f (dir.child (fileName f.name)) true).disk } dir flows).host := by
  simp only [saveFlows, done]

/-- After all flows were saved, each file holds the last one that went to it. -/
theorem saveFlows_holds {at_ : Files.Location} {contents : String → Option Files.Bytes}
    (calm : h.disk.Calm) (holds : Files.Holds h.disk.tree dir at_ contents)
    (all : (h.saveFlows dir flows).result = .ok flows.length) :
    (∀ f ∈ flows, (Files.bytes? f).isSome) ∧
      Files.Holds (h.saveFlows dir flows).host.disk.tree dir at_ fun file =>
        ((lastIn flows file).bind Files.bytes?).or (contents file) := by
  induction flows generalizing h contents with
  | nil => exact ⟨by simp, holds⟩
  | cons f rest ih =>
    obtain ⟨done, others⟩ := saveFlows_cons.mp all
    obtain ⟨bytes, written, calm', savedIn⟩ := Files.save_ok calm holds.located holds.directory
      (Files.isFlowFile_fileName f.name) done
    obtain ⟨every, left⟩ := ih calm' (holds.savedIn savedIn) others
    refine ⟨List.forall_mem_cons.mpr ⟨by rw [written]; rfl, every⟩, ?_⟩
    rw [saveFlows_cons_host done]
    convert left using 1
    funext file
    rw [lastIn_cons]
    cases later : lastIn rest file with
    | none =>
      by_cases own : fileName f.name = file
      · simp [own, written]
      · simp [own, Ne.symm own]
    | some g =>
      obtain ⟨bytes', written'⟩ := Option.isSome_iff_exists.mp (every g (mem_of_lastIn later).1)
      simp [written']

end Save

section Load

variable {h : Host}

theorem storeFlow_eq (h : Host) (f : Flow) : h.storeFlow f = { h with
    managers := h.managers.push ⟨.ofFlow f, shared⟩
    stored := putStored h.stored f.name h.managers.size } := by
  have here : (h.managers.push ⟨.ofFlow f, shared⟩)[h.managers.size]? =
      some ⟨.ofFlow f, shared⟩ := by simp
  have same : (h.managers.push ⟨.ofFlow f, shared⟩).modify h.managers.size
      (fun m => { m with history := shared }) = h.managers.push ⟨.ofFlow f, shared⟩ := by
    apply Array.ext_getElem?
    intro i
    rw [Array.getElem?_modify]
    split
    · rename_i last
      rw [← last, here]
      rfl
    · rfl
  simp only [storeFlow, addManager, store, here, same]
  rfl

theorem lookup_putStored (stored : List (String × Nat)) (key name : String) (manager : Nat) :
    List.lookup name (putStored stored key manager) =
      if name = key then some manager else List.lookup name stored := by
  induction stored with
  | nil => exact lookup_cons [] key name manager
  | cons first rest ih =>
    rw [putStored]
    exact lookup_put_cons ih

/-- Every stored flow is among the flows under edit. -/
def Filed (h : Host) : Prop :=
  ∀ name i, h.fetch? name = some i → i < h.managers.size

theorem fetch?_storeFlow (h : Host) (f : Flow) (name : String) :
    (h.storeFlow f).fetch? name =
      if name = f.name then some h.managers.size else h.fetch? name := by
  rw [storeFlow_eq]
  exact lookup_putStored h.stored f.name name h.managers.size

theorem filed_storeFlow (filed : h.Filed) (f : Flow) : (h.storeFlow f).Filed := by
  intro name i found
  rw [fetch?_storeFlow] at found
  have size : (h.storeFlow f).managers.size = h.managers.size + 1 := by
    rw [storeFlow_eq]
    exact Array.size_push ..
  split at found
  · cases found
    omega
  · have := filed name i found
    omega

theorem flow?_storeFlow (filed : h.Filed) (f : Flow) (name : String) :
    (h.storeFlow f).flow? name = if name = f.name then some f else h.flow? name := by
  unfold flow?
  rw [fetch?_storeFlow]
  have managers : (h.storeFlow f).managers = h.managers.push ⟨.ofFlow f, shared⟩ := by
    rw [storeFlow_eq]
  rw [managers]
  split
  · simp [Editor.ofFlow]
  · cases found : h.fetch? name with
    | none => rfl
    | some i =>
      have bound := filed name i found
      simp [Array.getElem?_push_lt, bound]

/-- The flow that a file of a host gives, if it gives one. -/
def opened (h : Host) (p : Files.Path) : Option Flow :=
  match (Files.loadFile h.catalog h.settings.formatVersion h.disk p).result with
  | .ok f => f
  | .error _ => none

/-- The host with another disk. -/
def withDisk (h : Host) (d : Files.Disk) : Host :=
  { h with disk := d }

/-- The host after a file was read, with the flow stored that the file gave. -/
def reading (h : Host) (p : Files.Path) : Host :=
  let read := h.withDisk (Files.loadFile h.catalog h.settings.formatVersion h.disk p).disk
  (h.opened p).elim read read.storeFlow

theorem read_of_opened {p : Files.Path} {f : Flow} (gives : h.opened p = some f) :
    (Files.loadFile h.catalog h.settings.formatVersion h.disk p).result = .ok (some f) := by
  unfold opened at gives
  split at gives
  · rename_i read
    rw [read, gives]
  · cases gives

theorem reading_some {p : Files.Path} {f : Flow}
    (gives : (Files.loadFile h.catalog h.settings.formatVersion h.disk p).result = .ok (some f)) :
    h.reading p = (h.withDisk
      (Files.loadFile h.catalog h.settings.formatVersion h.disk p).disk).storeFlow f := by
  simp only [reading, opened, gives, Option.elim_some]

theorem reading_none {p : Files.Path} (gives : h.opened p = none) :
    h.reading p =
      h.withDisk (Files.loadFile h.catalog h.settings.formatVersion h.disk p).disk := by
  simp only [reading, gives, Option.elim_none]

/-- Reading a file changes the disk and the stored flows only. -/
theorem reading_keeps (h : Host) (p : Files.Path) :
    (h.reading p).catalog = h.catalog ∧ (h.reading p).settings = h.settings ∧
      (h.reading p).token = h.token ∧ (h.reading p).runs = h.runs ∧
      (h.reading p).histories = h.histories := by
  unfold reading
  cases h.opened p with
  | none => exact ⟨rfl, rfl, rfl, rfl, rfl⟩
  | some f =>
    rw [Option.elim_some, storeFlow_eq]
    exact ⟨rfl, rfl, rfl, rfl, rfl⟩

/-- A file that is there is opened, whatever it gives. -/
theorem loadFile_there {c : Catalog} {version : String} {d : Files.Disk} {p q : Files.Path}
    {content : Files.Bytes} (there : d.tree.find p = .ok (.file content)) :
    (Files.loadFile c version d p).result ≠ .error (.nameTooLong q) := by
  unfold Files.loadFile Files.loadBytes
  rw [there]
  dsimp only
  split
  · split <;> simp
  · simp

theorem filed_withDisk (filed : h.Filed) (d : Files.Disk) : (h.withDisk d).Filed :=
  filed

theorem disk_reading (h : Host) (p : Files.Path) : (h.reading p).disk =
    (Files.loadFile h.catalog h.settings.formatVersion h.disk p).disk := by
  unfold reading
  cases h.opened p with
  | none => rfl
  | some f =>
    rw [Option.elim_some, storeFlow_eq]
    rfl

/-- Reading a file leaves all files alone, and the disk as calm as it was. -/
theorem reading_looks (calm : h.disk.Calm) (p : Files.Path) :
    (h.reading p).disk.Calm ∧ (h.reading p).disk.tree = h.disk.tree := by
  obtain ⟨refused, run⟩ := Files.runs_loadFile h.catalog h.settings.formatVersion h.disk p
  rw [disk_reading]
  exact ⟨run.calm calm, run.looks.2⟩

/-- On disks without faults and with the same files, files give the same. -/
theorem opened_reading (calm : h.disk.Calm) (p : Files.Path) : (h.reading p).opened = h.opened := by
  funext q
  obtain ⟨calm', same⟩ := reading_looks calm p
  have alike : (h.reading p).disk.Alike (fun _ => True) h.disk := by
    refine ⟨fun l => ?_, calm'.trans calm.symm⟩
    rw [same]
    exact .refl _ _
  obtain ⟨catalog, settings, -⟩ := reading_keeps h p
  unfold opened
  rw [catalog, settings, (Files.loadFile_alike alike (fun _ _ => .inl trivial) h.catalog _).result]

theorem filed_reading (filed : h.Filed) (p : Files.Path) : (h.reading p).Filed := by
  unfold reading
  cases h.opened p with
  | none => exact filed
  | some f =>
    exact filed_storeFlow (filed_withDisk filed _) f

theorem flow?_reading (filed : h.Filed) (p : Files.Path) (name : String) :
    (h.reading p).flow? name =
      ((h.opened p).filter fun f => f.name == name).or (h.flow? name) := by
  unfold reading
  cases h.opened p with
  | none => rfl
  | some f =>
    rw [Option.elim_some, flow?_storeFlow (filed_withDisk filed _)]
    by_cases own : name = f.name
    · rw [if_pos own, Option.filter_some, if_pos (beq_iff_eq.mpr own.symm)]
      rfl
    · rw [if_neg own, Option.filter_some, if_neg (mt beq_iff_eq.mp (Ne.symm own))]
      rfl

/-- Loading a file that is there stores the flow it gives, if it gives one, and goes on. -/
theorem loadFiles_cons {p : Files.Path} {content : Files.Bytes} (rest : List Files.Path)
    (there : h.disk.tree.find p = .ok (.file content)) :
    (h.loadFiles (p :: rest)).host = ((h.reading p).loadFiles rest).host ∧
      ((∃ n, ((h.reading p).loadFiles rest).result = .ok n) →
        ∃ n, (h.loadFiles (p :: rest)).result = .ok n) := by
  cases loaded : (Files.loadFile h.catalog h.settings.formatVersion h.disk p).result with
  | ok found =>
    cases found with
    | none =>
      simp only [loadFiles, reading, opened, loaded, withDisk]
      exact ⟨rfl, id⟩
    | some f =>
      simp only [loadFiles, reading, opened, loaded, withDisk]
      refine ⟨rfl, ?_⟩
      rintro ⟨n, fine⟩
      rw [Option.elim_some] at fine
      exact ⟨n + 1, by rw [fine]; rfl⟩
  | error error =>
    cases error with
    | nameTooLong q => exact absurd loaded (loadFile_there there)
    | unknownType error =>
      simp only [loadFiles, reading, opened, loaded, withDisk]
      exact ⟨rfl, id⟩

/-- Of the flows that files give, the last one of a name is stored under the name. -/
theorem loadFiles_stored {paths : List Files.Path} (filed : h.Filed) (calm : h.disk.Calm)
    (there : ∀ p ∈ paths, ∃ content, h.disk.tree.find p = .ok (.file content)) :
    (∃ n, (h.loadFiles paths).result = .ok n) ∧ ∀ name, (h.loadFiles paths).host.flow? name =
      ((paths.filterMap h.opened).reverse.find? fun f => f.name == name).or (h.flow? name) := by
  induction paths generalizing h with
  | nil => exact ⟨⟨0, rfl⟩, fun _ => rfl⟩
  | cons p rest ih =>
    obtain ⟨⟨content, here⟩, others⟩ := List.forall_mem_cons.mp there
    obtain ⟨host, fine⟩ := loadFiles_cons rest here
    obtain ⟨calm', same⟩ := reading_looks calm p
    obtain ⟨done, stored⟩ := ih (filed_reading filed p) calm' (same ▸ others)
    refine ⟨fine done, fun name => ?_⟩
    rw [host, stored, opened_reading calm, flow?_reading filed, List.filterMap_cons,
      ← Option.or_assoc]
    congr 1
    cases h.opened p with
    | none => rw [Option.filter_none, Option.or_none]
    | some f =>
      rw [List.reverse_cons, List.find?_append, List.find?_singleton]
      rfl

end Load

/-- The flows of a host are stored under their own names, and the catalog has all of their types. -/
structure WellStored (h : Host) : Prop where
  filed : h.flows.map Flow.name = h.stored.map Prod.fst
  distinct : (h.stored.map Prod.fst).Nodup
  sound : ∀ f ∈ h.flows, f.Sound h.catalog

/-- A directory to save to, without a flow file in it, on a disk on which no call is struck. -/
structure Vacant (h : Host) (name : String) : Prop where
  calm : h.disk.Calm
  there : h.disk.tree.find (h.directory name) = .ok .directory
  empty : Files.flowFiles h.disk.tree (h.directory name) = []

/-- A host with nothing stored that sees the directory as another host has left it, on a disk on
which no call is struck. -/
structure Reopens (k h : Host) (name : String) : Prop where
  calm : k.disk.Calm
  stored : k.stored = []
  catalog : k.catalog = h.catalog
  directory : k.directory name = h.directory name
  tree : k.disk.tree = h.disk.tree

section Reload

variable {h k : Host} {name : String} {at_ : Files.Location}

/-- A file gives the flow that the text of the last flow gives which was saved in it. -/
theorem opened_child {flows : List Flow} {f : Flow} {file : String}
    (calm : k.disk.Calm) (holds : Files.Holds k.disk.tree (k.directory name) at_ fun file =>
      (lastIn flows file).bind Files.bytes?)
    (named : Files.isFlowFile file = true) (last : lastIn flows file = some f)
    (written : (Files.bytes? f).isSome) :
    k.opened ((k.directory name).child file) = f.reload? k.catalog k.settings.formatVersion := by
  obtain ⟨bytes, held⟩ := Option.isSome_iff_exists.mp written
  have found := holds.find_eq named (by rw [last]; exact held)
  unfold Files.bytes? at held
  split at held
  · rename_i text dumped
    cases held
    unfold opened Flow.reload?
    rw [Files.loadFile_bytesOf calm found, dumped]
    dsimp only
    cases (Flow.read k.catalog k.settings.formatVersion text).result with
    | ok g => rfl
    | error error => cases error <;> rfl
  · cases held

/-- What the files of a directory give: the flows that were saved last in their files, as their
texts give them. -/
theorem mem_opened {flows : List Flow} (calm : k.disk.Calm)
    (holds : Files.Holds k.disk.tree (k.directory name) at_ fun file =>
      (lastIn flows file).bind Files.bytes?)
    (written : ∀ f ∈ flows, (Files.bytes? f).isSome) {g : Flow} :
    g ∈ (Files.flowFiles k.disk.tree (k.directory name)).filterMap k.opened ↔
      ∃ f, lastIn flows (fileName f.name) = some f ∧
        f.reload? k.catalog k.settings.formatVersion = some g := by
  rw [List.mem_filterMap]
  constructor
  · rintro ⟨p, listed, gives⟩
    obtain ⟨file, named, held, rfl⟩ := holds.mem_flowFiles.mp listed
    cases last : lastIn flows file with
    | none =>
      rw [last] at held
      cases held
    | some f =>
      obtain ⟨there, rfl⟩ := mem_of_lastIn last
      rw [opened_child calm holds named last (written f there)] at gives
      exact ⟨f, last, gives⟩
  · rintro ⟨f, last, gives⟩
    have there := written f (mem_of_lastIn last).1
    have named := Files.isFlowFile_fileName f.name
    refine ⟨(k.directory name).child (fileName f.name), ?_, ?_⟩
    · refine holds.mem_flowFiles.mpr ⟨_, named, ?_, rfl⟩
      rw [last]
      exact there
    · rw [opened_child calm holds named last there, gives]

/-- Among the flows that files give, that of a flow is found by its name if the flow was saved last
in its file, and nothing is found otherwise. -/
theorem find?_given {c : Catalog} {version : String} {flows given : List Flow} {f : Flow}
    (mem : ∀ g, g ∈ given ↔
      ∃ f, lastIn flows (fileName f.name) = some f ∧ f.reload? c version = some g)
    (names : (flows.map Flow.name).Nodup) (sound : ∀ f ∈ flows, f.Sound c) (hf : f ∈ flows) :
    (given.find? fun g => g.name == f.name) =
      if lastIn flows (fileName f.name) = some f then f.reload? c version else none := by
  -- the name of a flow that was read is that of the flow it was written from
  have only (g : Flow) (there : g ∈ given) (same : g.name = f.name) :
      lastIn flows (fileName f.name) = some f ∧ f.reload? c version = some g := by
    obtain ⟨f', last, gives⟩ := (mem g).mp there
    have hf' := (mem_of_lastIn last).1
    have sameName := Flow.name_of_reload? (sound f' hf') gives
    obtain rfl := List.inj_on_of_nodup_map names hf' hf (sameName.symm.trans same)
    exact ⟨last, gives⟩
  cases found : given.find? fun g => g.name == f.name with
  | some g =>
    have same : g.name = f.name := by simpa using List.find?_some found
    obtain ⟨last, gives⟩ := only g (List.mem_of_find?_eq_some found) same
    rw [if_pos last, gives]
  | none =>
    split
    · rename_i last
      cases gives : f.reload? c version with
      | none => rfl
      | some g =>
        have there : g ∈ given := (mem g).mpr ⟨f, last, gives⟩
        have same : g.name = f.name := Flow.name_of_reload? (sound f hf) gives
        exact absurd (by simpa using same) (List.find?_eq_none.mp found g there)
    · rfl

theorem WellStored.names (stored : h.WellStored) : (h.flows.map Flow.name).Nodup := by
  rw [stored.filed]
  exact stored.distinct

theorem WellStored.length (stored : h.WellStored) : h.flows.length = h.stored.length := by
  simpa using congrArg List.length stored.filed

theorem loadDirectory_there (there : k.disk.tree.find (k.directory name) = .ok .directory) :
    (k.loadDirectory name).result =
        (k.loadFiles (Files.flowFiles k.disk.tree (k.directory name))).result ∧
      (k.loadDirectory name).host =
        (k.loadFiles (Files.flowFiles k.disk.tree (k.directory name))).host := by
  unfold loadDirectory
  dsimp only
  rw [there]
  dsimp only
  split <;> exact ⟨rfl, rfl⟩

/-- What loading a directory stores in which flows were saved before. -/
theorem loadDirectory_stored {flows : List Flow} (calm : k.disk.Calm) (nothing : k.stored = [])
    (holds : Files.Holds k.disk.tree (k.directory name) at_ fun file =>
      (lastIn flows file).bind Files.bytes?)
    (written : ∀ f ∈ flows, (Files.bytes? f).isSome) (names : (flows.map Flow.name).Nodup)
    (sound : ∀ f ∈ flows, f.Sound k.catalog) :
    (∃ n, (k.loadDirectory name).result = .ok n) ∧
      ∀ f ∈ flows, (k.loadDirectory name).host.flow? f.name =
        if lastIn flows (fileName f.name) = some f then
          f.reload? k.catalog k.settings.formatVersion
        else none := by
  have none' (name : String) : k.fetch? name = none := by
    unfold fetch?
    rw [nothing]
    rfl
  have filed : k.Filed := by
    intro name i found
    rw [none'] at found
    cases found
  have files : ∀ p ∈ Files.flowFiles k.disk.tree (k.directory name),
      ∃ content, k.disk.tree.find p = .ok (.file content) := by
    intro p listed
    obtain ⟨file, named, held, rfl⟩ := holds.mem_flowFiles.mp listed
    obtain ⟨bytes, held⟩ := Option.isSome_iff_exists.mp held
    exact ⟨bytes, holds.find_eq named held⟩
  have there := Files.Tree.find_eq_ok.mpr ⟨at_, holds.located, holds.directory⟩
  obtain ⟨result, host⟩ := loadDirectory_there there
  obtain ⟨fine, stored⟩ := loadFiles_stored filed calm files
  rw [result, host]
  refine ⟨fine, ?_⟩
  intro f hf
  have mem (g : Flow) := List.mem_reverse.trans (mem_opened (g := g) calm holds written)
  have before : k.flow? f.name = none := by rw [flow?, none', Option.bind_none]
  rw [stored, find?_given mem names sound hf, before, Option.or_none]

/-- After saving all flows in a directory, loading it stores those which were saved last in their
files. -/
theorem loadDirectory_left (stored : h.WellStored) (vacant : h.Vacant name)
    (all : (h.saveAll name).result = .ok h.stored.length)
    (reopens : k.Reopens (h.saveAll name).host name) :
    (∃ n, (k.loadDirectory name).result = .ok n) ∧
      ∀ f ∈ h.flows, (k.loadDirectory name).host.flow? f.name =
        if lastIn h.flows (fileName f.name) = some f then
          f.reload? k.catalog k.settings.formatVersion
        else none := by
  obtain ⟨at_, empty⟩ := Files.holds_nothing vacant.there vacant.empty
  obtain ⟨disk, same⟩ : ∃ disk, (h.saveAll name).host = { h with disk := disk } :=
    saveFlows_host h (h.directory name) h.flows
  rw [← stored.length] at all
  obtain ⟨written, holds⟩ : (∀ f ∈ h.flows, (Files.bytes? f).isSome) ∧
      Files.Holds (h.saveAll name).host.disk.tree (h.directory name) at_ fun file =>
        ((lastIn h.flows file).bind Files.bytes?).or none :=
    saveFlows_holds vacant.calm empty all
  have left : Files.Holds k.disk.tree (k.directory name) at_ fun file =>
      (lastIn h.flows file).bind Files.bytes? := by
    have directory : k.directory name = h.directory name := by
      rw [reopens.directory, same]
      rfl
    rw [reopens.tree, directory]
    simpa only [Option.or_none] using holds
  have sound : ∀ f ∈ h.flows, f.Sound k.catalog := by
    have catalog : k.catalog = h.catalog := by rw [reopens.catalog, same]
    rw [catalog]
    exact stored.sound
  exact loadDirectory_stored reopens.calm reopens.stored left written stored.names sound

end Reload

/-- **Of the stored flows whose names make the same file name only the last comes back** when all
are saved in a directory and the directory is loaded: it is stored under its name as its text gives
it. So every flow comes back if the file names are distinct. -/
theorem loadDirectory_saveAll (h k : Host) (name : String) (stored : h.WellStored)
    (vacant : h.Vacant name) (all : (h.saveAll name).result = .ok h.stored.length)
    (reopens : k.Reopens (h.saveAll name).host name) :
    (∃ n, (k.loadDirectory name).result = .ok n) ∧
      (∀ before f after, h.flows = before ++ f :: after →
        (k.loadDirectory name).host.flow? f.name =
          if ∃ g ∈ after, fileName g.name = fileName f.name then none
          else f.reload? k.catalog k.settings.formatVersion) ∧
      ((h.flows.map fun f => fileName f.name).Nodup → ∀ f ∈ h.flows,
        (k.loadDirectory name).host.flow? f.name =
          f.reload? k.catalog k.settings.formatVersion) := by
  obtain ⟨fine, left⟩ := loadDirectory_left stored vacant all reopens
  have exactly (before : List Flow) (f : Flow) (after : List Flow)
      (split : h.flows = before ++ f :: after) :
      (k.loadDirectory name).host.flow? f.name =
        if ∃ g ∈ after, fileName g.name = fileName f.name then none
        else f.reload? k.catalog k.settings.formatVersion := by
    have last := lastIn_eq_self (split ▸ stored.names)
    have hf : f ∈ h.flows := by simp [split]
    rw [left f hf, split]
    by_cases later : ∃ g ∈ after, fileName g.name = fileName f.name
    · rw [if_pos later, if_neg fun own => last.mp own later]
    · rw [if_neg later, if_pos (last.mpr later)]
  refine ⟨fine, exactly, ?_⟩
  intro distinct f hf
  obtain ⟨before, after, split⟩ := List.append_of_mem hf
  rw [exactly before f after split, if_neg]
  rintro ⟨g, hg, same⟩
  rw [split, List.map_append, List.map_cons, List.nodup_append, List.nodup_cons] at distinct
  exact distinct.2.1.1 (same ▸ List.mem_map_of_mem hg)

section TwoFlows

/-- A flow of a start alone. -/
def startOnly (name : String) : Flow where
  name := name
  nodes := [⟨1, .trigger, "start", [], [-1]⟩]
  start := 1
  counter := 1

/-- A disk with an empty directory. -/
def flowsDisk : Files.Disk := .ofTree [(["flows"], .directory)]

/-- Two stored flows, and an empty directory. -/
def twoFlows (first second : String) : Host where
  settings := .standard
  catalog := .standard
  managers := #[⟨.ofFlow (startOnly first), shared⟩, ⟨.ofFlow (startOnly second), shared⟩]
  stored := [(first, 0), (second, 1)]
  histories := #[⟨0, []⟩]
  runs := #[]
  token _ := ""
  disk := flowsDisk

/-- A host with nothing stored that sees the files of another. -/
def emptied (h : Host) : Host := { h with stored := [], disk := .ofTree h.disk.tree }

theorem reopens_emptied (h : Host) (name : String) : h.emptied.Reopens h name :=
  ⟨rfl, rfl, rfl, rfl, rfl⟩

variable {first second : String}

theorem twoFlows_wellStored (other : first ≠ second) : (twoFlows first second).WellStored where
  filed := rfl
  distinct := by simpa [twoFlows] using other
  sound := by
    have sound (name : String) : (startOnly name).Sound .standard := by
      refine ⟨List.nodup_singleton _, ?_, ?_⟩
      · simp only [startOnly, List.forall_mem_cons]
        exact ⟨⟨rfl, rfl⟩, by simp⟩
      · simp only [startOnly, List.forall_mem_cons]
        exact ⟨by decide, by simp⟩
    intro f hf
    have either : f = startOnly first ∨ f = startOnly second := by
      simpa [flows, storedManagers, twoFlows, Editor.ofFlow] using hf
    rcases either with rfl | rfl
    · exact sound first
    · exact sound second

theorem twoFlows_directory : (twoFlows first second).directory "" = .ofText "flows" := rfl

theorem twoFlows_vacant : (twoFlows first second).Vacant "" where
  calm := rfl
  there := by
    rw [twoFlows_directory]
    rfl
  empty := by
    have located : (twoFlows first second).disk.tree.locate (.ofText "flows") = .ok ["flows"] := by
      rfl
    have nothing : (twoFlows first second).disk.tree.names ["flows"] = [] := rfl
    simp [Files.flowFiles, twoFlows_directory, located, nothing]

theorem ordered_startOnly (name : String) : (startOnly name).ordered = (startOnly name).nodes :=
  List.perm_singleton.mp (Flow.ordered_perm (List.nodup_singleton _))

theorem flowJson_startOnly (name : String) : Document.flowJson (startOnly name) =
    .object [("name", .text name), ("version", .text Document.writtenVersion),
      ("engine", .text Document.engineVersion), ("startNodeId", .int 1),
      ("nodes", .array [Document.nodeJson ⟨1, .trigger, "start", [], [-1]⟩])] := by
  unfold Document.flowJson
  rw [ordered_startOnly]
  rfl

/-- The name is the only text of the document that is not fixed. -/
theorem writingFault?_startOnly {name : String} (whole : Json.encodingFault? name.toList = none) :
    Json.writingFault? (Document.flowJson (startOnly name)) = none := by
  rw [flowJson_startOnly]
  have plain : Json.encodingFault? "name".toList = none := rfl
  simp only [Json.writingFault?, Json.leaves, Json.memberLeaves, List.cons_append,
    List.nil_append, List.findSome?_cons, plain, whole]
  rfl

/-- Where a flow of a name is saved. -/
def inFlows (name : String) : Files.Path :=
  (Files.Path.ofText "flows").child (fileName name)

theorem save_startOnly (d : Files.Disk) {name : String}
    (whole : Json.writingFault? (Document.flowJson (startOnly name)) = none) :
    ∃ bytes, Files.save d (startOnly name) (inFlows name) true =
      Files.saveOver d name (inFlows name) bytes := by
  have solid := Files.solid_of_isFlowFile (Files.isFlowFile_fileName name)
  have named : (inFlows name).name ≠ "" := by
    unfold inFlows
    rw [Files.Path.name_child solid]
    exact solid.1
  have writable : ∀ n ∈ (startOnly name).nodes, n.Writable := by
    simp only [startOnly, List.forall_mem_cons]
    exact ⟨Flow.writable_of_nodeDocument rfl, by simp⟩
  have distinct : (startOnly name).Distinct := List.nodup_singleton _
  refine ⟨Files.bytesOf (Json.pretty 0 (Document.flowJson (startOnly name))), ?_⟩
  unfold Files.save
  rw [Flow.dump_eq_ok_iff.mpr ⟨Flow.write_ok distinct writable, whole⟩]
  simp [named, startOnly]

theorem saveAll_twoFlows
    (whole : Json.encodingFault? first.toList = none)
    (whole' : Json.encodingFault? second.toList = none)
    (saved : ∀ bytes bytes', let once := Files.saveOver flowsDisk first (inFlows first) bytes
      once.result = .ok true ∧
        (Files.saveOver once.disk second (inFlows second) bytes').result = .ok true) :
    ((twoFlows first second).saveAll "").result = .ok 2 := by
  obtain ⟨bytes, once⟩ := save_startOnly flowsDisk (writingFault?_startOnly whole)
  obtain ⟨bytes', twice⟩ := save_startOnly (Files.save flowsDisk (startOnly first) (inFlows first)
    true).disk (writingFault?_startOnly whole')
  obtain ⟨done, done'⟩ := saved bytes bytes'
  rw [← once] at done done'
  rw [← twice] at done'
  exact saveFlows_cons.mpr ⟨done, saveFlows_cons.mpr ⟨done', rfl⟩⟩

theorem loadDirectory_saveAll_twoFlows :
    let h := twoFlows "alarm" "greeting"
    let k := (h.saveAll "").host.emptied
    h.WellStored ∧ h.Vacant "" ∧ (h.saveAll "").result = .ok h.stored.length ∧
      k.Reopens (h.saveAll "").host "" ∧ (∃ n, (k.loadDirectory "").result = .ok n) ∧
      ∀ f ∈ h.flows, (k.loadDirectory "").host.flow? f.name =
        f.reload? k.catalog k.settings.formatVersion := by
  intro h k
  have stored : h.WellStored := twoFlows_wellStored (by decide)
  have all : (h.saveAll "").result = .ok 2 :=
    saveAll_twoFlows rfl rfl fun _ _ => ⟨by rfl, by rfl⟩
  have reopens : k.Reopens (h.saveAll "").host "" := reopens_emptied _ _
  obtain ⟨fine, -, every⟩ := loadDirectory_saveAll h k "" stored twoFlows_vacant all reopens
  exact ⟨stored, twoFlows_vacant, all, reopens, fine, every (by decide)⟩

/-- Two flows with different names, both of which are saved, and the first of which is lost. -/
theorem saveAll_loses :
    let h := twoFlows "a/b" "a_b"
    let k := (h.saveAll "").host.emptied
    h.WellStored ∧ (∀ f ∈ h.flows, ∀ n ∈ f.nodes, 0 ≤ n.id) ∧ h.Vacant "" ∧
      (h.saveAll "").result = .ok h.stored.length ∧ k.Reopens (h.saveAll "").host "" ∧
      h.flow? "a/b" = some (startOnly "a/b") ∧ (k.loadDirectory "").host.flow? "a/b" = none := by
  intro h k
  have stored : h.WellStored := twoFlows_wellStored (by decide)
  have all : (h.saveAll "").result = .ok 2 :=
    saveAll_twoFlows rfl rfl fun _ _ => ⟨by rfl, by rfl⟩
  have reopens : k.Reopens (h.saveAll "").host "" := reopens_emptied _ _
  obtain ⟨-, left⟩ := loadDirectory_left stored twoFlows_vacant all reopens
  refine ⟨stored, by decide, twoFlows_vacant, all, reopens, rfl, ?_⟩
  have last : lastIn h.flows (fileName "a/b") ≠ some (startOnly "a/b") := by decide
  exact (left (startOnly "a/b") (by decide)).trans (if_neg last)

end TwoFlows

end Host

end EventFlow
