import EventFlow.Files.Loading
import EventFlow.Files.Name
import EventFlow.Files.Saving
import EventFlow.Proofs.Files.Calls
import EventFlow.Proofs.Traverse

/-!
Saving flows in a directory, and finding them there again.

* `calls_ok`, `makeDirectories_there`: calls on a disk on which no call is struck;
* `save_ok`: a replacing save that succeeds leaves the text in its file, and everything else alone
  but for the sibling that it wrote to first;
* `Holds.savedIn`, `Holds.mem_flowFiles`: the flow files of a directory through a save, and what the
  directory lists;
* `loadFile_bytesOf`: loading a file reads the text that was saved in it.
-/

namespace EventFlow.Files

section Calls

variable {d e : Disk} {p : Path}

theorem call_calm (calm : d.Calm) (c : Call) :
    d.call c = match c.effect d.tree with
      | .ok t => (⟨t, [], d.tree :: d.past⟩, none)
      | .error error => (⟨d.tree, [], d.tree :: d.past⟩, some error) := by
  obtain ⟨tree, faults, past⟩ := d
  obtain rfl : faults = [] := calm
  rfl

/-- Calls that all go through have their effects on the tree one after the other. -/
theorem calls_ok {calls : List Call} (calm : d.Calm) (h : d.calls calls = (e, none)) :
    e.Calm ∧ calls.foldlM Call.effect d.tree = .ok e.tree := by
  induction calls generalizing d with
  | nil =>
    cases h
    exact ⟨calm, rfl⟩
  | cons c rest ih =>
    rw [Disk.calls, call_calm calm] at h
    rw [List.foldlM_cons]
    cases effect : c.effect d.tree with
    | error error => rw [effect] at h; cases h
    | ok t =>
      rw [effect] at h
      have after : Disk.Calm ⟨t, [], d.tree :: d.past⟩ := rfl
      exact ih after h

/-- Making a directory that is there changes nothing. -/
theorem makeDirectories_there (calm : d.Calm) (there : d.tree.find p = .ok .directory) :
    ∃ e, d.makeDirectories p = (e, none) ∧ e.Calm ∧ e.tree = d.tree := by
  obtain ⟨l, located, entry⟩ := Tree.find_eq_ok.mp there
  have refused : (Call.makeDirectory p).effect d.tree = .error .present := by
    simp [Call.effect, Tree.makeDirectory, located, entry, bind, Except.bind]
  have still : d.tree.hasDirectory p = true := by
    simp [Tree.hasDirectory, there]
  have tried : d.tryDirectory p = (⟨d.tree, [], d.tree :: d.past⟩, none) := by
    rw [Disk.tryDirectory, call_calm calm, refused]
    simp [still]
  refine ⟨⟨d.tree, [], d.tree :: d.past⟩, ?_, rfl, rfl⟩
  unfold Disk.makeDirectories
  cases p.parts.length with
  | zero => exact tried
  | succ parts => rw [Disk.ensureDirectory, tried]

end Calls

section Names

theorem isFlowFile_iff {name : String} :
    isFlowFile name = true ↔ ∃ stem, name.toList = stem ++ ".json".toList := by
  unfold isFlowFile
  rw [List.isSuffixOf_iff_suffix]
  exact exists_congr fun stem => eq_comm

theorem isFlowFile_fileName (flow : String) : isFlowFile (fileName flow) = true :=
  isFlowFile_iff.mpr ⟨plainChars flow.toList, by simp [fileName]⟩

theorem solid_of_isFlowFile {name : String} (h : isFlowFile name = true) : Solid name := by
  constructor
  · rintro rfl
    revert h
    decide
  · rintro rfl
    revert h
    decide

/-- The sibling that a save writes to first is no flow file. -/
theorem isFlowFile_temporary (name : String) : isFlowFile (name ++ ".tmp") = false := by
  rw [← Bool.not_eq_true, isFlowFile_iff]
  rintro ⟨stem, same⟩
  have last := congrArg List.getLast? same
  simp at last

theorem solid_temporary (name : String) : Solid (name ++ ".tmp") := by
  constructor
  · intro empty
    simpa using congrArg String.toList empty
  · intro up
    have last := congrArg (List.getLast? ∘ String.toList) up
    simp at last

theorem temporary_child {p : Path} {name : String} (solid : Solid name) :
    temporary (p.child name) = p.child (name ++ ".tmp") := by
  have named : name ++ ".tmp" ≠ "" := (solid_temporary name).1
  unfold temporary Path.sibling
  rw [Path.name_child solid]
  simp [Path.child, solid.1, named]

end Names

section Save

variable {t : Tree} {dir : Path} {at_ : Location} {file : String}

/-- Emptying a file and writing to it gives it just the bytes that are written. -/
theorem written_ok {a b : Tree} {name : String} {bytes : Bytes} (located : t.locate dir = .ok at_)
    (solid : Solid name) (emptied : t.truncate (dir.child name) = .ok a)
    (written : a.append (dir.child name) bytes = .ok b) :
    t.Keeps b ∧ b.locate dir = .ok at_ ∧
      ∀ m, b.entry? m = if m = at_ ++ [name] then some (.file bytes) else t.entry? m := by
  have below : at_ ++ [name] ≠ [] := by simp
  obtain ⟨l, leads, free, rfl⟩ := Tree.truncate_ok emptied
  cases Tree.locate_child located solid leads
  have kept := Tree.keeps_put free (.file [])
  obtain ⟨l, content, leads, entry, rfl⟩ := Tree.append_ok written
  cases Tree.locate_child (kept.locate located) solid leads
  rw [Tree.entry?_put below, if_pos rfl] at entry
  cases entry
  have free' : Tree.entry? (t.put (at_ ++ [name]) (.file [])) (at_ ++ [name]) ≠
      some .directory := by
    rw [Tree.entry?_put below, if_pos rfl]
    nofun
  have kept' := kept.trans (Tree.keeps_put free' (.file ([] ++ bytes)))
  refine ⟨kept', kept'.locate located, ?_⟩
  intro m
  rw [Tree.entry?_put below, Tree.entry?_put below]
  split <;> rfl

/-- Moving a file to another name in its directory leaves every third entry as it was. -/
theorem moved_ok {u : Tree} {name target : String} {bytes : Bytes}
    (located : t.locate dir = .ok at_) (solid : Solid name) (solid' : Solid target)
    (other : target ≠ name) (held : t.entry? (at_ ++ [name]) = some (.file bytes))
    (moved : t.rename (dir.child name) (dir.child target) = .ok u) :
    t.Keeps u ∧ u.locate (dir.child target) = .ok (at_ ++ [target]) ∧
      ∀ m, m ≠ at_ ++ [name] →
        u.entry? m = if m = at_ ++ [target] then some (.file bytes) else t.entry? m := by
  obtain ⟨source, goal, content, leads, leads', entry, free, rfl⟩ := Tree.rename_ok moved
  cases Tree.locate_child located solid leads
  cases Tree.locate_child located solid' leads'
  cases held.symm.trans entry
  have file : t.entry? (at_ ++ [name]) ≠ some .directory := by
    rw [held]
    nofun
  have kept := Tree.keeps_erase file
  have free' : Tree.entry? (t.erase (at_ ++ [name])) (at_ ++ [target]) ≠ some .directory := by
    rw [Tree.entry?_erase (by simp), if_neg (by simpa using other)]
    exact free
  have kept' := kept.trans (Tree.keeps_put free' (.file bytes))
  refine ⟨kept', kept'.locate leads', ?_⟩
  intro m third
  rw [Tree.entry?_put (by simp), Tree.entry?_erase (by simp), if_neg third]

/-- The calls of a replacing save change the tree three times. -/
theorem replacing_effects {u : Tree} {tmp p : Path} {bytes : Bytes}
    (h : [.truncate tmp, .write tmp bytes, .flush tmp, .sync tmp, .close tmp, .rename tmp p].foldlM
      Call.effect t = .ok u) :
    ∃ a b, t.truncate tmp = .ok a ∧ a.append tmp bytes = .ok b ∧ b.rename tmp p = .ok u := by
  obtain ⟨a, emptied, h⟩ := Except.exists_of_bind_eq_ok h
  obtain ⟨b, written, h⟩ := Except.exists_of_bind_eq_ok h
  obtain ⟨v, moved, h⟩ := Except.exists_of_bind_eq_ok (x := b.rename tmp p) h
  cases h
  exact ⟨a, b, emptied, written, moved⟩

/-- The outcome of a replacing save that succeeds. -/
structure SavedIn (t u : Tree) (dir : Path) (at_ : Location) (file : String) (bytes : Bytes) :
    Prop where
  kept : t.Keeps u
  located : u.locate (dir.child file) = .ok (at_ ++ [file])
  entries : ∀ m, m ≠ at_ ++ [file ++ ".tmp"] →
    u.entry? m = if m = at_ ++ [file] then some (.file bytes) else t.entry? m

theorem saveOver_ok {d : Disk} {flow : String} {bytes : Bytes} (calm : d.Calm)
    (located : d.tree.locate dir = .ok at_) (there : d.tree.entry? at_ = some .directory)
    (named : isFlowFile file = true)
    (done : (saveOver d flow (dir.child file) bytes).result = .ok true) :
    (saveOver d flow (dir.child file) bytes).disk.Calm ∧
      SavedIn d.tree (saveOver d flow (dir.child file) bytes).disk.tree dir at_ file bytes := by
  have solid := solid_of_isFlowFile named
  have found := Tree.find_eq_ok.mpr ⟨at_, located, there⟩
  obtain ⟨d', made, calm', same⟩ := makeDirectories_there calm found
  rw [saveOver, inDirectory, Path.parent_child solid, made, temporary_child solid] at done ⊢
  dsimp only at done ⊢
  split at done
  · rename_i e went
    obtain ⟨calm'', effects⟩ := calls_ok calm' went
    rw [same] at effects
    obtain ⟨a, b, emptied, written, moved⟩ := replacing_effects effects
    have temporary := solid_temporary file
    obtain ⟨kept, located', entries⟩ := written_ok located temporary emptied written
    have other : file ≠ file ++ ".tmp" := by
      intro same
      rw [same, isFlowFile_temporary] at named
      cases named
    have held : b.entry? (at_ ++ [file ++ ".tmp"]) = some (.file bytes) := by
      rw [entries, if_pos rfl]
    obtain ⟨kept', leads, entries'⟩ := moved_ok located' temporary solid other held moved
    refine ⟨calm'', kept.trans kept', leads, ?_⟩
    intro m third
    rw [entries' m third, entries m, if_neg third]
  · cases done
  · cases done

/-- The bytes that a flow is saved as, if it can be dumped. -/
def bytes? (f : Flow) : Option Bytes :=
  match f.dump with
  | .ok text => some (bytesOf text)
  | .error _ => none

theorem save_ok {d : Disk} {f : Flow} (calm : d.Calm) (located : d.tree.locate dir = .ok at_)
    (there : d.tree.entry? at_ = some .directory) (named : isFlowFile file = true)
    (done : (save d f (dir.child file) true).result = .ok true) :
    ∃ bytes, bytes? f = some bytes ∧ (save d f (dir.child file) true).disk.Calm ∧
      SavedIn d.tree (save d f (dir.child file) true).disk.tree dir at_ file bytes := by
  have solid := solid_of_isFlowFile named
  unfold save at done ⊢
  split at done
  · cases done
  · rename_i text dumped
    simp only [Bool.not_true, Bool.false_eq_true, ↓reduceIte, Path.name_child solid, solid.1]
      at done ⊢
    exact ⟨bytesOf text, by rw [bytes?, dumped], saveOver_ok calm located there named done⟩

end Save

/-- The flow files of a directory are there under their names, with some contents. -/
structure Holds (t : Tree) (dir : Path) (at_ : Location) (contents : String → Option Bytes) :
    Prop where
  located : t.locate dir = .ok at_
  directory : t.entry? at_ = some .directory
  files : ∀ name, isFlowFile name = true →
    t.entry? (at_ ++ [name]) = (contents name).map Entry.file
  reached : ∀ name, isFlowFile name = true → (contents name).isSome →
    t.locate (dir.child name) = .ok (at_ ++ [name])

namespace Holds

variable {t : Tree} {dir : Path} {at_ : Location} {contents : String → Option Bytes}

theorem savedIn {u : Tree} {file : String} {bytes : Bytes} (h : Holds t dir at_ contents)
    (saved : SavedIn t u dir at_ file bytes) :
    Holds u dir at_ fun name => if name = file then some bytes else contents name where
  located := saved.kept.locate h.located
  directory := saved.kept at_ h.directory
  files name flowFile := by
    have other : at_ ++ [name] ≠ at_ ++ [file ++ ".tmp"] := by
      intro same
      have same' : name = file ++ ".tmp" := by simpa using same
      rw [same', isFlowFile_temporary] at flowFile
      cases flowFile
    rw [saved.entries _ other]
    by_cases own : name = file
    · simp [own]
    · simp [own, h.files name flowFile]
  reached name flowFile some' := by
    by_cases own : name = file
    · rw [own]
      exact saved.located
    · rw [if_neg own] at some'
      exact saved.kept.locate (h.reached name flowFile some')

/-- The paths that a directory of flow files lists. -/
theorem mem_flowFiles (h : Holds t dir at_ contents) {p : Path} :
    p ∈ flowFiles t dir ↔
      ∃ name, isFlowFile name = true ∧ (contents name).isSome ∧ dir.child name = p := by
  unfold flowFiles
  rw [h.located]
  simp only [List.mem_map, List.mem_mergeSort, List.mem_filter, Tree.mem_names]
  refine exists_congr fun name => ?_
  constructor
  · rintro ⟨⟨there, flowFile⟩, same⟩
    rw [h.files name flowFile, ← Option.isSome_iff_ne_none, Option.isSome_map] at there
    exact ⟨flowFile, there, same⟩
  · rintro ⟨flowFile, there, same⟩
    refine ⟨⟨?_, flowFile⟩, same⟩
    rw [h.files name flowFile, ← Option.isSome_iff_ne_none, Option.isSome_map]
    exact there

theorem find_eq (h : Holds t dir at_ contents) {name : String} {bytes : Bytes}
    (flowFile : isFlowFile name = true) (held : contents name = some bytes) :
    t.find (dir.child name) = .ok (.file bytes) := by
  refine Tree.find_eq_ok.mpr ⟨_, h.reached name flowFile (by rw [held]; rfl), ?_⟩
  rw [h.files name flowFile, held]
  rfl

end Holds

/-- A directory without flow files holds nothing. -/
theorem holds_nothing {t : Tree} {dir : Path} (there : t.find dir = .ok .directory)
    (empty : flowFiles t dir = []) : ∃ at_, Holds t dir at_ fun _ => none := by
  obtain ⟨at_, located, entry⟩ := Tree.find_eq_ok.mp there
  refine ⟨at_, located, entry, ?_, fun _ _ some' => absurd some' (by simp)⟩
  intro name flowFile
  rw [Option.map_none]
  by_contra found
  have listed := Tree.mem_names.mpr found
  have path : dir.child name ∈ flowFiles t dir := by
    unfold flowFiles
    rw [located]
    simp only [List.mem_map, List.mem_mergeSort, List.mem_filter]
    exact ⟨name, ⟨listed, flowFile⟩, rfl⟩
  rw [empty] at path
  cases path

section Bytes

theorem toList_loop (bytes : ByteArray) (i : Nat) (read : List UInt8) :
    ByteArray.toList.loop bytes i read = read.reverse ++ bytes.data.toList.drop i := by
  fun_induction ByteArray.toList.loop bytes i read with
  | case1 i read inside ih =>
    have bound : i < bytes.data.toList.length := by simpa using inside
    have byte : bytes.get! i = bytes.data.toList[i] := by
      rw [Array.getElem_toList]
      exact getElem!_pos bytes.data i inside
    rw [ih, List.drop_eq_getElem_cons bound, List.reverse_cons, List.append_assoc, byte]
    rfl
  | case2 i read outside =>
    have past : bytes.data.toList.length ≤ i := by simpa using outside
    rw [List.drop_eq_nil_of_le past, List.append_nil]

/-- The bytes of a text are the bytes of just that text. -/
theorem fromUTF8?_bytesOf (text : List Char) :
    String.fromUTF8? ⟨(bytesOf text).toArray⟩ = some (String.ofList text) := by
  have bytes : (⟨(bytesOf text).toArray⟩ : ByteArray) = (String.ofList text).toUTF8 := by
    unfold bytesOf ByteArray.toList
    rw [toList_loop]
    rfl
  rw [bytes]
  exact dif_pos (String.ofList text).isValidUTF8

/-- Loading a file that holds the text of a flow reads that text, and nothing else happens. -/
theorem loadFile_bytesOf {c : Catalog} {version : String} {d : Disk} {p : Path} {text : List Char}
    (calm : d.Calm) (found : d.tree.find p = .ok (.file (bytesOf text))) :
    (loadFile c version d p).result = match (Flow.read c version text).result with
      | .ok f => .ok (some f)
      | .error (.unknownType error) => .error (.unknownType error)
      | .error _ => .ok none := by
  have content := readFile_calm calm (Tree.read_of_find found)
  unfold loadFile
  rw [found]
  generalize d.readFile p = given at content
  obtain ⟨e, result⟩ := given
  obtain rfl : result = .ok (bytesOf text) := content
  simp only [loadBytes, Flow.readBytes, fromUTF8?_bytesOf, String.toList_ofList]
  cases (Flow.read c version text).result with
  | ok f => rfl
  | error error => cases error <;> rfl

end Bytes

end EventFlow.Files
