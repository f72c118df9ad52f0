import EventFlow.Proofs.Files.Alike
import EventFlow.Proofs.Files.Confined
import EventFlow.Proofs.Service.Ready

/-!
What requests read and write: files in the flow directory.

* `perform_withDisk`: an operation that has nothing to do with files does the same on every disk;
* `perform_alike`, `served_alike`: the other ones do the same on disks that differ only in files
  that they do not read;
* `perform_confined`, `served_confined`: they change flow files and their siblings only;
* `requests_confined`: both for all requests, and for a save that it changes the file of one flow;
* `load_readsItself`: what lies in the place of the flow directory is read, if it is a file.
-/

namespace EventFlow

namespace Host

section WithDisk

variable (h : Host) (d : Files.Disk)

theorem store_withDisk (n : Nat) : (h.withDisk d).store n = (h.store n).withDisk d := by
  unfold store withDisk
  dsimp only
  split <;> rfl

theorem storeFlow_withDisk (f : Flow) :
    (h.withDisk d).storeFlow f = (h.storeFlow f).withDisk d :=
  store_withDisk (h.addManager ⟨.ofFlow f, shared⟩).1 d _

/-- Reading a file on another disk that gives the same for it. -/
theorem reading_withDisk {h : Host} {d : Files.Disk} {p : Files.Path}
    (same : (Files.loadFile h.catalog h.settings.formatVersion d p).result =
      (Files.loadFile h.catalog h.settings.formatVersion h.disk p).result) :
    (h.withDisk d).reading p =
      (h.reading p).withDisk (Files.loadFile h.catalog h.settings.formatVersion d p).disk := by
  have opened : (h.withDisk d).opened p = h.opened p := by
    unfold opened withDisk
    rw [same]
  unfold reading
  rw [opened]
  cases h.opened p with
  | none => rfl
  | some f =>
    have stored := storeFlow_withDisk
      (h.withDisk (Files.loadFile h.catalog h.settings.formatVersion h.disk p).disk)
      (Files.loadFile h.catalog h.settings.formatVersion d p).disk f
    exact stored

theorem addEditor_withDisk (editor : Editor) :
    (h.withDisk d).addEditor editor =
      (h.addEditor editor).map fun (k, n) => (k.withDisk d, n) := by
  unfold addEditor withDisk
  dsimp only
  cases History.ofSize h.settings.historySize <;> rfl

theorem run_withDisk (m : Manager) (payload : List Value) (bindings : Bindings)
    (limit : Option Int) (listener : Listener) :
    (h.withDisk d).run m payload bindings limit listener =
      (h.run m payload bindings limit listener).map fun ran =>
        { ran with host := ran.host.withDisk d } := by
  unfold run withDisk
  dsimp only
  cases m.editor.start h.catalog (limit.getD h.settings.maxSteps) listener <;> rfl

theorem runAll_withDisk (payload : List Value) (bindings : Bindings) (ms : List Manager) :
    (h.withDisk d).runAll payload bindings ms =
      { h.runAll payload bindings ms with
        host := (h.runAll payload bindings ms).host.withDisk d } := by
  induction ms generalizing h with
  | nil => rfl
  | cons m rest ih =>
    rw [runAll, runAll, run_withDisk]
    cases h.run m payload bindings none .absent with
    | error error => rfl
    | ok ran =>
      simp only [Except.map, ih]

theorem dispatch_withDisk (event : String) (payload : List Value) (bindings : Bindings) :
    (h.withDisk d).dispatch event payload bindings =
      { h.dispatch event payload bindings with
        host := (h.dispatch event payload bindings).host.withDisk d } := by
  have targets : (h.withDisk d).targets event = h.targets event := rfl
  unfold dispatch
  rw [targets, runAll_withDisk]
  generalize h.runAll payload bindings (h.targets event) = after
  obtain ⟨host, result, log⟩ := after
  cases result <;> rfl

end WithDisk

end Host

namespace Service

open Files

/-- What was done to a host is done to the host with another disk. -/
def onDisk (d : Disk) (done : Host × Response) : Host × Response :=
  (done.1.withDisk d, done.2)

/-- An operation that has to do with files. -/
def Operation.AsksFiles : Operation → Prop
  | loadFlow _ | saveFlow _ _ => True
  | _ => False

section OnDisk

variable (h : Host) (d : Disk)

/-- What relates two answers that a flow is not found, and two acts on the same manager, relates the
operation on a host and on the host with another disk. -/
theorem onFlow_related {R : Host × Response → Host × Response → Prop} (name : String)
    {act act' : Nat → Manager → Host × Response}
    (missing : R (h, flowNotFound name) (h.withDisk d, flowNotFound name))
    (acts : ∀ n m, R (act n m) (act' n m)) :
    R (onFlow h name act) (onFlow (h.withDisk d) name act') := by
  have found : (h.withDisk d).fetch? name = h.fetch? name := rfl
  have managers : (h.withDisk d).managers = h.managers := rfl
  unfold onFlow
  rw [found, managers]
  split
  · exact acts _ _
  · exact missing

theorem onFlow_withDisk (name : String) {act act' : Nat → Manager → Host × Response}
    (acts : ∀ n m, act' n m = onDisk d (act n m)) :
    onFlow (h.withDisk d) name act' = onDisk d (onFlow h name act) :=
  onFlow_related h d (R := fun x y => y = onDisk d x) name rfl acts

theorem createFlow_withDisk (name type start : String) :
    createFlow (h.withDisk d) name type start = onDisk d (createFlow h name type start) := by
  have stored : (h.withDisk d).isStored name = h.isStored name := rfl
  have catalog : (h.withDisk d).catalog = h.catalog := rfl
  unfold createFlow
  rw [stored, catalog]
  split
  · rfl
  · split
    · rfl
    · rfl
    · rw [Host.addEditor_withDisk]
      cases h.addEditor _ with
      | error error => cases error <;> rfl
      | ok added =>
        simp only [Except.map, onDisk, Host.store_withDisk]
        rfl

theorem runFlow_withDisk (flow : String) (payload : List Value) (bindings : Bindings)
    (limit : Option Int) :
    runFlow (h.withDisk d) flow payload bindings limit =
      onDisk d (runFlow h flow payload bindings limit) := by
  refine onFlow_withDisk h d flow fun n m => ?_
  rw [Host.run_withDisk]
  cases h.run m payload bindings limit .absent <;> rfl

theorem raiseEvent_withDisk (event : String) (payload : List Value) (bindings : Bindings) :
    raiseEvent (h.withDisk d) event payload bindings =
      onDisk d (raiseEvent h event payload bindings) := by
  unfold raiseEvent
  rw [Host.dispatch_withDisk]
  dsimp only
  cases (h.dispatch event payload bindings).result <;> rfl

/-- An operation that has nothing to do with files does the same whatever is on the disk, and leaves
the disk alone. -/
theorem perform_withDisk {operation : Operation} (noFiles : ¬operation.AsksFiles) :
    perform (h.withDisk d) operation = onDisk d (perform h operation) := by
  cases operation with
  | loadFlow | saveFlow => exact absurd trivial noFiles
  | createFlow name type start => exact createFlow_withDisk h d name type start
  | runFlow flow payload bindings limit => exact runFlow_withDisk h d flow payload bindings limit
  | raise event payload bindings => exact raiseEvent_withDisk h d event payload bindings
  | deleteFlow name =>
    have stored : (h.withDisk d).isStored name = h.isStored name := rfl
    rw [perform, perform, deleteFlow, deleteFlow, stored]
    split <;> rfl
  | showFlow | edit | undo | redo | enable => exact onFlow_withDisk h d _ fun _ _ => rfl
  | overview | health | listFlows | listTypes | showType | listRuns | showRun => rfl

/-- Such an operation leaves the disk alone. -/
theorem perform_disk {operation : Operation} (noFiles : ¬operation.AsksFiles) :
    (perform h operation).1.disk = h.disk :=
  congrArg (fun done => done.1.disk) (perform_withDisk h h.disk noFiles)

end OnDisk

section Reading

/-- The directory that flows are loaded from and saved in. -/
def flowDirectory (h : Host) : Path :=
  .ofText h.settings.flowDirectory

/-- What an operation may read is seen: the children of the flow directory and, if it loads a path
without a name at its end, the flow directory itself. -/
structure Sees (dir : Path) (seen : Location → Prop) (operation : Operation) : Prop where
  children : ∀ name, seen (dir.location ++ [name])
  itself : ∀ file, operation = .loadFlow file → (Path.ofText file).name = "" → seen dir.location

variable {h : Host} {seen : Location → Prop} {d : Disk}

theorem flowFile_reads {file : String} (sees : Sees (flowDirectory h) seen (.loadFlow file))
    {l : Location} (located : h.disk.tree.locate (flowFile h file) = .ok l) :
    seen l ∨ h.disk.tree.entry? l = some .directory := by
  change h.disk.tree.locate ((flowDirectory h).child (Path.ofText file).name) = .ok l at located
  by_cases up : (Path.ofText file).name = ".."
  · rw [up] at located
    exact .inr (directory_up located)
  · left
    obtain rfl := locate_eq located
    by_cases empty : (Path.ofText file).name = ""
    · rw [Path.child, if_pos empty]
      exact sees.itself file rfl empty
    · rw [location_child ⟨empty, up⟩]
      exact sees.children _

theorem flowFile_withDisk (file : String) : flowFile (h.withDisk d) file = flowFile h file :=
  rfl

theorem loadFlow_alike (alike : h.disk.Alike seen d) {file : String}
    (sees : Sees (flowDirectory h) seen (.loadFlow file)) :
    ∃ e, loadFlow (h.withDisk d) file = onDisk e (loadFlow h file) ∧
      (loadFlow h file).1.disk.Alike seen e := by
  obtain ⟨disk, result, -⟩ := loadFile_alike (p := flowFile h file) alike
    (fun _ => flowFile_reads sees) h.catalog h.settings.formatVersion
  refine ⟨(loadFile h.catalog h.settings.formatVersion d (flowFile h file)).disk,
    Prod.ext ?_ ?_, ?_⟩
  · rw [loadFlow_host, onDisk, loadFlow_host, flowFile_withDisk]
    exact Host.reading_withDisk result.symm
  · rw [loadFlow_answer, onDisk, loadFlow_answer, flowFile_withDisk, result]
    rfl
  · rw [loadFlow_host, Host.disk_reading]
    exact disk

theorem saveFlow_alike (alike : h.disk.Alike seen d)
    (children : ∀ name, seen ((flowDirectory h).location ++ [name])) (flow : String)
    (replace : Bool) :
    ∃ e, saveFlow (h.withDisk d) flow replace = onDisk e (saveFlow h flow replace) ∧
      (saveFlow h flow replace).1.disk.Alike seen e := by
  refine onFlow_related h d (R := fun x y => ∃ e, y = onDisk e x ∧ x.1.disk.Alike seen e) flow
    ⟨d, rfl, alike⟩ fun n m => ?_
  have solid := solid_of_isFlowFile (isFlowFile_fileName m.editor.flow.name)
  have moves :
      seen (temporary ((flowDirectory h).child (fileName m.editor.flow.name))).location := by
    rw [temporary_child solid, location_child (solid_temporary _)]
    exact children _
  obtain ⟨disk, result⟩ := save_alike alike m.editor.flow (fun _ => moves) replace
  unfold flowDirectory at disk result
  refine ⟨_, ?_, disk⟩
  simp only [onDisk, Host.withDisk, result]

/-- An operation does the same on alike disks, and leaves alike ones, if what it may read is
seen. -/
theorem perform_alike {h : Host} (alike : h.disk.Alike seen d) {operation : Operation}
    (sees : Sees (flowDirectory h) seen operation) :
    ∃ e, perform (h.withDisk d) operation = onDisk e (perform h operation) ∧
      (perform h operation).1.disk.Alike seen e := by
  by_cases asks : operation.AsksFiles
  · cases operation with
    | loadFlow file =>
      simp only [perform]
      exact loadFlow_alike alike sees
    | saveFlow flow replace =>
      simp only [perform]
      exact saveFlow_alike alike sees.children flow replace
    | _ => exact False.elim asks
  · refine ⟨d, perform_withDisk h d asks, ?_⟩
    rw [perform_disk h asks]
    exact alike

theorem serve_alike (alike : h.disk.Alike seen d) {r : Request}
    (sees : ∀ operation, r.operation? = some operation → Sees (flowDirectory h) seen operation) :
    ∃ e, serve (h.withDisk d) r = onDisk e (serve h r) ∧ (serve h r).1.disk.Alike seen e := by
  rw [serve_eq, serve_eq]
  cases asks : r.operation? with
  | none =>
    obtain ⟨response, same⟩ := answer_refused asks
    rw [same, same]
    exact ⟨d, rfl, alike⟩
  | some operation =>
    obtain ⟨e, same, after⟩ := perform_alike alike (sees operation asks)
    rw [answer_asked asks, answer_asked asks, same]
    exact ⟨e, rfl, after⟩

end Reading

section Writing

variable {h : Host}

/-- What holds of a host, and after an act, holds after the operation on a stored flow. -/
theorem onFlow_host {P : Host → Prop} {name : String} {act : Nat → Manager → Host × Response}
    (missing : h.manager? name = none → P h)
    (acts : ∀ n m, h.manager? name = some m → P (act n m).1) : P (onFlow h name act).1 := by
  obtain ⟨n, m, -, -, found, same⟩ | ⟨none', same⟩ := onFlow_cases h name act
  · rw [same]
    exact acts n m found
  · rw [same]
    exact missing none'

theorem saveFlow_alone {flow : String} {m : Manager} (found : h.manager? flow = some m)
    (replace : Bool) :
    Throughout (SavedAlone (flowDirectory h) m.editor.flow.name h.disk.tree) h.disk
      (saveFlow h flow replace).1.disk := by
  refine onFlow_host
    (P := fun k => Throughout (SavedAlone _ m.editor.flow.name h.disk.tree) h.disk k.disk)
    (fun none' => ?_) fun n m' found' => ?_
  · rw [found] at none'
    cases none'
  · cases found.symm.trans found'
    exact saved_alone h.disk m.editor.flow (flowDirectory h) replace

theorem perform_confined (h : Host) (operation : Operation) :
    Throughout (Confined (flowDirectory h) h.disk.tree) h.disk (perform h operation).1.disk := by
  by_cases asks : operation.AsksFiles
  · cases operation with
    | loadFlow file =>
      obtain ⟨refused, reads⟩ := runs_loadFile h.catalog h.settings.formatVersion h.disk
        (flowFile h file)
      rw [perform, loadFlow_host, Host.disk_reading]
      exact reads.looks.1.mono fun u same => same ▸ .refl _ _
    | saveFlow flow replace =>
      refine onFlow_host (P := fun k => Throughout _ h.disk k.disk) (fun _ => .refl _ _)
        fun n m _ => ?_
      have alone := saved_alone h.disk m.editor.flow (flowDirectory h) replace
      exact alone.mono fun _ => SavedAlone.confined
    | _ => exact False.elim asks
  · rw [perform_disk h asks]
    exact .refl _ _

theorem serve_confined (h : Host) (r : Request) :
    Throughout (Confined (flowDirectory h) h.disk.tree) h.disk (serve h r).1.disk := by
  rw [serve_eq]
  cases asks : r.operation? with
  | none =>
    rw [answer_idle asks]
    exact .refl _ _
  | some operation =>
    rw [answer_asked asks]
    exact perform_confined h operation

end Writing

/-- The answers to requests that are served one after the other. -/
def replies (h : Host) : List Request → List Response
  | [] => []
  | r :: rest => (serve h r).2 :: replies (serve h r).1 rest

/-- The locations that requests may read. -/
def Readable (dir : Path) (requests : List Request) (l : Location) : Prop :=
  (∃ name, l = dir.location ++ [name]) ∨
    l = dir.location ∧ ∃ r ∈ requests, ∃ file,
      r.operation? = some (.loadFlow file) ∧ (Path.ofText file).name = ""

section Requests

variable {h : Host} {seen : Location → Prop} {d : Disk} {requests : List Request}

theorem flowDirectory_serve (h : Host) (r : Request) :
    flowDirectory (serve h r).1 = flowDirectory h := by
  rw [flowDirectory, (serve_performs h r).fixed.1, flowDirectory]

theorem served_alike (alike : h.disk.Alike seen d)
    (sees : ∀ r ∈ requests, ∀ operation, r.operation? = some operation →
      Sees (flowDirectory h) seen operation) :
    replies (h.withDisk d) requests = replies h requests ∧
      ∃ e, (h.withDisk d).served requests = (h.served requests).withDisk e ∧
        (h.served requests).disk.Alike seen e := by
  induction requests generalizing h d with
  | nil => exact ⟨rfl, d, rfl, alike⟩
  | cons r rest ih =>
    obtain ⟨first, others⟩ := List.forall_mem_cons.mp sees
    obtain ⟨e, same, after⟩ := serve_alike alike first
    rw [← flowDirectory_serve h r] at others
    obtain ⟨answers, hosts⟩ := ih after others
    have next : (h.withDisk d).served (r :: rest) = ((serve h r).1.withDisk e).served rest := by
      change ((serve (h.withDisk d) r).1).served rest = _
      rw [same]
      rfl
    refine ⟨?_, ?_⟩
    · rw [replies, replies, same]
      exact congrArg _ answers
    · rw [next]
      exact hosts

theorem served_confined (h : Host) (requests : List Request) :
    Throughout (Confined (flowDirectory h) h.disk.tree) h.disk (h.served requests).disk := by
  induction requests generalizing h with
  | nil => exact .refl _ _
  | cons r rest ih =>
    have first := serve_confined h r
    have later := ih (serve h r).1
    rw [flowDirectory_serve] at later
    exact first.trans (later.mono fun u => (first.last (.refl _ _)).trans)

theorem sees_readable (dir : Path) {r : Request} (member : r ∈ requests) {operation : Operation}
    (asks : r.operation? = some operation) : Sees dir (Readable dir requests) operation where
  children name := .inl ⟨name, rfl⟩
  itself file load empty := .inr ⟨rfl, r, member, file, load ▸ asks, empty⟩

/-- **Requests keep to the flow directory.** They are answered the same, and do the same, whatever
files hold that are no children of the flow directory; only a request to load a path without a name
at its end reads what lies in the place of the directory itself. Whatever befalls the calls, at
every moment no entry is different but flow files in the directory and their siblings, and new
directories on the way. A save of a flow changes its own file and the sibling of that, so it leaves
the files of all flows alone that are stored under other names. -/
theorem requests_confined (h : Host) (requests : List Request) :
    let dir := Path.ofText h.settings.flowDirectory
    let k := h.served requests
    (∀ d, h.disk.Alike (Readable dir requests) d →
      replies { h with disk := d } requests = replies h requests ∧
      ∃ e, Host.served { h with disk := d } requests = { k with disk := e } ∧
        k.disk.Alike (Readable dir requests) e) ∧
    Throughout (Confined dir h.disk.tree) h.disk k.disk ∧
    ∀ r flow replace m, r.operation? = some (.saveFlow flow replace) →
      k.manager? flow = some m →
      Throughout (SavedAlone dir m.editor.flow.name k.disk.tree) k.disk (serve k r).1.disk := by
  intro dir k
  refine ⟨fun d alike => ?_, served_confined h requests, fun r flow replace m asks found => ?_⟩
  · exact served_alike alike fun r member operation asks => sees_readable dir member asks
  · have same : flowDirectory k = dir := by
      rw [flowDirectory, Host.served_settings]
    rw [serve_eq, answer_asked asks, ← same]
    exact saveFlow_alone found replace

/-- The text of a flow with nothing but its start node. -/
def noteText : List Char :=
  ("\x7b\"name\":\"a\",\"version\":\"1\",\"startNodeId\":1,\"nodes\":[" ++
    "\x7b\"id\":1,\"type\":\"TriggerNode\",\"name\":\"start\",\"inputs\":[]," ++
    "\"nextNodes\":[-1]\x7d]\x7d").toList

/-- A host whose flow directory is not at the top. -/
def deep : Host :=
  { Host.quiet with settings := { Host.quiet.settings with flowDirectory := "d/flows" } }

/-- A disk with a file in the place of that directory. -/
def misplaced (content : Bytes) : Disk :=
  .ofTree [(["d"], .directory), (["d", "flows"], .file content)]

theorem misplaced_alike (a b : Bytes) :
    (misplaced a).Alike (fun l => ∃ name, l = ["d", "flows"] ++ [name]) (misplaced b) := by
  refine ⟨fun l => ?_, rfl⟩
  by_cases root : l = []
  · subst root
    exact .directory
  · unfold misplaced Disk.ofTree
    rw [Tree.entry?_of_ne root, Tree.entry?_of_ne root, lookup_cons, lookup_cons, lookup_cons,
      lookup_cons]
    split
    · exact .directory
    · split
      · rename_i here
        exact .file fun ⟨name, below⟩ => by simp [here] at below
      · exact .nothing

/-- The request to load a path that leaves the flow directory. -/
def loadsItself : Request :=
  ⟨.post, .ofText "/flows/load", .json (.object [("file", .text ".")])⟩

theorem operation?_loadsItself : loadsItself.operation? = some (.loadFlow ".") := by
  decide +kernel

/-- A flow that is loaded is told of. -/
theorem loadFlow_created {h : Host} (standard : h.catalog = .standard) {file : String} {f : Flow}
    (read : (loadFile h.catalog h.settings.formatVersion h.disk (flowFile h file)).result =
      .ok (some f)) : (loadFlow h file).2.status = 201 := by
  obtain ⟨report, told⟩ := infoJson_loaded (standard ▸ read)
  rw [loadFlow_answer, read, loadAnswer, Response.info, told]
  rfl

/-- A flow is loaded from a file that is no child of the flow directory but lies in its place, so
that the answer depends on what that file holds. -/
theorem load_readsItself :
    ∃ h : Host, h.Started ∧ h.settings.flowDirectory = "d/flows" ∧
      h.disk.Alike (fun l => ∃ name, l = (Path.ofText "d/flows").location ++ [name])
        (misplaced []) ∧
      loadsItself.operation? = some (.loadFlow ".") ∧
      (answer h loadsItself).2.status = 201 ∧ (serve h loadsItself).1.isStored "a" = true ∧
      (answer { h with disk := misplaced [] } loadsItself).2.status = 400 := by
  have evaluated : ((deep.withDisk (misplaced (bytesOf noteText))).startUp.toOption.map fun h =>
      (h.disk.tree, h.disk.faults.length, h.settings.flowDirectory,
        (h.opened (flowFile h ".")).isSome, (serve h loadsItself).1.isStored "a",
        (answer { h with disk := misplaced [] } loadsItself).2.status)) =
      some ((misplaced (bytesOf noteText)).tree, 0, "d/flows", true, true, 400) := by
    decide +kernel
  obtain ⟨h, up, facts⟩ := Option.map_eq_some_iff.mp evaluated
  obtain ⟨tree, facts⟩ := Prod.mk.inj facts
  obtain ⟨faultless, facts⟩ := Prod.mk.inj facts
  obtain ⟨directory, facts⟩ := Prod.mk.inj facts
  obtain ⟨opens, facts⟩ := Prod.mk.inj facts
  obtain ⟨stored, refused⟩ := Prod.mk.inj facts
  have started : h.Started :=
    ⟨deep.settings, deep.token, deep, misplaced (bytesOf noteText), rfl,
      Except.eq_ok_of_toOption up⟩
  have created : (answer h loadsItself).2.status = 201 := by
    obtain ⟨f, gives⟩ := Option.isSome_iff_exists.mp opens
    rw [answer_asked operation?_loadsItself, perform]
    exact loadFlow_created started.live.standard (Host.read_of_opened gives)
  have alike := misplaced_alike (bytesOf noteText) []
  refine ⟨h, started, directory, ⟨?_, ?_⟩, operation?_loadsItself, created, stored, refused⟩
  · rw [tree]
    exact alike.tree
  · exact List.eq_nil_of_length_eq_zero faultless

end Requests

end Service

end EventFlow
