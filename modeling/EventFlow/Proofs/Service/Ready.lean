import EventFlow.Proofs.Edit.Ready
import EventFlow.Proofs.Files.Replacing
import EventFlow.Proofs.Run.Checked
import EventFlow.Proofs.Service.Session

/-!
What stays as it is whatever requests make of a host.

* `loadFile_settled`: files give flows as loading leaves them, if they give any;
* `Sturdy`: nothing that is asked of an editor breaks off, but for what the command or the flow is
  to blame for; `Ready.sturdy`: so it is with an editor that is ready;
* `Performs.ready`, `Live.ready`: every flow under edit stays ready, whatever is done;
* `Performs.spoken`, `Live.spoken`: every run that is kept can be said;
* `Performs.sound`: the disk stays one of which no call is struck by an error of another kind.
-/

namespace EventFlow

theorem Files.loadFile_settled {c : Catalog} {version : String} {d : Files.Disk} {p : Files.Path}
    {f : Flow} (read : (Files.loadFile c version d p).result = .ok (some f)) :
    f.Settled c ∧ Brief f.start := by
  unfold Files.loadFile at read
  split at read
  · split at read
    · unfold Files.loadBytes at read
      dsimp only at read
      split at read
      · rename_i g loaded
        cases read
        unfold Flow.readBytes at loaded
        split at loaded
        · exact Flow.read_settled loaded
        · cases loaded
      · cases read
      · cases read
    · cases read
  · cases read
  · cases read

theorem Files.find_of_nameTooLong {c : Catalog} {version : String} {d : Files.Disk}
    {p q : Files.Path} (read : (Files.loadFile c version d p).result = .error (.nameTooLong q)) :
    d.tree.find p = .error .nameTooLong := by
  unfold Files.loadFile at read
  split at read
  · split at read
    · unfold Files.loadBytes at read
      dsimp only at read
      split at read <;> cases read
    · cases read
  · assumption
  · cases read

theorem Editor.Built.ready {c : Catalog} {e : Editor} (built : e.Built c) (compact : c.Compact) :
    e.Ready c := by
  obtain ⟨name, type, start, begun, requests, enabled, created, rfl⟩ := built
  exact ((ready_create created).handles compact requests).switch enabled

theorem Node.Brief.placed {n : Node} (brief : n.Brief) (f : Flow) : n.Placed f where
  id := brief.id
  inputs source member := by
    have short := brief.inputs source member
    cases source with
    | constant => trivial
    | output => exact .inr short.1

/-- A new flow has one node, whose id is short. -/
theorem Editor.placed_create {c : Catalog} {name type start : String} {e : Editor}
    (created : Editor.create c name type start = .ok e) : ∀ n ∈ e.flow.nodes, n.Placed e.flow := by
  obtain ⟨type', -, rfl⟩ := Except.exists_of_map_eq_ok created
  intro n present
  obtain rfl : n = Node.fresh type' 1 start := List.mem_singleton.mp present
  have id : Brief 1 := brief_of_natAbs_le (by decide)
  have sayable := Node.sayable_fresh type' 1 start
  refine Node.Brief.placed ⟨id, fun source member => ?_, sayable.next⟩ _
  obtain ⟨-, -, rfl⟩ := List.mem_map.mp member
  trivial

/-- Nothing that is asked of an editor breaks off, but for commands that name a wrong type, and for
lack of words: a command that is mute, a description with an id that cannot be said, and a dump with
half a pair in a text. -/
structure Editor.Sturdy (c : Catalog) (e : Editor) : Prop where
  undo : (e.undo c).error = none
  redo : (e.redo c).error = none
  edit : ∀ command error, (e.edit c command).outcome = .failed error →
    Excused e.flow command error
  copied : e.flow.copy c = .ok e.flow
  runs : ∀ limit payload bindings, Checked.outcome e.flow limit .absent payload bindings =
    .ok (Run.outcome e.flow limit .absent payload bindings)
  described : (∃ text, e.flow.describe = .ok text) ↔ ∀ n ∈ e.flow.nodes, n.Placed e.flow
  documented : ∃ document, e.flow.document = .ok document
  dumped : (∃ text, e.flow.dump = .ok text) ↔ e.flow.Encodable

theorem keyed_standard : ∀ type ∈ Catalog.standard,
    type.key ≠ "" ∧ ∀ c ∈ type.key.toList, Text.halfPair? c = none := by
  have ascii : (Catalog.standard.all fun type =>
      type.key != "" && type.key.toList.all fun c => c.toNat < 0x80) = true := by decide +kernel
  intro type member
  have both := List.all_eq_true.mp ascii type member
  rw [Bool.and_eq_true, bne_iff_ne] at both
  exact ⟨both.1, Text.halfPair?_ascii both.2⟩

namespace Editor.Ready

variable {e : Editor} (h : e.Ready .standard)
include h

theorem builtin : ∀ n ∈ e.flow.nodes, n.type ∈ Catalog.standard :=
  fun n hn => List.mem_of_find?_eq_some (h.known.flow.nodes n hn).registered

theorem dump_iff : (∃ text, e.flow.dump = .ok text) ↔ e.flow.Encodable := by
  have written := h.written keyed_standard
  simp only [Flow.dump_eq_ok_iff, written, exists_and_right]
  rw [← Flow.encodable_iff h.whole.flow.distinct]
  exact and_iff_right ⟨_, rfl⟩

theorem sturdy : e.Sturdy .standard where
  undo := h.undo
  redo := h.redo
  edit _ _ failed := h.edit failed
  copied := h.copied
  runs limit payload bindings :=
    Checked.outcome_eq h.whole.flow.wellFormed h.builtin limit .absent payload bindings
  described := h.exists_describe
  documented := ⟨_, h.document keyed_standard⟩
  dumped := h.dump_iff

/-- What the service tells of a flow under edit is its description, if there are words for it. -/
theorem infoJson_iff :
    (∃ report, e.infoJson = .ok report) ↔ ∀ n ∈ e.flow.nodes, n.Placed e.flow := by
  rw [← h.exists_describe]
  constructor
  · rintro ⟨report, told⟩
    obtain ⟨rendered, described, -⟩ := Except.exists_of_bind_eq_ok told
    exact ⟨rendered, Except.eq_ok_of_mapError described⟩
  · rintro ⟨rendered, described⟩
    unfold Editor.infoJson
    rw [described, h.document keyed_standard]
    exact ⟨_, rfl⟩

/-- A run of a flow under edit can be said. -/
theorem run_sayable {limit : Int} {payload : List Value} {bindings : Bindings}
    (brief : ∀ v ∈ payload, v.isBrief = true) (bound : bindings.Sayable) :
    ((Run.pending e.flow limit .absent).execute payload bindings).1.Sayable :=
  Run.execute_sayable h.builtin (fun n hn => (h.known.flow.nodes n hn).sayable) brief bound

end Editor.Ready

/-- A flow that was loaded can be told of. -/
theorem Files.infoJson_loaded {version : String} {d : Files.Disk} {p : Files.Path} {f : Flow}
    (read : (Files.loadFile .standard version d p).result = .ok (some f)) :
    ∃ report, (Editor.ofFlow f).infoJson = .ok report := by
  obtain ⟨settled, start⟩ := Files.loadFile_settled read
  have ready := Editor.ready_settled settled start
  exact ready.infoJson_iff.mpr fun n present => (settled.nodes n present).brief.placed f

namespace Host

variable {h k : Host} {runs made : List Run}

/-- Every flow under edit is ready. -/
def Ready (h : Host) : Prop :=
  ∀ (n : Nat) (m : Manager), h.managers[n]? = some m → m.editor.Ready h.catalog

/-- Every run that is kept can be said. -/
def Spoken (h : Host) : Prop :=
  ∀ r ∈ h.runs.toList, r.Sayable

section Ready

theorem ready_push (ready : h.Ready) (new : Manager)
    (managers : k.managers = h.managers.push new) (catalog : k.catalog = h.catalog)
    (first : new.editor.Ready h.catalog) : k.Ready := by
  intro n m there
  rw [managers, Array.getElem?_push] at there
  rw [catalog]
  split at there
  · cases there
    exact first
  · exact ready n m there

theorem ready_modify (ready : h.Ready) {n : Nat} (change : Manager → Manager)
    (managers : k.managers = h.managers.modify n change) (catalog : k.catalog = h.catalog)
    (keeps : ∀ m : Manager, m.editor.Ready h.catalog → (change m).editor.Ready h.catalog) :
    k.Ready := by
  intro i m there
  rw [managers, Array.getElem?_modify] at there
  rw [catalog]
  split at there
  · obtain ⟨old, found, rfl⟩ := Option.map_eq_some_iff.mp there
    exact keeps old (ready i old found)
  · exact ready i m there

theorem ready_store (ready : h.Ready) (n : Nat) : (h.store n).Ready := by
  unfold store
  split
  · exact ready
  · exact ready_modify ready (fun m => { m with history := shared }) rfl rfl fun _ kept => kept

theorem ready_reading (ready : h.Ready) (p : Files.Path) : (h.reading p).Ready := by
  cases gives : h.opened p with
  | none =>
    rw [reading_none gives]
    exact ready
  | some f =>
    have read := read_of_opened gives
    obtain ⟨settled, start⟩ := Files.loadFile_settled read
    rw [reading_some read]
    refine ready_store ?_ _
    exact ready_push ready ⟨.ofFlow f, shared⟩ rfl rfl (Editor.ready_settled settled start)

theorem Performs.ready (performs : Performs h made k) (compact : h.catalog.Compact)
    (ready : h.Ready) : k.Ready := by
  cases performs with
  | kept | dropped | saved => exact ready
  | @created editor k' n built added =>
    obtain ⟨-, rfl⟩ := addEditor_ok added
    refine ready_store ?_ _
    exact ready_push ready ⟨editor, _⟩ rfl rfl (built.ready compact)
  | loaded p => exact ready_reading ready p
  | asked n request =>
    exact ready_modify ready (fun m => { m with editor := m.editor.handle h.catalog request }) rfl
      rfl fun _ kept => kept.handle compact request
  | switched n value =>
    exact ready_modify ready (fun m => { m with editor := { m.editor with enabled := value } }) rfl
      rfl fun _ kept => kept.switch value
  | recorded done =>
    obtain ⟨managers, -, catalog, -⟩ := recordAll_keeps (h := h) done
    intro n m there
    rw [catalog]
    exact ready n m (managers ▸ there)

theorem Live.compact (live : Live runs h) : h.catalog.Compact :=
  live.standard ▸ Catalog.compact_standard

theorem Live.ready (live : Live runs h) : h.Ready := by
  induction live with
  | new disk made =>
    obtain ⟨history, -, rfl⟩ := Except.exists_of_map_eq_ok made
    intro n m there
    simp [withDisk] at there
  | performs live performs ih => exact performs.ready live.compact ih

end Ready

section Spoken

/-- What the flow of a stored manager makes of values that can be said is a run that can be said. -/
theorem Makes.sayable {m : Manager} {r : Run} (makes : h.Makes m r)
    (standard : h.catalog = .standard) (ready : m.editor.Ready h.catalog) : r.Sayable := by
  obtain ⟨flow, limit, payload, bindings, copied, brief, bound, rfl⟩ := makes
  rw [standard] at ready copied
  rw [ready.copied] at copied
  cases copied
  exact ready.run_sayable brief bound

theorem Performs.spoken (performs : Performs h made k) (standard : h.catalog = .standard)
    (ready : h.Ready) (spoken : h.Spoken) : k.Spoken := by
  cases performs with
  | kept | dropped | asked | switched | saved => exact spoken
  | @created editor k' n built added =>
    have runs : (k'.store n).runs = h.runs := by
      rw [(store_keeps k' n).2.2.2.1, (addEditor_ok added).2]
    rw [Spoken, runs]
    exact spoken
  | loaded p =>
    rw [Spoken, (reading_keeps h p).2.2.2.1]
    exact spoken
  | recorded done stored makes =>
    obtain ⟨-, -, -, -, -, runs⟩ := recordAll_keeps (h := h) done
    rw [Spoken, runs, List.forall_mem_append, List.forall_mem_map]
    refine ⟨spoken, fun p member => ?_⟩
    obtain ⟨name, n, -, there⟩ := stored p member
    exact (makes p member).sayable standard (ready n p.1 there)

theorem Live.spoken (live : Live runs h) : h.Spoken := by
  induction live with
  | new disk made =>
    obtain ⟨history, -, rfl⟩ := Except.exists_of_map_eq_ok made
    simp [Spoken, withDisk]
  | performs live performs ih => exact performs.spoken live.standard live.ready ih

theorem mem_runsAt {ids : List RunId} {p : RunId × Run} :
    p ∈ h.runsAt ids ↔ p.1 ∈ ids ∧ h.runs[p.1]? = some p.2 := by
  unfold Host.runsAt
  rw [List.mem_filterMap]
  constructor
  · rintro ⟨id, member, found⟩
    obtain ⟨run, there, rfl⟩ := Option.map_eq_some_iff.mp found
    exact ⟨member, there⟩
  · rintro ⟨member, there⟩
    exact ⟨p.1, member, by rw [there]; rfl⟩

theorem Spoken.at {id : RunId} {r : Run} (spoken : h.Spoken) (there : h.runs[id]? = some r) :
    r.Sayable :=
  spoken r (Array.mem_toList_iff.mpr (Array.mem_of_getElem? there))

end Spoken

/-- The size of histories is one that histories can have. -/
theorem Live.sized (live : Live runs h) :
    ∃ history, History.ofSize h.settings.historySize = .ok history := by
  induction live with
  | new disk made =>
    obtain ⟨history, sized, rfl⟩ := Except.exists_of_map_eq_ok made
    exact ⟨history, sized⟩
  | performs _ performs ih => rwa [performs.fixed.1]

theorem Performs.sound (performs : Performs h made k) (sound : h.disk.Sound) : k.disk.Sound := by
  cases performs with
  | kept | dropped | asked | switched => exact sound
  | created built added =>
    obtain ⟨-, rfl⟩ := addEditor_ok added
    rw [(store_keeps _ _).2.2.1]
    exact sound
  | loaded p =>
    obtain ⟨refused, run⟩ := Files.runs_loadFile h.catalog h.settings.formatVersion h.disk p
    rw [disk_reading]
    exact run.sound sound
  | recorded done =>
    obtain ⟨-, -, -, -, disk, -⟩ := recordAll_keeps (h := h) done
    rw [disk]
    exact sound
  | saved f p replace => exact Files.sound_save sound f p replace

theorem sound_served (sound : h.disk.Sound) (requests : List Service.Request) :
    (h.served requests).disk.Sound := by
  induction requests generalizing h with
  | nil => exact sound
  | cons r rest ih => exact ih ((Service.serve_performs h r).sound sound)

end Host

end EventFlow
