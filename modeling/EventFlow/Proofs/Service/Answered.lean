import EventFlow.Proofs.Service.Answer
import EventFlow.Proofs.Service.Ready

/-!
How requests are answered: with what was asked for, or with a refusal.

* `perform_answers`: an operation on a host as requests leave it is answered as expected, unless it
  saves a flow with half a pair or its answer needs an integer that cannot be said;
* `requests_answered`: so are all requests from the start of a host on.
-/

namespace EventFlow

namespace Service

variable {h : Host} {name : String}

/-- Answers with what was asked for, and answers that it is not there, there already, or cannot be
done. -/
def Expected (answer : Response) : Prop :=
  answer.status ∈ [200, 201, 204, 400, 404, 409]

/-- The operation saves a flow with half a pair in one of its texts. -/
def SavesHalf (h : Host) : Operation → Prop
  | .saveFlow name _ => ∃ m, h.manager? name = some m ∧ ¬m.editor.flow.Encodable
  | _ => False

/-- The answer to the operation shows an integer that cannot be said. -/
def Mute (h : Host) : Operation → Prop
  | .showFlow name => ∃ m, h.manager? name = some m ∧
      ∃ n ∈ m.editor.flow.nodes, ¬n.Placed m.editor.flow
  | .edit name command => ∃ m, h.manager? name = some m ∧ command.Mute m.editor.flow
  | _ => False

/-- The file that an operation loads can be looked for. -/
def Looks (h : Host) : Operation → Prop
  | .loadFlow file => h.disk.tree.find (flowFile h file) ≠ .error .nameTooLong
  | _ => True

section Expected

theorem expected_ok (j : Json) : Expected (.ok j) := by
  simp [Expected, Response.ok, Response.ofJson]

theorem expected_created (j : Json) : Expected (.created j) := by
  simp [Expected, Response.created, Response.ofJson]

theorem expected_notFound (text : String) : Expected (.notFound text) := by
  simp [Expected, Response.notFound, Response.detail, Response.ofJson]

theorem expected_detail {status : Nat} (refuses : status = 400 ∨ status = 409) (text : String) :
    Expected (.detail status text) := by
  obtain rfl | rfl := refuses <;> simp [Expected, Response.detail, Response.ofJson]

/-- A flow under edit is told of if the ids that its description shows can be said. -/
theorem expected_info {settings : Settings} {tell : Json → Response} {e : Editor}
    (tells : ∀ j, Expected (tell j)) (ready : e.Ready .standard)
    (placed : ∀ n ∈ e.flow.nodes, n.Placed e.flow) : Expected (.info settings tell e) := by
  obtain ⟨report, told⟩ := ready.infoJson_iff.mpr placed
  rw [Response.info, told]
  exact tells report

theorem expected_run (h : Host) (id : RunId) {r : Run} (sayable : r.Sayable) :
    Expected (.run h id r) := by
  obtain ⟨text, described⟩ := Run.exists_describe sayable (h.token id)
  rw [Response.run, Run.json, described]
  exact expected_ok _

theorem expected_runs (h : Host) {runs : List (RunId × Run)}
    (sayable : ∀ p ∈ runs, p.2.Sayable) : Expected (.runs h runs) := by
  have reported : ∀ p ∈ runs, ∃ report, p.2.json (h.token p.1) = .ok report := by
    intro p member
    obtain ⟨text, described⟩ := Run.exists_describe (sayable p member) (h.token p.1)
    rw [Run.json, described]
    exact ⟨_, rfl⟩
  obtain ⟨reports, told⟩ := List.exists_mapM_eq_ok reported
  rw [Response.runs, told]
  exact expected_ok _

/-- What the history has can be told. -/
theorem expected_listRuns (spoken : h.Spoken) (flow : Option String) :
    Expected (listRuns h flow) :=
  expected_runs h fun _ member => spoken.at (Host.mem_runsAt.mp member).2

theorem expected_showRun (spoken : h.Spoken) (token : String) : Expected (showRun h token) := by
  unfold showRun
  split
  · rename_i id r found
    obtain ⟨id', -, there⟩ := Option.bind_eq_some_iff.mp found
    obtain ⟨r', there, same⟩ := Option.map_eq_some_iff.mp there
    cases same
    exact expected_run h id (spoken.at there)
  · exact expected_notFound _

theorem expected_onFlow {act : Nat → Manager → Host × Response}
    (acts : ∀ n m, h.manager? name = some m → h.managers[n]? = some m → Expected (act n m).2) :
    Expected (onFlow h name act).2 :=
  onFlow_answer (fun _ => expected_notFound _) acts

theorem expected_createFlow (standard : h.catalog = .standard) (sized : ∃ history,
    History.ofSize h.settings.historySize = .ok history) (name type start : String) :
    Expected (createFlow h name type start).2 := by
  obtain ⟨history, sized⟩ := sized
  unfold createFlow
  split
  · exact expected_detail (.inr rfl) _
  · split
    · exact expected_notFound _
    · exact expected_detail (.inl rfl) _
    · rename_i editor created
      simp only [Host.addEditor, sized, Except.map]
      exact expected_info expected_created (standard ▸ Editor.ready_create created)
        (Editor.placed_create created)

theorem expected_loadFlow (standard : h.catalog = .standard) (file : String)
    (looks : Looks h (.loadFlow file)) : Expected (loadFlow h file).2 := by
  unfold loadFlow
  dsimp only
  split
  · exact expected_notFound _
  · rename_i error other read
    cases error with
    | unknownType error => exact absurd rfl (other error)
    | nameTooLong p => exact absurd (Files.find_of_nameTooLong read) looks
  · exact expected_detail (.inl rfl) _
  · rename_i f read
    obtain ⟨report, told⟩ := Files.infoJson_loaded (standard ▸ read)
    rw [Response.info, told]
    exact expected_created report

theorem expected_showFlow (standard : h.catalog = .standard) (ready : h.Ready)
    (said : ¬Mute h (.showFlow name)) : Expected (perform h (.showFlow name)).2 := by
  refine expected_onFlow fun n m found there => ?_
  refine expected_info expected_ok (standard ▸ ready n m there) fun node present => ?_
  by_contra unplaced
  exact said ⟨m, found, node, present, unplaced⟩

theorem expected_failed {settings : Settings} {f : Flow} {command : Command} {error : EditError}
    (said : ¬command.Mute f) (excused : Editor.Excused f command error) :
    Expected (commandFailed settings command error) := by
  cases error with
  | wording error => cases command <;> exact absurd excused said
  | unknownType error =>
    cases command with
    | createNode | replaceStart => exact expected_notFound _
    | _ => exact False.elim excused
  | notEvent key =>
    cases command with
    | replaceStart => exact expected_detail (.inl rfl) _
    | _ => exact False.elim excused
  | noSlotToRead | noSlotToSet => cases command <;> exact False.elim excused

theorem expected_edit (ready : h.Ready) {command : Command} (said : ¬Mute h (.edit name command)) :
    Expected (edit h name command).2 := by
  refine expected_onFlow fun n m found there => ?_
  dsimp only
  split
  · exact expected_ok _
  · exact expected_ok _
  · exact expected_ok _
  · rename_i error failed
    exact expected_failed (fun mute => said ⟨m, found, mute⟩) ((ready n m there).edit failed)

theorem expected_move {move : Editor → Editor.Moved}
    (fine : ∀ (n : Nat) (m : Manager), h.managers[n]? = some m → (move m.editor).error = none) :
    Expected (Service.move h name move).2 := by
  refine expected_onFlow fun n m _ there => ?_
  dsimp only
  rw [fine n m there]
  exact expected_ok _

theorem expected_runFlow (standard : h.catalog = .standard) (ready : h.Ready)
    {payload : List Value} {bindings : Bindings} (limit : Option Int)
    (plain : (Operation.runFlow name payload bindings limit).Plain) :
    Expected (runFlow h name payload bindings limit).2 := by
  refine expected_onFlow fun n m _ there => ?_
  cases ran : h.run m payload bindings limit .absent with
  | error error =>
    have copied := (ready n m there).copied
    rw [Host.run_error ran] at copied
    cases copied
  | ok ran' =>
    obtain ⟨-, -, flow, copied, run⟩ := Host.run_ok ran
    have makes : h.Makes m ran'.run :=
      ⟨flow, _, payload, bindings, copied, plain.1, plain.2, run⟩
    exact expected_run h _ (makes.sayable standard (ready n m there))

theorem expected_raise (standard : h.catalog = .standard) (ready : h.Ready) (event : String)
    {payload : List Value} {bindings : Bindings}
    (plain : (Operation.raise event payload bindings).Plain) :
    Expected (raiseEvent h event payload bindings).2 := by
  obtain ⟨done, -, executed, ends⟩ := h.runAll_done payload bindings (h.targets event)
  have result := (h.dispatch_host event payload bindings).2
  have stored {m : Manager} (target : m ∈ h.targets event) : m.editor.Ready h.catalog := by
    obtain ⟨⟨name, n, -, there⟩, -⟩ := Host.mem_targets.mp target
    exact ready n m there
  unfold raiseEvent
  dsimp only
  obtain ⟨all, ran⟩ | ⟨m, error, rest, parts, fails, -⟩ := ends
  · rw [result, ran]
    refine expected_runs h fun p member => ?_
    obtain ⟨⟨m, r⟩, inner, same⟩ := List.mem_map.mp (List.of_mem_zip member).2
    obtain ⟨flow, copied, run⟩ := executed _ inner
    have target : m ∈ h.targets event := all ▸ List.mem_map_of_mem inner
    have makes : h.Makes m r := ⟨flow, _, payload, bindings, copied, plain.1, plain.2, run⟩
    exact same ▸ makes.sayable standard (stored target)
  · have copied := (stored (m := m) (by simp [parts])).copied
    rw [fails] at copied
    cases copied

end Expected

section Save

/-- The directory and the file of a flow have no null characters. -/
theorem clean_file {directory : String} (clean : '\x00' ∉ directory.toList) (flow : String) :
    ((Files.Path.ofText directory).child (Files.fileName flow)).Clean ∧
      ((Files.Path.ofText directory).child (Files.fileName flow)).name ≠ "" := by
  have chars : (Files.fileName flow).toList = Files.plainChars flow.toList ++ ".json".toList := by
    simp [Files.fileName]
  have named : Files.fileName flow ≠ "" := by
    intro empty
    rw [empty] at chars
    simp at chars
  have parts : ((Files.Path.ofText directory).child (Files.fileName flow)).parts =
      (Files.Path.ofText directory).parts ++ [Files.fileName flow] := by
    rw [Files.Path.child, if_neg named]
  constructor
  · intro part member
    rw [parts, List.mem_append, List.mem_singleton] at member
    obtain above | rfl := member
    · obtain ⟨piece, inner, rfl⟩ := List.mem_map.mp (List.mem_filter.mp above).1
      rw [String.toList_ofList]
      exact fun null => clean (Text.mem_of_mem_piece inner null)
    · rw [chars, List.mem_append]
      rintro (plain | suffix)
      · obtain ⟨c, -, same⟩ := List.mem_map.mp plain
        split at same
        · rename_i isPlain
          subst same
          cases isPlain
        · cases same
      · simp at suffix
  · rw [Files.Path.name, parts]
    simpa using named

/-- A flow with half a pair is not saved. -/
theorem saveFlow_half (standard : h.catalog = .standard) (ready : h.Ready) {replace : Bool}
    (half : SavesHalf h (.saveFlow name replace)) : (saveFlow h name replace).2.status = 500 := by
  obtain ⟨m, found, fault⟩ := half
  refine onFlow_found (P := fun answer => answer.status = 500) found fun n there => ?_
  have own : m.editor.Ready .standard := standard ▸ ready n m there
  cases dumped : m.editor.flow.dump with
  | ok text => exact absurd (own.dump_iff.mp ⟨text, dumped⟩) fault
  | error error =>
    simp only [Files.save, dumped]
    rfl

theorem expected_saveFlow (standard : h.catalog = .standard) (ready : h.Ready)
    (sound : h.disk.Sound) (clean : '\x00' ∉ h.settings.flowDirectory.toList) {replace : Bool}
    (whole : ¬SavesHalf h (.saveFlow name replace)) : Expected (saveFlow h name replace).2 := by
  refine expected_onFlow fun n m found there => ?_
  have own : m.editor.Ready .standard := standard ▸ ready n m there
  have encodable : m.editor.flow.Encodable := by
    by_contra fault
    exact whole ⟨m, found, fault⟩
  obtain ⟨text, dumped⟩ := own.dump_iff.mpr encodable
  obtain ⟨tidy, named⟩ := clean_file clean m.editor.flow.name
  obtain ⟨done, saved⟩ := Files.save_tried dumped tidy named sound replace
  dsimp only
  rw [saved]
  exact expected_ok _

end Save

section Mute

/-- What cannot be said is not shown. -/
theorem showFlow_mute (standard : h.catalog = .standard) (ready : h.Ready)
    (mute : Mute h (.showFlow name)) : (perform h (.showFlow name)).2.status = 500 := by
  obtain ⟨m, found, node, present, unplaced⟩ := mute
  refine onFlow_found (P := fun answer => answer.status = 500) found fun n there => ?_
  have own : m.editor.Ready .standard := standard ▸ ready n m there
  dsimp only
  rw [Response.info]
  cases told : m.editor.infoJson with
  | ok report => exact absurd (own.infoJson_iff.mp ⟨report, told⟩ node present) unplaced
  | error error => rfl

theorem edit_mute (ready : h.Ready) {command : Command} (mute : Mute h (.edit name command)) :
    (edit h name command).2.status = 500 := by
  obtain ⟨m, found, mute⟩ := mute
  refine onFlow_found (P := fun answer => answer.status = 500) found fun n there => ?_
  have formed := (ready n m there).whole.flow.wellFormed
  obtain ⟨error, failed⟩ := (Editor.edit_mute_iff formed h.catalog command).mpr mute
  dsimp only
  rw [failed]
  cases command with
  | replaceStart => exact False.elim mute
  | _ => rfl

end Mute

/-- **Operations on a host are answered as expected**, unless they save a flow with half a pair or
would show an integer that cannot be said. -/
theorem perform_answers (standard : h.catalog = .standard) (ready : h.Ready) (spoken : h.Spoken)
    (sized : ∃ history, History.ofSize h.settings.historySize = .ok history)
    (sound : h.disk.Sound) (clean : '\x00' ∉ h.settings.flowDirectory.toList)
    {operation : Operation} (plain : operation.Plain) (looks : Looks h operation)
    (whole : ¬SavesHalf h operation) (said : ¬Mute h operation) :
    Expected (perform h operation).2 := by
  cases operation with
  | createFlow name type start => exact expected_createFlow standard sized name type start
  | loadFlow file => exact expected_loadFlow standard file looks
  | deleteFlow name =>
    rw [perform, deleteFlow]
    split
    · simp [Expected, Response.noContent]
    · exact expected_notFound _
  | edit flow command => exact expected_edit ready said
  | undo flow => exact expected_move fun n m there => (ready n m there).undo
  | redo flow => exact expected_move fun n m there => (ready n m there).redo
  | enable flow value => exact expected_onFlow fun _ _ _ _ => expected_ok _
  | runFlow flow payload bindings limit => exact expected_runFlow standard ready limit plain
  | saveFlow flow replace => exact expected_saveFlow standard ready sound clean whole
  | raise event payload bindings => exact expected_raise standard ready event plain
  | showFlow name => exact expected_showFlow standard ready said
  | showType key =>
    rw [perform, showType]
    split
    · exact expected_ok _
    · exact expected_notFound _
  | showRun token => exact expected_showRun spoken token
  | listRuns flow => exact expected_listRuns spoken flow
  | overview | health | listFlows | listTypes => exact expected_ok _

/-- **Whatever the flow directory held at the start and whatever requests were served**, nothing
that is asked of a stored flow breaks off, and a request that leads to an operation is answered as
expected, unless it saves a flow with half a pair or would show an integer that cannot be said:
these are failures of the service. -/
theorem requests_answered (started : h.Started) (sound : h.disk.Sound)
    (clean : '\x00' ∉ h.settings.flowDirectory.toList) (requests : List Request) :
    let k := h.served requests
    (∀ name m, k.manager? name = some m → m.editor.Sturdy k.catalog) ∧
    ∀ r operation, r.operation? = some operation → Looks k operation →
      (¬SavesHalf k operation → ¬Mute k operation → Expected (answer k r).2) ∧
      (SavesHalf k operation ∨ Mute k operation → (answer k r).2.status = 500) := by
  intro k
  have live := started.live.served requests
  have standard : k.catalog = .standard := live.standard
  have ready : k.Ready := live.ready
  have settings : k.settings = h.settings := Host.served_settings requests
  refine ⟨fun name m found => ?_, fun r operation asks looks => ?_⟩
  · obtain ⟨n, -, there⟩ := Option.bind_eq_some_iff.mp found
    have own := ready n m there
    rw [standard] at own ⊢
    exact own.sturdy
  · rw [answer_asked asks]
    constructor
    · exact perform_answers standard ready live.spoken live.sized
        (Host.sound_served sound requests) (settings ▸ clean) (plain_of_asks asks) looks
    · rintro (half | mute)
      · cases operation with
        | saveFlow name replace => exact saveFlow_half standard ready half
        | _ => exact False.elim half
      · cases operation with
        | showFlow name => exact showFlow_mute standard ready mute
        | edit name command => exact edit_mute ready mute
        | _ => exact False.elim mute

section Half

open Host (creates)

/-- Requests that give the flow `f` a node with a constant of half a pair. -/
def halfSet : List Request := [
  creates "f",
  ⟨.post, .ofText "/flows/f/nodes",
    .json (.object [("type", .text "SetVariableNode"), ("name", .text "n")])⟩,
  ⟨.put, .ofText "/flows/f/nodes/n/inputs/0/const",
    .json (.object [("value", .text (String.singleton (Text.standIn 0xd800)))])⟩]

def savesF : Request := ⟨.post, .ofText "/flows/f/save", .json (.object [])⟩

theorem operation?_savesF : savesF.operation? = some (.saveFlow "f" true) := by
  decide +kernel

theorem requests_answered_undo :
    ∃ h : Host, h.Started ∧ h.disk.Sound ∧ '\x00' ∉ h.settings.flowDirectory.toList ∧
      Expected (answer (h.served halfSet) ⟨.post, .ofText "/flows/f/undo", .empty⟩).2 := by
  have facts : ((Host.startUp Host.quiet).toOption.map fun h =>
      (h.disk.faults.length, h.settings.flowDirectory)) = some (0, "flows") := by decide +kernel
  obtain ⟨h, up, facts⟩ := Option.map_eq_some_iff.mp facts
  obtain ⟨faultless, directory⟩ := Prod.mk.inj facts
  obtain ⟨started, -⟩ := Host.started_quiet up
  have sound : h.disk.Sound := by
    intro fault member
    rw [List.eq_nil_of_length_eq_zero faultless] at member
    cases member
  have clean : '\x00' ∉ h.settings.flowDirectory.toList := by
    rw [directory]
    decide
  have asks : Request.operation? ⟨.post, .ofText "/flows/f/undo", .empty⟩ = some (.undo "f") := by
    decide +kernel
  obtain ⟨-, answered⟩ := requests_answered started sound clean halfSet
  exact ⟨h, started, sound, clean, (answered _ _ asks trivial).1 id id⟩

/-- Saving a flow with half a pair in a constant fails. -/
theorem save_unanswered_halfPair :
    ∃ h : Host, h.Started ∧ h.disk.faults = [] ∧
      savesF.operation? = some (.saveFlow "f" true) ∧
      (answer (h.served halfSet) savesF).2.status = 500 := by
  have facts : ((Host.startUp Host.quiet).toOption.map fun h =>
      (h.disk.faults.length, ((h.served halfSet).manager? "f").map fun m =>
        m.editor.flow.nodes.any fun n => n.inputs.any fun source =>
          source == .constant (.text (String.singleton (Text.standIn 0xd800))))) =
      some (0, some true) := by decide +kernel
  obtain ⟨h, up, facts⟩ := Option.map_eq_some_iff.mp facts
  obtain ⟨faultless, facts⟩ := Prod.mk.inj facts
  obtain ⟨m, found, there⟩ := Option.map_eq_some_iff.mp facts
  obtain ⟨n, hn, inputs⟩ := List.any_eq_true.mp there
  obtain ⟨source, input, same⟩ := List.any_eq_true.mp inputs
  obtain ⟨started, -⟩ := Host.started_quiet up
  have live := started.live.served halfSet
  have half : SavesHalf (h.served halfSet) (.saveFlow "f" true) := by
    refine ⟨m, found, fun fine => ?_⟩
    have whole : Reference.Encodable (.constant (.text _)) :=
      (fine.nodes n hn).inputs _ (eq_of_beq same ▸ input)
    exact absurd (whole (Text.standIn 0xd800) (by simp [Value.wire])) (by decide)
  refine ⟨h, started, List.eq_nil_of_length_eq_zero faultless, operation?_savesF, ?_⟩
  rw [answer_asked operation?_savesF]
  exact saveFlow_half live.standard live.ready half

end Half

end Service

end EventFlow
