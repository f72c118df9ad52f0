import EventFlow.Host.Lifetime
import EventFlow.Proofs.Host.Dispatch
import EventFlow.Proofs.Run.Report
import EventFlow.Proofs.Service.Request
import EventFlow.Service.Basic
import Mathlib.Logic.Relation

/-!
What requests make of a host, from its start on.

* `Performs`: all that an operation can do to a host, with the runs that it performs;
* `perform_performs`, `serve_performs`: operations and requests do nothing else;
* `startUp_prepares`: nor does the start of a host, which performs no run.
-/

namespace EventFlow

/-- The editors of flows that were created: edited since, and switched on or off. -/
def Editor.Built (c : Catalog) (e : Editor) : Prop :=
  ∃ (name type start : String) (begun : Editor) (requests : List Editor.Request) (enabled : Bool),
    Editor.create c name type start = .ok begun ∧
    e = { requests.foldl (Editor.handle c) begun with enabled := enabled }

/-- Commands that are carried out are requests like all others. -/
theorem carryOut_handle {c : Catalog} {e done : Editor} {commands : List Command} {log : Log}
    (h : Countdown.carryOut c e commands = .ok (done, log)) :
    done = (commands.map Editor.Request.edit).foldl (Editor.handle c) e := by
  induction commands generalizing e log with
  | nil =>
    cases h
    rfl
  | cons command rest ih =>
    rw [Countdown.carryOut] at h
    dsimp only at h
    split at h
    · cases h
    · obtain ⟨⟨done', log'⟩, carried, same⟩ := Except.exists_of_map_eq_ok h
      cases same
      exact ih carried

namespace Host

section Performs

/-- The manager of a stored flow. -/
def manager? (h : Host) (name : String) : Option Manager :=
  (h.fetch? name).bind fun n => h.managers[n]?

def Stored (h : Host) (m : Manager) : Prop :=
  ∃ name n, (name, n) ∈ h.stored ∧ h.managers[n]? = some m

/-- The run that a flow makes now, unless the catalog lacks one of its types. -/
def runOf? (h : Host) (payload : List Value) (bindings : Bindings) (limit : Option Int)
    (m : Manager) : Option Run :=
  (m.editor.flow.copy h.catalog).toOption.map fun flow =>
    ((Run.pending flow (limit.getD h.settings.maxSteps) .absent).execute payload bindings).1

/-- The flow of a manager makes a run, on values that can be said. -/
def Makes (h : Host) (m : Manager) (r : Run) : Prop :=
  ∃ flow limit payload bindings, m.editor.flow.copy h.catalog = .ok flow ∧
    (∀ v ∈ payload, v.isBrief = true) ∧ Bindings.Sayable bindings ∧
    r = ((Run.pending flow limit .absent).execute payload bindings).1

/-- The runs that flows make one after the other, up to one that makes none. -/
def runsOfAll (h : Host) (payload : List Value) (bindings : Bindings) : List Manager → List Run
  | [] => []
  | m :: rest =>
    match h.runOf? payload bindings none m with
    | none => []
    | some r => r :: runsOfAll h payload bindings rest

open Service (Operation)

/-- The runs that an operation performs, in order. -/
def performed (h : Host) : Operation → List Run
  | .runFlow flow payload bindings limit =>
    ((h.manager? flow).bind (h.runOf? payload bindings limit)).toList
  | .raise event payload bindings => h.runsOfAll payload bindings (h.targets event)
  | _ => []

/-- What can become of a host by an operation, with the runs that are performed. -/
inductive Performs (h : Host) : List Run → Host → Prop
  | kept : Performs h [] h
  | created {editor : Editor} {k : Host} {n : Nat} (built : editor.Built h.catalog)
    (added : h.addEditor editor = .ok (k, n)) : Performs h [] (k.store n)
  | loaded (p : Files.Path) : Performs h [] (h.reading p)
  | dropped (name : String) : Performs h [] (h.drop name)
  | asked (n : Nat) (request : Editor.Request) : Performs h [] (h.obey (.request n request))
  | switched (n : Nat) (value : Bool) : Performs h [] (h.obey (.enable n value))
  | recorded (done : List (Manager × Run)) (stored : ∀ p ∈ done, h.Stored p.1)
    (makes : ∀ p ∈ done, h.Makes p.1 p.2) : Performs h (done.map Prod.snd) (h.recordAll done)
  | saved (f : Flow) (p : Files.Path) (replace : Bool) :
    Performs h [] { h with disk := (Files.save h.disk f p replace).disk }

variable {h : Host} {payload : List Value} {bindings : Bindings}

theorem setEditor_eq {n : Nat} {m : Manager} (there : h.managers[n]? = some m)
    (change : Editor → Editor) :
    h.setEditor n (change m.editor) =
      h.changeManager n fun m => { m with editor := change m.editor } := by
  unfold setEditor changeManager
  congr 1
  refine Array.ext_getElem? fun i => ?_
  rw [Array.getElem?_modify, Array.getElem?_modify]
  split
  · rename_i same
    rw [← same, there]
    rfl
  · rfl

/-- The runs of an event are those that its flows make one after the other. -/
theorem runsOfAll_done {done : List (Manager × Run)} {ms : List Manager}
    (executed : ∀ p ∈ done, h.Executes payload bindings p.1 p.2)
    (ends : done.map Prod.fst = ms ∨ ∃ m error rest, ms = done.map Prod.fst ++ m :: rest ∧
      m.editor.flow.copy h.catalog = .error error) :
    h.runsOfAll payload bindings ms = done.map Prod.snd := by
  induction done generalizing ms with
  | nil =>
    obtain rfl | ⟨m, error, rest, rfl, fails⟩ := ends
    · rfl
    · simp [runsOfAll, runOf?, fails, Except.toOption]
  | cons p done ih =>
    obtain ⟨⟨flow, copied, run⟩, others⟩ := List.forall_mem_cons.mp executed
    have first : h.runOf? payload bindings none p.1 = some p.2 := by
      simp [runOf?, copied, run, Except.toOption]
    obtain rfl | ⟨m, error, rest, rfl, fails⟩ := ends
    · rw [List.map_cons, runsOfAll, first]
      exact congrArg (p.2 :: ·) (ih others (.inl rfl))
    · rw [List.map_cons, List.cons_append, runsOfAll, first]
      exact congrArg (p.2 :: ·) (ih others (.inr ⟨m, error, rest, rfl, fails⟩))

end Performs

section Start

/-- What becomes of a host by operations that perform no run. -/
def Prepares : Host → Host → Prop :=
  Relation.ReflTransGen fun h k => Performs h [] k

variable {h k : Host}

theorem loadFiles_prepares (h : Host) (paths : List Files.Path) :
    Prepares h (h.loadFiles paths).host := by
  induction paths generalizing h with
  | nil => exact .refl
  | cons p rest ih =>
    have read := Performs.loaded (h := h) p
    unfold loadFiles
    dsimp only
    split <;> rename_i gives
    · rw [reading_some gives] at read
      exact .head read (ih _)
    all_goals
      rw [reading_none (by simp only [opened, gives])] at read
    · exact .head read (ih _)
    · exact .head read (ih _)
    · exact .single read

theorem loadDirectory_prepares (h : Host) (name : String) :
    Prepares h (h.loadDirectory name).host := by
  have files := loadFiles_prepares h (Files.flowFiles h.disk.tree (h.directory name))
  unfold loadDirectory
  dsimp only
  split
  · split <;> exact files
  · exact .refl
  · exact .refl

theorem addEditor_ok {e : Editor} {n : Nat} (added : h.addEditor e = .ok (k, n)) :
    n = h.managers.size ∧ k = { h with
      managers := h.managers.push ⟨e, h.histories.size⟩
      histories := h.histories.push ⟨h.settings.historySize.toNat, []⟩ } := by
  obtain ⟨history, sized, same⟩ := Except.exists_of_map_eq_ok added
  cases same
  rw [ofSize_ok sized]
  exact ⟨rfl, rfl⟩

/-- It makes no difference whether an editor is changed before or after it is added. -/
theorem addEditor_setEditor {begun e : Editor} {n : Nat} (added : h.addEditor begun = .ok (k, n)) :
    h.addEditor e = .ok (k.setEditor n e, n) := by
  obtain ⟨history, sized, same⟩ := Except.exists_of_map_eq_ok added
  cases same
  have pushed : (h.managers.push ⟨begun, h.histories.size⟩).modify h.managers.size
      (fun m => { m with editor := e }) = h.managers.push ⟨e, h.histories.size⟩ := by
    refine Array.ext_getElem? fun i => ?_
    rw [Array.getElem?_modify, Array.getElem?_push, Array.getElem?_push]
    by_cases last : i = h.managers.size
    · simp [last]
    · simp [last, Ne.symm last]
  simp only [addEditor, sized, Except.map, addHistory, addManager, setEditor, pushed]

theorem addCountdown_created {name message : String} {n : Nat} {log : Log}
    (added : h.addCountdown name message = .ok (k, n, log)) : Performs h [] (k.store n) := by
  obtain ⟨begun, begins, added⟩ := Except.exists_of_bind_eq_ok added
  obtain ⟨⟨h', n'⟩, adds, added⟩ := Except.exists_of_bind_eq_ok added
  obtain ⟨⟨e, log'⟩, finishes, same⟩ := Except.exists_of_bind_eq_ok added
  cases same
  have adds := Except.eq_ok_of_mapError adds
  obtain ⟨⟨e', log''⟩, carried, same⟩ :=
    Except.exists_of_map_eq_ok (Except.eq_ok_of_mapError finishes)
  cases same
  have catalog : h'.catalog = h.catalog := by rw [(addEditor_ok adds).2]
  have done := carryOut_handle carried
  rw [catalog] at done
  have built : Editor.Built h.catalog { e' with enabled := true } :=
    ⟨name, "TriggerNode", "start", begun, _, true, Except.eq_ok_of_mapError begins, by rw [done]⟩
  exact .created built (addEditor_setEditor adds)

theorem registerDemo_prepares {log : Log} (registered : h.registerDemo = .ok (k, log)) :
    Prepares h k := by
  unfold registerDemo at registered
  split at registered
  · cases registered
    exact .refl
  · obtain ⟨⟨k', n, log'⟩, added, same⟩ := Except.exists_of_bind_eq_ok registered
    cases same
    exact .single (addCountdown_created added)

theorem startUp_prepares (started : h.startUp = .ok k) : Prepares h k := by
  have registers {h : Host} {onward : Host × Log → Except LifetimeError Host}
      (hands : ∀ k log, onward (k, log) = .ok k)
      (registered : (h.registerDemo.mapError LifetimeError.demo >>= onward) = .ok k) :
      Prepares h k := by
    obtain ⟨⟨k', log⟩, demo, same⟩ := Except.exists_of_bind_eq_ok registered
    rw [hands] at same
    cases same
    exact registerDemo_prepares (Except.eq_ok_of_mapError demo)
  unfold startUp at started
  dsimp only at started
  split at started
  · obtain ⟨h', loaded, started⟩ := Except.exists_of_bind_eq_ok started
    obtain ⟨count, -, same⟩ := Except.exists_of_map_eq_ok (Except.eq_ok_of_mapError loaded)
    subst same
    exact (loadDirectory_prepares h "").trans (registers (fun _ _ => rfl) started)
  · exact registers (fun _ _ => rfl) started

end Start

end Host

namespace Service

open Host (Performs)

variable {h : Host}

/-- An operation on a stored flow acts on its manager, and does nothing if there is none. -/
theorem onFlow_cases (h : Host) (name : String) (act : Nat → Manager → Host × Response) :
    (∃ n m, h.fetch? name = some n ∧ h.managers[n]? = some m ∧ h.manager? name = some m ∧
        onFlow h name act = act n m) ∨
      h.manager? name = none ∧ onFlow h name act = (h, flowNotFound name) := by
  unfold onFlow Host.manager?
  cases fetched : h.fetch? name with
  | none => exact .inr ⟨rfl, rfl⟩
  | some n =>
    cases there : h.managers[n]? with
    | none => exact .inr ⟨by simp [there], by simp [there]⟩
    | some m => exact .inl ⟨n, m, rfl, there, by simp [there], by simp [there]⟩

/-- What holds of the answers of an act holds of the answer of the operation. -/
theorem onFlow_answer {P : Response → Prop} {name : String} {act : Nat → Manager → Host × Response}
    (missing : h.manager? name = none → P (flowNotFound name))
    (acts : ∀ n m, h.manager? name = some m → h.managers[n]? = some m → P (act n m).2) :
    P (onFlow h name act).2 := by
  obtain ⟨n, m, -, there, found, same⟩ | ⟨none', same⟩ := onFlow_cases h name act
  · rw [same]
    exact acts n m found there
  · rw [same]
    exact missing none'

/-- What holds of the answer of an act on a stored flow holds of the answer of the operation. -/
theorem onFlow_found {P : Response → Prop} {name : String} {m : Manager}
    {act : Nat → Manager → Host × Response} (found : h.manager? name = some m)
    (acts : ∀ n, h.managers[n]? = some m → P (act n m).2) : P (onFlow h name act).2 := by
  refine onFlow_answer (fun missing => ?_) fun n m' found' there => ?_
  · rw [found] at missing
    cases missing
  · obtain rfl : m = m' := Option.some.inj (found.symm.trans found')
    exact acts n there

theorem mem_of_fetch? {name : String} {n : Nat} (fetched : h.fetch? name = some n) :
    (name, n) ∈ h.stored := by
  obtain ⟨before, after, split, -⟩ := List.lookup_eq_some_iff.mp fetched
  rw [split]
  simp

/-- What an operation on a stored flow performs, if its act on the manager performs the given
runs. -/
theorem onFlow_performs {name : String} {act : Nat → Manager → Host × Response}
    {made : Manager → List Run}
    (acts : ∀ n m, h.Stored m → h.managers[n]? = some m → Performs h (made m) (act n m).1) :
    Performs h ((h.manager? name).toList.flatMap made) (onFlow h name act).1 := by
  obtain ⟨n, m, fetched, there, found, same⟩ | ⟨none', same⟩ := onFlow_cases h name act
  · rw [same, found, Option.toList_some, List.flatMap_singleton]
    exact acts n m ⟨name, n, mem_of_fetch? fetched, there⟩ there
  · rw [same, none']
    exact .kept

theorem onFlow_kept {name : String} {act : Nat → Manager → Host × Response}
    (acts : ∀ n m, h.managers[n]? = some m → Performs h [] (act n m).1) :
    Performs h [] (onFlow h name act).1 := by
  have nothing : (h.manager? name).toList.flatMap (fun _ => ([] : List Run)) = [] := by
    cases h.manager? name <;> rfl
  rw [← nothing]
  exact onFlow_performs fun n m _ there => acts n m there

theorem handle_performs {n : Nat} {m : Manager} (there : h.managers[n]? = some m)
    (request : Editor.Request) :
    Performs h [] (h.setEditor n (m.editor.handle h.catalog request)) := by
  rw [Host.setEditor_eq there fun e => e.handle h.catalog request]
  exact .asked n request

theorem createFlow_performs (h : Host) (name type start : String) :
    Performs h [] (createFlow h name type start).1 := by
  unfold createFlow
  split
  · exact .kept
  · split
    · exact .kept
    · exact .kept
    · rename_i editor made
      have built : editor.Built h.catalog := by
        obtain ⟨type', -, rfl⟩ := Except.exists_of_map_eq_ok made
        exact ⟨name, type, start, _, [], false, made, rfl⟩
      split
      · exact .kept
      · exact .kept
      · rename_i added
        exact .created built added

theorem loadFlow_host (h : Host) (file : String) :
    (loadFlow h file).1 = h.reading (flowFile h file) := by
  unfold loadFlow
  dsimp only
  split <;> rename_i gives
  · exact (Host.reading_none (by simp only [Host.opened, gives])).symm
  · exact (Host.reading_none (by simp only [Host.opened, gives])).symm
  · exact (Host.reading_none (by simp only [Host.opened, gives])).symm
  · exact (Host.reading_some gives).symm

/-- The answer to a request to load a flow, by what the file gave. -/
def loadAnswer (settings : Settings) (file : String) :
    Except Files.OpenError (Option Flow) → Response
  | .error (.unknownType error) => .notFound error.message
  | .error error => .internal settings error.message
  | .ok none => .detail 400 ("Could not load flow from '" ++ file ++ "'")
  | .ok (some f) => .info settings .created (.ofFlow f)

theorem loadFlow_answer (h : Host) (file : String) :
    (loadFlow h file).2 = loadAnswer h.settings (flowFile h file).name
      (Files.loadFile h.catalog h.settings.formatVersion h.disk (flowFile h file)).result := by
  unfold loadFlow
  dsimp only
  generalize Files.loadFile h.catalog h.settings.formatVersion h.disk (flowFile h file) = loaded
  obtain ⟨disk, result, log⟩ := loaded
  obtain (error | f) | (none | f) := result <;> rfl

theorem loadFlow_performs (h : Host) (file : String) : Performs h [] (loadFlow h file).1 := by
  rw [loadFlow_host]
  exact .loaded _

theorem deleteFlow_performs (h : Host) (name : String) : Performs h [] (deleteFlow h name).1 := by
  unfold deleteFlow
  split
  · exact .dropped name
  · exact .kept

theorem edit_performs (h : Host) (flow : String) (command : Command) :
    Performs h [] (edit h flow command).1 :=
  onFlow_kept fun _ _ there => handle_performs there (.edit command)

theorem undo_performs (h : Host) (flow : String) :
    Performs h [] (move h flow (Editor.undo h.catalog)).1 :=
  onFlow_kept fun _ _ there => handle_performs there .undo

theorem redo_performs (h : Host) (flow : String) :
    Performs h [] (move h flow (Editor.redo h.catalog)).1 :=
  onFlow_kept fun _ _ there => handle_performs there .redo

theorem enable_performs (h : Host) (flow : String) (value : Bool) :
    Performs h [] (enable h flow value).1 := by
  refine onFlow_kept fun n m there => ?_
  dsimp only
  rw [Host.setEditor_eq there fun e => { e with enabled := value }]
  exact .switched n value

theorem saveFlow_performs (h : Host) (flow : String) (replace : Bool) :
    Performs h [] (saveFlow h flow replace).1 :=
  onFlow_kept fun _ _ _ => .saved _ _ _

theorem runFlow_performs (h : Host) (flow : String) {payload : List Value} {bindings : Bindings}
    (limit : Option Int) (plain : (Operation.runFlow flow payload bindings limit).Plain) :
    Performs h (h.performed (.runFlow flow payload bindings limit))
      (runFlow h flow payload bindings limit).1 := by
  have same : h.performed (.runFlow flow payload bindings limit) =
      (h.manager? flow).toList.flatMap fun m => (h.runOf? payload bindings limit m).toList := by
    cases found : h.manager? flow <;> simp [Host.performed, found]
  rw [same]
  refine onFlow_performs fun n m stored _ => ?_
  cases ran : h.run m payload bindings limit .absent with
  | error error =>
    have none' : h.runOf? payload bindings limit m = none := by
      simp [Host.runOf?, Host.run_error ran, Except.toOption]
    rw [none']
    exact .kept
  | ok ran' =>
    obtain ⟨host, -, flow', copied, run⟩ := Host.run_ok ran
    have some' : h.runOf? payload bindings limit m = some ran'.run := by
      simp [Host.runOf?, copied, run, Except.toOption]
    have after : ran'.host = h.recordAll [(m, ran'.run)] := host
    have only : ∀ p ∈ [(m, ran'.run)], h.Stored p.1 := by simpa using stored
    have makes : ∀ p ∈ [(m, ran'.run)], h.Makes p.1 p.2 :=
      List.forall_mem_singleton.mpr ⟨flow', _, payload, bindings, copied, plain.1, plain.2, run⟩
    rw [some']
    dsimp only
    rw [after]
    exact .recorded _ only makes

theorem raiseEvent_performs (h : Host) (event : String) {payload : List Value}
    {bindings : Bindings} (plain : (Operation.raise event payload bindings).Plain) :
    Performs h (h.performed (.raise event payload bindings))
      (raiseEvent h event payload bindings).1 := by
  obtain ⟨done, host, executed, ends⟩ := h.runAll_done payload bindings (h.targets event)
  have runs : h.runsOfAll payload bindings (h.targets event) = done.map Prod.snd := by
    refine Host.runsOfAll_done executed ?_
    obtain ⟨all, -⟩ | ⟨m, error, rest, parts, fails, -⟩ := ends
    · exact .inl all
    · exact .inr ⟨m, error, rest, parts, fails⟩
  have stored : ∀ p ∈ done, h.Stored p.1 := by
    intro p member
    have target : p.1 ∈ h.targets event := by
      have first : p.1 ∈ done.map Prod.fst := List.mem_map_of_mem member
      obtain ⟨all, -⟩ | ⟨m, error, rest, parts, -⟩ := ends
      · exact all ▸ first
      · exact parts ▸ List.mem_append_left _ first
    exact (Host.mem_targets.mp target).1
  have after : (raiseEvent h event payload bindings).1 = h.recordAll done :=
    (Host.dispatch_host h event payload bindings).1.trans host
  have makes : ∀ p ∈ done, h.Makes p.1 p.2 := by
    intro p member
    obtain ⟨flow, copied, run⟩ := executed p member
    exact ⟨flow, _, payload, bindings, copied, plain.1, plain.2, run⟩
  rw [after, Host.performed, runs]
  exact .recorded done stored makes

/-- An operation does to a host no more than one of these things. -/
theorem perform_performs (h : Host) {operation : Operation} (plain : operation.Plain) :
    Performs h (h.performed operation) (perform h operation).1 := by
  cases operation with
  | createFlow name type start => exact createFlow_performs h name type start
  | loadFlow file => exact loadFlow_performs h file
  | deleteFlow name => exact deleteFlow_performs h name
  | edit flow command => exact edit_performs h flow command
  | undo flow => exact undo_performs h flow
  | redo flow => exact redo_performs h flow
  | enable flow value => exact enable_performs h flow value
  | runFlow flow payload bindings limit => exact runFlow_performs h flow limit plain
  | saveFlow flow replace => exact saveFlow_performs h flow replace
  | raise event payload bindings => exact raiseEvent_performs h event plain
  | showFlow name => exact onFlow_kept fun _ _ _ => .kept
  | overview | health | listFlows | listTypes | showType | listRuns | showRun => exact .kept

/-- The runs that a request performs. -/
def made (h : Host) (r : Request) : List Run :=
  (r.operation?.map h.performed).getD []

theorem answer_asked {r : Request} {operation : Operation} (asks : r.operation? = some operation) :
    answer h r = perform h operation := by
  unfold Request.operation? at asks
  obtain ⟨route, found, resolved⟩ := Option.bind_eq_some_iff.mp asks
  unfold answer
  rw [found]
  cases resolve : route.resolve r with
  | error response => rw [resolve] at resolved; cases resolved
  | ok operation' =>
    rw [resolve] at resolved
    cases resolved
    simp only [resolve]

theorem serve_eq (h : Host) (r : Request) :
    serve h r = ((answer h r).1, (answer h r).2.sendable (answer h r).1.settings) :=
  rfl

theorem serve_asked {r : Request} {operation : Operation} (asks : r.operation? = some operation) :
    (serve h r).2 = (perform h operation).2.sendable (perform h operation).1.settings := by
  rw [serve_eq, answer_asked asks]

theorem answer_unrouted {r : Request}
    (noRoute : (routes r.target).find? (fun route => route.method = r.method) = none) :
    answer h r = (h, unrouted r.target) := by
  rw [answer, noRoute]

/-- A request that asks for no operation is answered the same by all hosts. -/
theorem answer_refused {r : Request} (asks : r.operation? = none) :
    ∃ response, ∀ h, answer h r = (h, response) := by
  unfold Request.operation? at asks
  unfold answer
  cases found : (routes r.target).find? fun route => route.method = r.method with
  | none => exact ⟨unrouted r.target, fun h => rfl⟩
  | some route =>
    cases resolved : route.resolve r with
    | error response => exact ⟨response, fun h => by simp only [resolved]⟩
    | ok operation => simp [found, resolved, Except.toOption] at asks

theorem answer_idle {r : Request} (asks : r.operation? = none) : (answer h r).1 = h := by
  obtain ⟨response, same⟩ := answer_refused asks
  rw [same]

theorem serve_performs (h : Host) (r : Request) : Performs h (made h r) (serve h r).1 := by
  rw [serve_eq]
  unfold made
  cases asks : r.operation? with
  | none =>
    rw [answer_idle asks]
    exact .kept
  | some operation =>
    rw [answer_asked asks]
    exact perform_performs h (plain_of_asks asks)

end Service

namespace Host

open Service (Request serve)

section Live

/-- The hosts that there are from the start of a host on, with the runs performed so far: a new one
with any files on its disk, and what becomes of one by operations. -/
inductive Live : List Run → Host → Prop
  | new {settings : Settings} {token : RunId → String} {new : Host} (disk : Files.Disk)
    (made : empty settings settings.historySize token = .ok new) : Live [] (new.withDisk disk)
  | performs {runs made : List Run} {h k : Host} (live : Live runs h)
    (performs : Performs h made k) : Live (runs ++ made) k

/-- The hosts that have just started, whatever names their runs are known by. -/
def Started (h : Host) : Prop :=
  ∃ settings token new disk, empty settings settings.historySize token = .ok new ∧
    startUp (new.withDisk disk) = .ok h

/-- A host after some requests. -/
def served (h : Host) (requests : List Request) : Host :=
  requests.foldl (fun h r => (serve h r).1) h

/-- The runs that requests perform, in order. -/
def madeAll (h : Host) : List Request → List Run
  | [] => []
  | r :: rest => Service.made h r ++ madeAll (serve h r).1 rest

variable {h k : Host} {runs made : List Run}

theorem Live.prepares (live : Live runs h) (prepares : Prepares h k) : Live runs k := by
  induction prepares with
  | refl => exact live
  | tail _ performs ih => simpa using ih.performs performs

theorem Started.live (started : h.Started) : Live [] h := by
  obtain ⟨settings, token, new, disk, made, up⟩ := started
  exact (Live.new disk made).prepares (startUp_prepares up)

theorem Live.served (live : Live runs h) (requests : List Request) :
    Live (runs ++ madeAll h requests) (served h requests) := by
  induction requests generalizing h runs with
  | nil => simpa [madeAll, Host.served] using live
  | cons r rest ih =>
    have next := ih (live.performs (Service.serve_performs h r))
    rwa [List.append_assoc] at next

/-- Settings, types and the names of runs stay as they are. -/
theorem Performs.fixed (performs : Performs h made k) :
    k.settings = h.settings ∧ k.catalog = h.catalog ∧ k.token = h.token := by
  cases performs with
  | @created editor k' n built added =>
    obtain ⟨catalog, settings, -⟩ := store_keeps k' n
    rw [settings, catalog, token_store, (addEditor_ok added).2]
    exact ⟨rfl, rfl, rfl⟩
  | loaded p =>
    obtain ⟨catalog, settings, token, -⟩ := reading_keeps h p
    exact ⟨settings, catalog, token⟩
  | recorded done =>
    obtain ⟨-, -, catalog, settings, -⟩ := recordAll_keeps (h := h) done
    exact ⟨settings, catalog, token_recordAll done⟩
  | kept | dropped | asked | switched | saved => exact ⟨rfl, rfl, rfl⟩

theorem Prepares.token (prepares : Prepares h k) : k.token = h.token := by
  induction prepares with
  | refl => rfl
  | tail _ performs ih => exact performs.fixed.2.2.trans ih

theorem served_settings (requests : List Request) :
    (h.served requests).settings = h.settings := by
  induction requests generalizing h with
  | nil => rfl
  | cons r rest ih => exact ih.trans (Service.serve_performs h r).fixed.1

theorem served_token (requests : List Request) : (h.served requests).token = h.token := by
  induction requests generalizing h with
  | nil => rfl
  | cons r rest ih => exact ih.trans (Service.serve_performs h r).fixed.2.2

theorem Live.standard (live : Live runs h) : h.catalog = .standard := by
  induction live with
  | new disk made =>
    obtain ⟨history, -, rfl⟩ := Except.exists_of_map_eq_ok made
    rfl
  | performs _ performs ih => exact performs.fixed.2.1.trans ih

theorem Performs.inOrder (performs : Performs h made k) (inOrder : h.InOrder) : k.InOrder := by
  cases performs with
  | kept => exact inOrder
  | @created editor k' n built added =>
    have opened : k'.InOrder := by
      rw [(addEditor_ok added).2]
      exact inOrder.kept rfl (keeps_push _ _) (bounded_push inOrder rfl)
    exact inOrder_obey opened (.store n)
  | loaded p =>
    have read : (h.withDisk
        (Files.loadFile h.catalog h.settings.formatVersion h.disk p).disk).InOrder :=
      ⟨inOrder.distinct, inOrder.filed, inOrder.bounded⟩
    unfold reading
    cases h.opened p with
    | none => exact read
    | some f => exact inOrder_obey read (.load f)
  | dropped name => exact inOrder_obey inOrder (.drop name)
  | asked n request => exact inOrder_obey inOrder (.request n request)
  | switched n value => exact inOrder_obey inOrder (.enable n value)
  | recorded done => exact inOrder.recordAll done
  | saved => exact ⟨inOrder.distinct, inOrder.filed, inOrder.bounded⟩

theorem Live.inOrder (live : Live runs h) : h.InOrder := by
  induction live with
  | new disk made =>
    have empty := inOrder_empty made
    exact ⟨empty.distinct, empty.filed, empty.bounded⟩
  | performs _ performs ih => exact performs.inOrder ih

/-- The names of runs as they are drawn, of which only the end differs here. -/
def sampleToken (id : RunId) : String :=
  String.ofList ("61c4d2ae-5f0b-4c8e-9a37-".toList ++
    List.replicate (12 - (Nat.toDigits 10 id).length) '0' ++ Nat.toDigits 10 id)

/-- A new host that retains one run, and loads no files when it starts. -/
def quiet : Host where
  settings := { Settings.standard with historySize := 1, loadOnStartup := false }
  catalog := .standard
  managers := #[]
  stored := []
  histories := #[⟨1, []⟩]
  runs := #[]
  token := sampleToken
  disk := .ofTree []

theorem started_on (disk : Files.Disk)
    (up : (startUp (quiet.withDisk disk)).toOption = some h) : h.Started :=
  ⟨quiet.settings, sampleToken, quiet, disk, rfl, Except.eq_ok_of_toOption up⟩

theorem started_quiet (up : (startUp quiet).toOption = some h) :
    h.Started ∧ h.token = sampleToken :=
  ⟨started_on (.ofTree []) up, (startUp_prepares (Except.eq_ok_of_toOption up)).token⟩

/-- The request that creates a flow of a name. -/
def creates (name : String) : Request :=
  ⟨.post, .ofText "/flows/", .json (.object [("name", .text name)])⟩

end Live

end Host

end EventFlow
