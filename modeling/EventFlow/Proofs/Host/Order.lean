import EventFlow.Host.Dispatch
import EventFlow.Proofs.Edit.Atomic
import EventFlow.Proofs.Flow.Copy
import EventFlow.Proofs.Host.Directory

/-!
What a host is ordered to do with its flows, and what its runs leave behind.

* `Order`, `obey`: the orders, and the host after one;
* `runAll_done`, `dispatch_done`: running flows adds their runs and nothing else;
* `obeyed`: all that an order can do to a host.
-/

namespace EventFlow.Host

/-- The orders that concern flows under edit, stored flows and their runs, and the types there
are. -/
inductive Order where
  | open (flow : Flow)
  | load (flow : Flow)
  | request (manager : Nat) (request : Editor.Request)
  | enable (manager : Nat) (value : Bool)
  | renew (manager : Nat) (size : Int)
  | store (manager : Nat)
  | drop (name : String)
  | run (manager : Nat) (payload : List Value) (bindings : Bindings) (limit : Option Int)
    (listener : Listener)
  | dispatch (event : String) (payload : List Value) (bindings : Bindings)
  | setCatalog (catalog : Catalog)
  deriving DecidableEq, Repr

/-- The host with one manager changed. -/
def changeManager (h : Host) (manager : Nat) (change : Manager → Manager) : Host :=
  { h with managers := h.managers.modify manager change }

/-- A new history records the runs of a manager. -/
def renewHistory (h : Host) (manager : Nat) (history : History) : Host :=
  let (h, number) := h.addHistory history
  h.changeManager manager fun m => { m with history := number }

/-- The host after an order. -/
def obey (h : Host) : Order → Host
  | .open flow =>
    match h.addEditor (.ofFlow flow) with
    | .ok (h, _) => h
    | .error _ => h
  | .load flow => h.storeFlow flow
  | .request manager request =>
    h.changeManager manager fun m => { m with editor := m.editor.handle h.catalog request }
  | .enable manager value =>
    h.changeManager manager fun m => { m with editor := { m.editor with enabled := value } }
  | .renew manager size =>
    match History.ofSize size with
    | .ok history => h.renewHistory manager history
    | .error _ => h
  | .store manager => h.store manager
  | .drop name => h.drop name
  | .run manager payload bindings limit listener =>
    match h.managers[manager]? with
    | none => h
    | some m =>
      match h.run m payload bindings limit listener with
      | .ok ran => ran.host
      | .error _ => h
  | .dispatch event payload bindings => (h.dispatch event payload bindings).host
  | .setCatalog catalog => { h with catalog := catalog }

/-- The host after some orders. -/
def after (h : Host) (orders : List Order) : Host :=
  orders.foldl obey h

/-- A host with nothing in it, whose shared history has the given size. -/
def bare (size : Nat) : Host where
  settings := .standard
  catalog := .standard
  managers := #[]
  stored := []
  histories := #[⟨size, []⟩]
  runs := #[]
  token _ := ""
  disk := .ofTree []

theorem after_append (h : Host) (orders : List Order) (order : Order) :
    h.after (orders ++ [order]) = (h.after orders).obey order := by
  simp [after]

section Runs

/-- A run is what the flow of a manager does on a host, copied through the catalog of the host. -/
def Executes (h : Host) (payload : List Value) (bindings : Bindings) (m : Manager) (r : Run) :
    Prop :=
  ∃ flow, m.editor.flow.copy h.catalog = .ok flow ∧
    r = ((Run.pending flow h.settings.maxSteps .absent).execute payload bindings).1

/-- The host with a run added, which a history records. -/
def record (h : Host) (history : Nat) (r : Run) : Host :=
  { h with runs := h.runs.push r }.changeHistory history (·.add h.runs.size)

/-- The host with runs added one after the other, each recorded by the history of its manager. -/
def recordAll (h : Host) (done : List (Manager × Run)) : Host :=
  done.foldl (fun h p => h.record p.1.history p.2) h

/-- The runs with their numbers, from the given one on. -/
def numbered (first : Nat) (done : List (Manager × Run)) : List (RunId × Run) :=
  (List.range' first done.length).zip (done.map Prod.snd)

variable {h : Host} {payload : List Value} {bindings : Bindings}

theorem run_ok {m : Manager} {limit : Option Int} {listener : Listener} {ran : Ran}
    (ok : h.run m payload bindings limit listener = .ok ran) :
    ran.host = h.record m.history ran.run ∧ ran.id = h.runs.size ∧
      ∃ flow, m.editor.flow.copy h.catalog = .ok flow ∧
        ran.run = ((Run.pending flow (limit.getD h.settings.maxSteps) listener).execute payload
          bindings).1 := by
  unfold run at ok
  obtain ⟨pending, started, rfl⟩ := Except.exists_of_map_eq_ok ok
  obtain ⟨flow, copied, rfl⟩ := Except.exists_of_map_eq_ok started
  exact ⟨rfl, rfl, flow, copied, rfl⟩

theorem run_error {m : Manager} {limit : Option Int} {listener : Listener} {error : UnknownType}
    (broke : h.run m payload bindings limit listener = .error error) :
    m.editor.flow.copy h.catalog = .error error := by
  unfold run Editor.start at broke
  cases copied : m.editor.flow.copy h.catalog with
  | ok flow => rw [copied] at broke; cases broke
  | error other => rw [copied] at broke; cases broke; rfl

/-- Storing a flow changes what is stored and where its manager records only. -/
theorem store_keeps (h : Host) (n : Nat) :
    (h.store n).catalog = h.catalog ∧ (h.store n).settings = h.settings ∧
      (h.store n).disk = h.disk ∧ (h.store n).runs = h.runs ∧
      (h.store n).histories = h.histories := by
  unfold store
  split <;> exact ⟨rfl, rfl, rfl, rfl, rfl⟩

theorem token_store (h : Host) (n : Nat) : (h.store n).token = h.token := by
  unfold store
  split <;> rfl

/-- Recording runs changes runs and histories only. -/
theorem recordAll_keeps (done : List (Manager × Run)) :
    (h.recordAll done).managers = h.managers ∧ (h.recordAll done).stored = h.stored ∧
      (h.recordAll done).catalog = h.catalog ∧ (h.recordAll done).settings = h.settings ∧
      (h.recordAll done).disk = h.disk ∧
      (h.recordAll done).runs.toList = h.runs.toList ++ done.map Prod.snd := by
  induction done generalizing h with
  | nil => simp [recordAll]
  | cons p rest ih =>
    obtain ⟨managers, stored, catalog, settings, disk, runs⟩ := ih (h := h.record p.1.history p.2)
    refine ⟨managers, stored, catalog, settings, disk, ?_⟩
    rw [show h.recordAll (p :: rest) = (h.record p.1.history p.2).recordAll rest from rfl, runs]
    simp [record, changeHistory]

theorem token_recordAll (done : List (Manager × Run)) : (h.recordAll done).token = h.token := by
  induction done generalizing h with
  | nil => rfl
  | cons p rest ih => exact ih (h := h.record p.1.history p.2)

/-- Running flows one after the other records their runs, up to a flow that cannot be copied. -/
theorem runAll_done (h : Host) (payload : List Value) (bindings : Bindings) (ms : List Manager) :
    ∃ done : List (Manager × Run), (h.runAll payload bindings ms).host = h.recordAll done ∧
      (∀ p ∈ done, h.Executes payload bindings p.1 p.2) ∧
      ((done.map Prod.fst = ms ∧
          (h.runAll payload bindings ms).result = .ok (numbered h.runs.size done)) ∨
        ∃ m error rest, ms = done.map Prod.fst ++ m :: rest ∧
          m.editor.flow.copy h.catalog = .error error ∧
          (h.runAll payload bindings ms).result = .error error) := by
  induction ms generalizing h with
  | nil => exact ⟨[], rfl, by simp, Or.inl ⟨rfl, rfl⟩⟩
  | cons m rest ih =>
    unfold runAll
    cases ran : h.run m payload bindings none .absent with
    | error error =>
      exact ⟨[], rfl, by simp, Or.inr ⟨m, error, rest, rfl, run_error ran, rfl⟩⟩
    | ok first =>
      obtain ⟨host, id, flow, copied, run⟩ := run_ok ran
      obtain ⟨done, after, executed, ends⟩ := ih first.host
      have catalog : first.host.catalog = h.catalog := by rw [host]; rfl
      have settings : first.host.settings = h.settings := by rw [host]; rfl
      have size : first.host.runs.size = h.runs.size + 1 := by
        rw [host]
        simp [record, changeHistory]
      refine ⟨(m, first.run) :: done, ?_, ?_, ?_⟩
      · change (first.host.runAll payload bindings rest).host = _
        rw [after, host]
        rfl
      · refine List.forall_mem_cons.mpr ⟨⟨flow, copied, run⟩, ?_⟩
        intro p hp
        obtain ⟨flow', copied', run'⟩ := executed p hp
        rw [catalog] at copied'
        rw [settings] at run'
        exact ⟨flow', copied', run'⟩
      · rcases ends with ⟨all, ok⟩ | ⟨m', error, later, parts, fails, broke⟩
        · left
          refine ⟨by simp [all], ?_⟩
          simp only [ok, Except.map, id, size]
          rfl
        · right
          rw [catalog] at fails
          exact ⟨m', error, later, by simp [parts], fails, by simp only [broke, Except.map]⟩

end Runs

/-- The managers that an event is for. -/
def Listens (h : Host) (event : String) (m : Manager) : Prop :=
  (∃ name i, (name, i) ∈ h.stored ∧ h.managers[i]? = some m) ∧ m.editor.enabled = true ∧
    m.editor.flow.startType? = some event

theorem mem_targets {h : Host} {event : String} {m : Manager} :
    m ∈ h.targets event ↔ h.Listens event m := by
  simp [targets, Listens]

theorem targets_of_sorted {h : Host} (sorted : h.stored.Pairwise fun a b => a.1 ≤ b.1)
    (event : String) :
    h.targets event = (h.stored.filterMap fun p => h.managers[p.2]?).filter fun m =>
      m.editor.enabled && m.editor.flow.startType? == some event := by
  rw [targets, List.mergeSort_of_pairwise (sorted.imp decide_eq_true)]

theorem dispatch_host (h : Host) (event : String) (payload : List Value) (bindings : Bindings) :
    (h.dispatch event payload bindings).host =
        (h.runAll payload bindings (h.targets event)).host ∧
      (h.dispatch event payload bindings).result =
        (h.runAll payload bindings (h.targets event)).result := by
  unfold dispatch
  dsimp only
  split <;> exact ⟨rfl, rfl⟩

/-- An event leaves a host with runs of flows that listen to it. -/
theorem dispatch_done (h : Host) (event : String) (payload : List Value) (bindings : Bindings) :
    ∃ done : List (Manager × Run), (h.dispatch event payload bindings).host = h.recordAll done ∧
      ∀ p ∈ done, h.Listens event p.1 ∧ h.Executes payload bindings p.1 p.2 := by
  obtain ⟨done, host, executed, ends⟩ := runAll_done h payload bindings (h.targets event)
  refine ⟨done, (dispatch_host h event payload bindings).1.trans host, fun p hp => ?_⟩
  refine ⟨mem_targets.mp ?_, executed p hp⟩
  have ran : p.1 ∈ done.map Prod.fst := List.mem_map_of_mem hp
  rcases ends with ⟨all, -⟩ | ⟨m, error, rest, parts, -⟩
  · exact all ▸ ran
  · exact parts ▸ List.mem_append_left _ ran

/-- What an order makes of a host. Most orders can also come to nothing, which leaves no runs
either. -/
inductive Obeyed (h : Host) : Order → Host → Prop
  | recorded {order : Order} (other : ∀ manager value, order ≠ .enable manager value)
    (done : List (Manager × Run)) : Obeyed h order (h.recordAll done)
  | opened (flow : Flow) (size : Nat) :
    Obeyed h (.open flow) { h with
      managers := h.managers.push ⟨.ofFlow flow, h.histories.size⟩
      histories := h.histories.push ⟨size, []⟩ }
  | loaded (flow : Flow) :
    Obeyed h (.load flow) { h with
      managers := h.managers.push ⟨.ofFlow flow, shared⟩
      stored := putStored h.stored flow.name h.managers.size }
  | asked (manager : Nat) (request : Editor.Request) :
    Obeyed h (.request manager request)
      (h.changeManager manager fun m => { m with editor := m.editor.handle h.catalog request })
  | switched (manager : Nat) (value : Bool) :
    Obeyed h (.enable manager value)
      (h.changeManager manager fun m => { m with editor := { m.editor with enabled := value } })
  | renewed (manager : Nat) {size : Int} (size' : Nat) :
    Obeyed h (.renew manager size) (h.renewHistory manager ⟨size', []⟩)
  | stored {manager : Nat} {m : Manager} (there : h.managers[manager]? = some m) :
    Obeyed h (.store manager) { h.changeManager manager fun m => { m with history := shared } with
      stored := putStored h.stored m.editor.flow.name manager }
  | dropped (name : String) : Obeyed h (.drop name) (h.drop name)
  | registered (catalog : Catalog) : Obeyed h (.setCatalog catalog) { h with catalog := catalog }

theorem ofSize_ok {size : Int} {history : History} (sized : History.ofSize size = .ok history) :
    history = ⟨size.toNat, []⟩ := by
  unfold History.ofSize at sized
  split at sized
  · cases sized
  · split at sized
    · cases sized
    · cases sized
      rfl

theorem obeyed (h : Host) (order : Order) : Obeyed h order (h.obey order) := by
  cases order with
  | «open» flow =>
    cases added : h.addEditor (.ofFlow flow) with
    | error error => simpa only [obey, added] using .recorded (by simp) []
    | ok opened =>
      obtain ⟨history, sized, rfl⟩ := Except.exists_of_map_eq_ok added
      rw [ofSize_ok sized] at added
      simpa only [obey, added] using .opened flow _
  | load flow => simpa only [obey, storeFlow_eq] using .loaded flow
  | request manager request => exact .asked manager request
  | enable manager value => exact .switched manager value
  | renew manager size =>
    rw [obey]
    split
    · rename_i sized
      rw [ofSize_ok sized]
      exact .renewed manager _
    · exact .recorded (by simp) []
  | store manager =>
    rw [obey, store]
    split
    · exact .recorded (by simp) []
    · rename_i there
      exact .stored there
  | drop name => exact .dropped name
  | run manager payload bindings limit listener =>
    rw [obey]
    split
    · exact .recorded (by simp) []
    · rename_i m _
      split
      · rename_i ran ok
        rw [(run_ok ok).1]
        exact .recorded (by simp) [(m, ran.run)]
      · exact .recorded (by simp) []
  | dispatch event payload bindings =>
    obtain ⟨done, host, -⟩ := dispatch_done h event payload bindings
    rw [obey, host]
    exact .recorded (by simp) done
  | setCatalog catalog => exact .registered catalog

end EventFlow.Host
