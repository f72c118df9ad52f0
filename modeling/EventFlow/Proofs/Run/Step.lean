import EventFlow.Proofs.Flow.Nodes
import EventFlow.Proofs.Text.Wording
import EventFlow.Run.Basic

/-!
One step of a run, taken apart.

* `stepped`: the six ways in which a step ends;
* `step_ok`: what a step that succeeds read, and what it leaves behind;
* `step_records`: the entry that such a step adds to the trace, and the statuses then;
* `step_error`: a step that fails leaves the trace alone; it fails at an input, or else as
  computations do.
-/

namespace EventFlow

/-- Two listeners that make the same changes to the messages. -/
def Listener.Alike (l l' : Listener) : Prop :=
  ∀ message, (l.reaction message).changes = (l'.reaction message).changes

theorem Listener.IsDiscreet.alike {l l' : Listener} (h : l.IsDiscreet) (h' : l'.IsDiscreet) :
    l.Alike l' :=
  fun message => (h message).trans (h' message).symm

/-- Changes take no message away and add none. -/
theorem Reaction.size_revise (r : Reaction) (messages : Array Message) :
    (r.revise messages).size = messages.size := by
  unfold revise
  induction r.changes generalizing messages with
  | nil => rfl
  | cons change rest ih => rw [List.foldl_cons, ih, Array.size_setIfInBounds]

/-- A failure to read an input. -/
def Failure.OfInput : Failure → Prop
  | danglingNode _ => True
  | danglingOutput _ _ => True
  | notExecuted _ => True
  | _ => False

/-- A failure of a node's own computation, or of the making of a message about its step. -/
def Failure.OfComputation : Failure → Prop
  | fault _ => True
  | raised _ => True
  | unexpected _ => True
  | _ => False

/-- What goes wrong when the integer in a message is too long. -/
def Failure.unsaid : Failure :=
  .unexpected (.wording .tooManyDigits)

/-- The outputs of a node after an action. -/
def Action.onOutputs (outputs : List Value) : Action → List Value
  | .write index value => outputs.set index.toNat value
  | _ => outputs

/-- The status of a node after a step in which it did some actions. -/
def Status.ran (s : Status) (inputs : List Value) (actions : List Action) (branch : Option Int)
    (next : Int) : Status :=
  { s with
    executed := true
    inputs := inputs
    outputs := actions.foldl Action.onOutputs s.outputs
    branch := branch
    next := next }

theorem Action.onOutputs_length (outputs : List Value) (action : Action) :
    (action.onOutputs outputs).length = outputs.length := by
  cases action <;> simp [onOutputs]

theorem Action.foldl_onOutputs_length (actions : List Action) (outputs : List Value) :
    (actions.foldl Action.onOutputs outputs).length = outputs.length := by
  induction actions generalizing outputs with
  | nil => rfl
  | cons action rest ih => rw [List.foldl_cons, ih, Action.onOutputs_length]

theorem Failure.OfComputation.notOfInput {failure : Failure} (h : failure.OfComputation) :
    ¬failure.OfInput := by
  cases failure with
  | fault | raised | unexpected => exact fun impossible => impossible
  | danglingNode | danglingOutput | notExecuted | deadLoop | missingStart => exact h.elim

theorem Failure.showing_brief {n : Int} (brief : Brief n) (failure : Failure) :
    Failure.showing n failure = failure := by
  unfold Failure.showing
  rw [Text.ofInt_brief brief]

theorem Failure.showing_long {n : Int} (long : ¬Brief n) (failure : Failure) :
    Failure.showing n failure = unsaid := by
  unfold Failure.showing
  rw [Text.ofInt_long long, unsaid]

theorem Failure.showing_cases (n : Int) (failure : Failure) :
    (Brief n ∧ Failure.showing n failure = failure) ∨
      (¬Brief n ∧ Failure.showing n failure = unsaid) := by
  by_cases brief : Brief n
  · exact Or.inl ⟨brief, showing_brief brief failure⟩
  · exact Or.inr ⟨brief, showing_long brief failure⟩

theorem Failure.OfComputation.showing {n : Int} {failure : Failure} (h : failure.OfComputation) :
    (Failure.showing n failure).OfComputation := by
  rcases (Failure.showing_cases n failure).imp And.right And.right with said | unsaid
  · rwa [said]
  · rw [unsaid]
    trivial

theorem Failure.OfInput.showing {n : Int} {failure : Failure} (h : failure.OfInput) :
    (Failure.showing n failure).OfInput ∨ Failure.showing n failure = Failure.unsaid := by
  rcases Failure.showing_cases n failure with ⟨-, said⟩ | ⟨-, unsaid⟩
  · rw [said]
    exact Or.inl h
  · exact Or.inr unsaid

/-- To be cut off is no failure to read an input, in whatever words. -/
theorem Failure.showing_deadLoop {flow : String} {limit : Int} :
    ¬(Failure.showing limit (.deadLoop flow limit)).OfInput := by
  rcases (Failure.showing_cases limit (.deadLoop flow limit)).imp And.right And.right with
    said | unsaid
  · rw [said]
    exact id
  · rw [unsaid]
    exact id

theorem Node.writeResult_failure {n : Node} {result : Operator.Result Value} {failure : Failure}
    (h : .fail failure ∈ n.writeResult result) : failure.OfComputation := by
  cases result with
  | ok value => simp [Node.writeResult] at h
  | error error =>
    obtain rfl : failure = .ofOperator n.name error := by simpa [Node.writeResult] using h
    cases error <;> trivial

theorem Node.add_failure {n : Node} {a b : Value} {failure : Failure}
    (h : .fail failure ∈ n.add a b) : failure.OfComputation := by
  unfold Node.add at h
  split at h
  · obtain rfl : failure = _ := by simpa using h
    trivial
  · split at h
    · split at h
      · simp at h
      · obtain rfl : failure = _ := by simpa using h
        trivial
    · obtain rfl : failure = _ := by simpa using h
      trivial

theorem Node.variableName_failure {n : Node} {v : Value} {failure : Failure}
    (h : n.variableName v = .error failure) : failure.OfComputation := by
  unfold Node.variableName at h
  split at h
  · cases h; trivial
  · split at h
    · cases h; trivial
    · cases h

/-- What a node does fails in no other way than computations do. -/
theorem Node.actions_failure {n : Node} {bindings : Bindings} {inputs : List Value}
    {failure : Failure} (h : .fail failure ∈ n.actions bindings inputs) :
    failure.OfComputation := by
  unfold Node.actions at h
  split at h
  · exact Node.add_failure h
  · exact Node.writeResult_failure h
  · exact Node.writeResult_failure h
  · simp only [Node.readVariable] at h
    split at h
    · rename_i refused
      obtain rfl : failure = _ := by simpa using h
      exact Node.variableName_failure refused
    · simp at h
  · simp only [Node.writeVariable] at h
    split at h
    · rename_i refused
      obtain rfl : failure = _ := by simpa using h
      exact Node.variableName_failure refused
    · simp at h
  · simp only [Node.sendMessage] at h
    split at h
    · obtain rfl : failure = _ := by simpa using h
      trivial
    · split at h
      · simp at h
      · obtain rfl : failure = _ := by simpa using h
        trivial
  · simp [List.mem_mapIdx] at h
  · simp at h
  · rename_i breakdown text _
    obtain rfl : failure = _ := by simpa using h
    cases breakdown <;> trivial
  · simp at h

theorem Node.select_failure {n : Node} {inputs : List Value} {failure : Failure}
    (h : n.select inputs = .error failure) : failure.OfComputation := by
  unfold Node.select at h
  split at h
  · split at h
    · cases h
    · split at h <;> cases h <;> trivial
  · rename_i input _ _
    cases chosen : Node.selector input with
    | ok b => rw [chosen] at h; cases h
    | error cause => rw [chosen] at h; cases h; trivial
  · cases h; trivial
  · cases h

namespace Progress

theorem status?_node {p : Progress} {id : Int} {s : Status} (h : p.status? id = some s) :
    s.node = id := by
  simpa using List.find?_some h

theorem status?_modify (p : Progress) (changed id : Int) {change : Status → Status}
    (keeps : ∀ s, (change s).node = s.node) :
    (p.modify changed change).status? id =
      if id = changed then (p.status? id).map change else p.status? id := by
  unfold status? modify
  rw [List.find?_map]
  have looks :
      ((fun s : Status => s.node == id) ∘ fun s => if s.node = changed then change s else s) =
      fun s => s.node == id := by
    funext s
    simp only [Function.comp_apply]
    split <;> simp [keeps]
  rw [looks]
  cases found : p.statuses.find? (fun s => s.node == id) with
  | none => simp
  | some s =>
    have same : s.node = id := by simpa using List.find?_some found
    by_cases h : id = changed <;> simp [same, h]

theorem status?_modify_self {p : Progress} {id : Int} {s : Status} {change : Status → Status}
    (there : p.status? id = some s) (keeps : ∀ s, (change s).node = s.node) :
    (p.modify id change).status? id = some (change s) := by
  rw [status?_modify p id id keeps, if_pos rfl, there, Option.map_some]

theorem modify_congr {p : Progress} {id : Int} {change other : Status → Status}
    (same : ∀ s ∈ p.statuses, s.node = id → change s = other s) :
    p.modify id change = p.modify id other := by
  simp only [modify, Progress.mk.injEq, and_self, and_true]
  apply List.map_congr_left
  intro s mem
  by_cases own : s.node = id
  · simp [own, same s mem own]
  · simp [own]

/-- Two changes of one status are one change. -/
theorem modify_modify (p : Progress) (id : Int) (first second : Status → Status)
    (keeps : ∀ s, (first s).node = s.node) :
    (p.modify id first).modify id second = p.modify id fun s => second (first s) := by
  simp only [modify, List.map_map, Progress.mk.injEq, and_self, and_true]
  apply List.map_congr_left
  intro s _
  by_cases h : s.node = id <;> simp [h, keeps]

/-- What a progress shows of the steps that are done. -/
def recorded (p : Progress) : Nat × Array Status :=
  (p.steps, p.trace)

theorem perform_recorded (p : Progress) (listener : Listener) (node : Node) (action : Action) :
    (p.perform listener node action).1.recorded = p.recorded := by
  cases action with
  | write index value => grind [perform, modify, recorded]
  | bind | send | fail => rfl

theorem performAll_recorded (p : Progress) (listener : Listener) (node : Node)
    (actions : List Action) : (p.performAll listener node actions).1.recorded = p.recorded := by
  induction actions generalizing p with
  | nil => rfl
  | cons action rest ih =>
    have first := p.perform_recorded listener node action
    unfold performAll
    cases done : p.perform listener node action with
    | mk q failure =>
      rw [done] at first
      cases failure with
      | none => exact (ih q).trans first
      | some failure => exact first

theorem perform_statuses {p q : Progress} {listener : Listener} {node : Node} {action : Action}
    (done : p.perform listener node action = (q, none)) :
    q.statuses =
      (p.modify node.id fun s => { s with outputs := action.onOutputs s.outputs }).statuses := by
  have unchanged : (p.modify node.id fun s => { s with outputs := s.outputs }).statuses =
      p.statuses := by
    simp [modify]
  cases action with
  | write index value =>
    simp only [perform] at done
    split at done
    · cases done; rfl
    · split at done <;> cases done
  | bind name value => cases done; exact unchanged.symm
  | send message => cases done; exact unchanged.symm
  | fail failure => cases done

theorem performAll_statuses {p q : Progress} {listener : Listener} {node : Node}
    {actions : List Action} (done : p.performAll listener node actions = (q, none)) :
    q.statuses = (p.modify node.id fun s =>
      { s with outputs := actions.foldl Action.onOutputs s.outputs }).statuses := by
  induction actions generalizing p with
  | nil => cases done; simp [modify]
  | cons action rest ih =>
    unfold performAll at done
    cases first : p.perform listener node action with
    | mk p₁ failure =>
      rw [first] at done
      cases failure with
      | some failure => cases done
      | none =>
        have before := perform_statuses first
        have after := ih done
        have joined := congrArg statuses (p.modify_modify node.id
          (fun s => { s with outputs := action.onOutputs s.outputs })
          (fun s => { s with outputs := rest.foldl Action.onOutputs s.outputs }) fun _ => rfl)
        rw [after]
        simp only [modify, List.foldl_cons] at before joined ⊢
        rw [before]
        exact joined

/-- Actions that fail do so as one of them does, or as a write to no output. -/
theorem performAll_failure {p q : Progress} {listener : Listener} {node : Node}
    {actions : List Action} {failure : Failure}
    (inner : ∀ failure, .fail failure ∈ actions → failure.OfComputation)
    (failed : p.performAll listener node actions = (q, some failure)) : failure.OfComputation := by
  induction actions generalizing p with
  | nil => cases failed
  | cons action rest ih =>
    unfold performAll at failed
    cases first : p.perform listener node action with
    | mk p₁ end? =>
      rw [first] at failed
      cases end? with
      | none => exact ih (fun g hg => inner g (List.mem_cons_of_mem _ hg)) failed
      | some _ =>
        cases failed
        cases action with
        | write index value =>
          simp only [perform] at first
          split at first
          · cases first
          · split at first <;> cases first <;> trivial
        | bind name value => cases first
        | send message => cases first
        | fail _ => cases first; exact inner _ List.mem_cons_self

theorem branch_failure {node : Node} {inputs : List Value} {failure : Failure}
    (h : branch node inputs = .error failure) : failure.OfComputation := by
  unfold branch at h
  split at h
  · cases h
  · cases chosen : node.select inputs with
    | ok b => rw [chosen] at h; cases h
    | error g => rw [chosen] at h; cases h; exact Node.select_failure chosen

theorem successor_failure {node : Node} {branch : Option Int} {failure : Failure}
    (h : successor node branch = .error failure) : failure.OfComputation := by
  cases branch with
  | none => cases h
  | some b =>
    simp only [successor] at h
    split at h
    · cases h
    · cases h
      have fault : Failure.OfComputation (.fault (.noBranch node.name b node.branchCount)) :=
        trivial
      exact fault.showing

/-- The node that is there under an id, if it is an id at all. -/
def onward (flow : Flow) (next : Int) : Option Node :=
  if next < 0 then none else flow.node? next

/-- A run can go on to an id: if no node is there, the host can say so. -/
def Nameable (flow : Flow) (next : Int) : Prop :=
  0 ≤ next → flow.node? next = none → Brief next

/-- An id that no node is under, and that is too long to be said. -/
structure Unsaid (flow : Flow) (next : Int) : Prop where
  natural : 0 ≤ next
  missing : flow.node? next = none
  long : ¬Brief next

theorem nameable_or_unsaid (flow : Flow) (next : Int) : Nameable flow next ∨ Unsaid flow next := by
  by_cases nameable : Nameable flow next
  · exact Or.inl nameable
  · simp only [Nameable, Classical.not_imp] at nameable
    exact Or.inr ⟨nameable.1, nameable.2.1, nameable.2.2⟩

theorem nameable_of_onward {flow : Flow} {next : Int} {node : Node}
    (leads : onward flow next = some node) : Nameable flow next := by
  intro natural missing
  rw [onward, if_neg (Int.not_lt.mpr natural), missing] at leads
  cases leads

section Follow

variable {flow : Flow} {next : Int} (node : Node) (p : Progress)

theorem follow_nameable (nameable : Nameable flow next) :
    (follow flow node p next).2 = .ok (onward flow next) := by
  unfold follow onward
  split
  · rfl
  · rename_i natural
    cases found : flow.node? next with
    | some n => rfl
    | none => rw [Text.ofInt_brief (nameable (Int.not_lt.mp natural) found)]

theorem follow_unsaid (unsaid : Unsaid flow next) :
    follow flow node p next = (p, .error .unsaid) := by
  unfold follow
  simp only [if_neg (Int.not_lt.mpr unsaid.natural), unsaid.missing, Text.ofInt_long unsaid.long,
    Failure.unsaid]

/-- To go on does no more than to log. -/
theorem follow_logs (flow : Flow) (next : Int) :
    ∃ log, (follow flow node p next).1 = { p with log := log } := by
  unfold follow
  split
  · exact ⟨p.log, rfl⟩
  · cases flow.node? next with
    | some n => exact ⟨p.log, rfl⟩
    | none =>
      cases Text.ofInt next with
      | ok shown => exact ⟨_, rfl⟩
      | error error => exact ⟨p.log, rfl⟩

end Follow

section Stepped

variable (flow : Flow) (listener : Listener) (node : Node) (p : Progress)

/-- The progress that shows the inputs of a node, just before the node acts. -/
def shows (inputs : List Value) : Progress :=
  p.modify node.id fun s => { s with inputs := inputs }

/-- The node did all its actions on these inputs, and they left `q`. -/
def Acted (inputs : List Value) (q : Progress) : Prop :=
  (p.shows node inputs).performAll listener node (node.actions p.bindings inputs) = (q, none)

/-- The progress that shows the branch that a node took, and where it leads. -/
def turns (taken : Option Int) (next : Int) : Progress :=
  (p.modify node.id fun s => { s with executed := true }).modify node.id fun s =>
    { s with branch := taken, next := next }

/-- Where a step stops, and with what: at an input, an action, the branch, its slot or the node that
it leads to, or else at the next node. -/
inductive Stepped : Progress → Except Failure (Option Node) → Prop where
  | unread {failure : Failure} (read : node.inputs.mapM (resolve flow p) = .error failure) :
      Stepped p (.error failure)
  | unacted {inputs : List Value} {q : Progress} {failure : Failure}
      (read : node.inputs.mapM (resolve flow p) = .ok inputs)
      (acted : (p.shows node inputs).performAll listener node (node.actions p.bindings inputs) =
        (q, some failure)) :
      Stepped q (.error failure)
  | unbranched {inputs : List Value} {q : Progress} {failure : Failure}
      (read : node.inputs.mapM (resolve flow p) = .ok inputs)
      (acted : p.Acted listener node inputs q)
      (took : branch node inputs = .error failure) :
      Stepped q (.error failure)
  | unfollowed {inputs : List Value} {q : Progress} {taken : Option Int} {failure : Failure}
      (read : node.inputs.mapM (resolve flow p) = .ok inputs)
      (acted : p.Acted listener node inputs q)
      (took : branch node inputs = .ok taken)
      (goes : successor node taken = .error failure) :
      Stepped (q.modify node.id fun s => { s with executed := true }) (.error failure)
  | lost {inputs : List Value} {q : Progress} {taken : Option Int} {next : Int}
      (read : node.inputs.mapM (resolve flow p) = .ok inputs)
      (acted : p.Acted listener node inputs q)
      (took : branch node inputs = .ok taken)
      (goes : successor node taken = .ok next) (unsaid : Unsaid flow next) :
      Stepped (q.turns node taken next) (.error .unsaid)
  | done {inputs : List Value} {q : Progress} {taken : Option Int} {next : Int}
      (read : node.inputs.mapM (resolve flow p) = .ok inputs)
      (acted : p.Acted listener node inputs q)
      (took : branch node inputs = .ok taken)
      (goes : successor node taken = .ok next) (nameable : Nameable flow next) :
      Stepped (follow flow node (q.turns node taken next) next).1 (.ok (onward flow next))

end Stepped

theorem bindings_shows (node : Node) (p : Progress) (inputs : List Value) :
    (p.shows node inputs).bindings = p.bindings :=
  rfl

/-- Every step is one of the six. -/
theorem stepped (flow : Flow) (listener : Listener) (node : Node) (p : Progress) :
    p.Stepped flow listener node (p.step flow listener node).1 (p.step flow listener node).2 := by
  unfold step
  cases read : node.inputs.mapM (resolve flow p) with
  | error failure => exact .unread read
  | ok inputs =>
    have shown : (p.modify node.id fun s => { s with inputs := inputs }) = p.shows node inputs :=
      rfl
    simp only [shown, bindings_shows]
    cases acted : (p.shows node inputs).performAll listener node
        (node.actions p.bindings inputs) with
    | mk q end? =>
      cases end? with
      | some failure => exact .unacted read acted
      | none =>
        cases took : branch node inputs with
        | error failure => exact .unbranched read acted took
        | ok taken =>
          cases goes : successor node taken with
          | error failure =>
            simp only [goes]
            exact .unfollowed read acted took goes
          | ok next =>
            simp only [goes]
            rcases nameable_or_unsaid flow next with nameable | unsaid
            · rw [follow_nameable node _ nameable]
              exact .done read acted took goes nameable
            · rw [follow_unsaid node _ unsaid]
              exact .lost read acted took goes unsaid

theorem stepped_of_step {flow : Flow} {listener : Listener} {node : Node} {p q : Progress}
    {result : Except Failure (Option Node)} (h : p.step flow listener node = (q, result)) :
    p.Stepped flow listener node q result := by
  have ends := stepped flow listener node p
  rw [h] at ends
  exact ends

/-- A step is the only one of the six that applies. -/
theorem Stepped.step_eq {flow : Flow} {listener : Listener} {node : Node} {p q : Progress}
    {result : Except Failure (Option Node)} (h : p.Stepped flow listener node q result) :
    p.step flow listener node = (q, result) := by
  have shown (inputs : List Value) :
      (p.modify node.id fun s => { s with inputs := inputs }) = p.shows node inputs := rfl
  cases h with
  | unread read => simp only [step, read]
  | unacted read acted => simp only [step, read, shown, bindings_shows, acted]
  | unbranched read acted took =>
    rw [Acted] at acted
    simp only [step, read, shown, bindings_shows, acted, took]
  | unfollowed read acted took goes =>
    rw [Acted] at acted
    simp only [step, read, shown, bindings_shows, acted, took, goes]
  | lost read acted took goes unsaid =>
    rw [Acted] at acted
    simp only [step, read, shown, bindings_shows, acted, took, goes, follow_unsaid node _ unsaid]
    rfl
  | done read acted took goes nameable =>
    rw [Acted] at acted
    simp only [step, read, shown, bindings_shows, acted, took, goes]
    exact Prod.ext rfl (follow_nameable node _ nameable)

theorem Acted.recorded {listener : Listener} {node : Node} {p q : Progress} {inputs : List Value}
    (h : p.Acted listener node inputs q) : q.recorded = p.recorded := by
  have kept := performAll_recorded (p.shows node inputs) listener node
    (node.actions p.bindings inputs)
  rw [h] at kept
  exact kept

/-- A step is not done before it is recorded. -/
theorem Stepped.recorded {flow : Flow} {listener : Listener} {node : Node} {p q : Progress}
    {result : Except Failure (Option Node)} (h : p.Stepped flow listener node q result) :
    q.recorded = p.recorded := by
  cases h with
  | unread => rfl
  | @unacted inputs q _ read acted =>
    have kept := performAll_recorded (p.shows node inputs) listener node
      (node.actions p.bindings inputs)
    rw [acted] at kept
    exact kept
  | unbranched _ acted | unfollowed _ acted | lost _ acted => exact acted.recorded
  | @done _ q taken next _ acted =>
    obtain ⟨log, followed⟩ := follow_logs node (q.turns node taken next) flow next
    rw [followed]
    exact acted.recorded

theorem step_trace {flow : Flow} {listener : Listener} {node : Node} {p q : Progress}
    {result : Except Failure (Option Node)} (h : p.step flow listener node = (q, result)) :
    q.trace = p.trace :=
  congrArg Prod.snd (stepped_of_step h).recorded

/-- What a step that succeeds read, and what it leaves behind: the status of the node is new, the
others are as they were, and the trace waits for the step to be recorded. -/
theorem step_ok {flow : Flow} {listener : Listener} {node : Node} {p q : Progress}
    {next? : Option Node} (h : p.step flow listener node = (q, .ok next?)) :
    ∃ inputs taken next,
      node.inputs.mapM (resolve flow p) = .ok inputs ∧
      branch node inputs = .ok taken ∧ successor node taken = .ok next ∧
      next? = onward flow next ∧ q.trace = p.trace ∧
      q.statuses = (p.modify node.id fun s =>
        s.ran inputs (node.actions p.bindings inputs) taken next).statuses := by
  have kept := step_trace h
  cases stepped_of_step h with
  | @done inputs q taken next read acted took goes =>
    obtain ⟨log, followed⟩ := follow_logs node (q.turns node taken next) flow next
    refine ⟨inputs, taken, next, read, took, goes, rfl, kept, ?_⟩
    have statuses := performAll_statuses acted
    rw [followed]
    simp only [turns, shows, modify] at statuses ⊢
    rw [statuses]
    simp only [List.map_map]
    apply List.map_congr_left
    intro s _
    by_cases same : s.node = node.id <;> simp [same, Status.ran]

/-- The steps that are done are those that the trace shows. -/
def Balanced (p : Progress) : Prop :=
  p.steps = p.trace.size

theorem Balanced.record {p : Progress} (h : p.Balanced) (id : Int) : (p.record id).Balanced := by
  unfold Progress.record
  split
  · exact (congrArg (· + 1) h).trans (Array.size_push _).symm
  · exact h

theorem Balanced.step {flow : Flow} {listener : Listener} {node : Node} {p q : Progress}
    {result : Except Failure (Option Node)} (h : p.Balanced)
    (ran : p.step flow listener node = (q, result)) : q.Balanced := by
  obtain ⟨steps, trace⟩ := Prod.mk.inj (stepped_of_step ran).recorded
  unfold Balanced
  rw [steps, trace]
  exact h

theorem status?_of_statuses {p q : Progress} (h : q.statuses = p.statuses) (id : Int) :
    q.status? id = p.status? id := by
  unfold status?
  rw [h]

/-- A step that succeeds adds the new status of its node to the trace once it is recorded. -/
theorem step_records {flow : Flow} {listener : Listener} {node : Node} {p q : Progress}
    {next? : Option Node} {s : Status} (status : p.status? node.id = some s)
    (h : p.step flow listener node = (q, .ok next?)) :
    ∃ inputs taken next,
      node.inputs.mapM (resolve flow p) = .ok inputs ∧
      branch node inputs = .ok taken ∧ successor node taken = .ok next ∧
      next? = onward flow next ∧
      (q.record node.id).trace.toList =
        p.trace.toList ++ [s.ran inputs (node.actions p.bindings inputs) taken next] ∧
      ∀ id, (q.record node.id).status? id =
        if id = node.id then some (s.ran inputs (node.actions p.bindings inputs) taken next)
        else p.status? id := by
  obtain ⟨inputs, taken, next, resolved, took, goes, onwards, trace, statuses⟩ := step_ok h
  have now (id : Int) : q.status? id =
      if id = node.id then some (s.ran inputs (node.actions p.bindings inputs) taken next)
      else p.status? id := by
    have keeps (s : Status) :
        (s.ran inputs (node.actions p.bindings inputs) taken next).node = s.node := rfl
    rw [status?_of_statuses statuses, status?_modify p node.id id keeps]
    by_cases same : id = node.id
    · subst same
      simp [status]
    · simp [same]
  have own := now node.id
  rw [if_pos rfl] at own
  refine ⟨inputs, taken, next, resolved, took, goes, onwards, ?_, ?_⟩
  · simp [record, own, trace]
  · intro id
    rw [← now id]
    simp only [record, own]
    rfl

/-- A step that fails leaves the trace alone; it fails at an input, or else as computations do. -/
theorem step_error {flow : Flow} {listener : Listener} {node : Node} {p q : Progress}
    {failure : Failure} (h : p.step flow listener node = (q, .error failure)) :
    q.trace = p.trace ∧
      (node.inputs.mapM (resolve flow p) = .error failure ∨
        (∃ inputs, node.inputs.mapM (resolve flow p) = .ok inputs) ∧ failure.OfComputation) := by
  refine ⟨step_trace h, ?_⟩
  cases stepped_of_step h with
  | unread read => exact Or.inl read
  | unacted read acted =>
    exact Or.inr ⟨⟨_, read⟩, performAll_failure (fun _ => Node.actions_failure) acted⟩
  | unbranched read acted took => exact Or.inr ⟨⟨_, read⟩, branch_failure took⟩
  | unfollowed read acted took goes => exact Or.inr ⟨⟨_, read⟩, successor_failure goes⟩
  | lost read => exact Or.inr ⟨⟨_, read⟩, trivial⟩

end Progress

end EventFlow
