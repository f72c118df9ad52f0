import EventFlow.Proofs.Document.Stability
import EventFlow.Proofs.Edit.Upkeep
import EventFlow.Proofs.Run.Checked
import EventFlow.Proofs.Run.Path

/-!
Runs of well-formed flows of built-in types fail in their own ways only.

* `Node.exception?`: the exception that the computation of a node raises, by what it computes;
* `step_failed`, `step_exception`: a step fails at an input or with a fault of its node, and an
  exception becomes the cause of such a fault;
* `Contained`: what that means for a whole run, kept by every step;
* `Editor.Made`: flows that were loaded or created, and what editing and copying make of them;
* `wellFormed_safe`: these are well-formed, and in the runs of well-formed flows every look-up finds
  something and every exception is contained.
-/

namespace EventFlow

/-- The exception with which the making of a text ends, if it ends with one. -/
def Worded.exception? {α : Type} : Worded α → Option Cause
  | .error error => some (.wording error)
  | .ok _ => none

/-- The exception with which an operator ends, if it ends with one. -/
def Operator.exception? {α : Type} : Operator.Result α → Option Cause
  | .error (.arithmetic error) => some (.arithmetic error)
  | .error (.wording error) => some (.wording error)
  | _ => none

namespace Node

/-- The exception that the computation of a node raises: two numbers that cannot be added, an
operator that ends with one, or a value that is needed as a text and cannot be written. -/
def exception? (n : Node) (inputs : List Value) : Option Cause :=
  match n.type.computation, inputs with
  | .addition, [a, b] =>
    if a.isNumber && b.isNumber then Operator.exception? (Operator.arithmetic (sum a b)) else none
  | .binary, [a, b, op] => Operator.exception? (do Operator.binary a b (← operatorName op))
  | .unary, [a, op] => Operator.exception? (do Operator.unary a (← operatorName op))
  | .getVariable, [name] => Worded.exception? name.asText
  | .setVariable, [name, _] => Worded.exception? name.asText
  | .broadcast, [receiver, channel, text] =>
    if text = .absent then none else Worded.exception? (n.message receiver channel text)
  | .condition, condition :: _ =>
    if condition.asBoolean.isSome then none else Worded.exception? condition.format
  | _, _ => none

end Node

/-- A fault of a node on some inputs. Where something broke down, the node has raised it. -/
def Fault.OfNode (n : Node) (inputs : List Value) : Fault → Prop
  | brokenDown name cause => name = n.name ∧ n.exception? inputs = some cause
  | _ => True

/-- A failure that is a fault of a node. -/
def Failure.OfNode (n : Node) (inputs : List Value) : Failure → Prop
  | fault reason => reason.OfNode n inputs
  | _ => False

namespace Node

variable {n : Node} {inputs : List Value}

theorem writeResult_exception {result : Operator.Result Value} {cause : Cause}
    (h : Operator.exception? result = some cause) :
    n.writeResult result = [.fail (.broken n.name cause)] := by
  cases result with
  | ok value => cases h
  | error failure =>
    cases failure with
    | arithmetic raised | wording raised =>
      obtain rfl := Option.some.inj h
      rfl
    | divisionByZero | moduloByZero | unsupported => cases h

theorem writeResult_ofNode {result : Operator.Result Value} {failure : Failure}
    (raises : ∀ cause, Operator.exception? result = some cause → n.exception? inputs = some cause)
    (h : .fail failure ∈ n.writeResult result) : failure.OfNode n inputs := by
  cases result with
  | ok value => simp [writeResult] at h
  | error error =>
    obtain rfl : failure = .ofOperator n.name error := by simpa [writeResult] using h
    cases error with
    | arithmetic | wording => exact ⟨rfl, raises _ rfl⟩
    | divisionByZero | moduloByZero | unsupported => trivial

theorem add_exception {a b : Value} {cause : Cause} (numbers : a.isNumber && b.isNumber)
    (h : Operator.exception? (Operator.arithmetic (sum a b)) = some cause) :
    n.add a b = [.fail (.broken n.name cause)] := by
  have present : ¬(a = .absent || b = .absent) := by
    cases a <;> cases b <;> simp [Value.isNumber, Value.kind] at numbers ⊢
  unfold add
  rw [if_neg present, if_pos numbers]
  cases total : sum a b with
  | ok total' => rw [total] at h; cases h
  | error raised =>
    rw [total] at h
    obtain rfl := Option.some.inj h
    rfl

theorem add_ofNode {a b : Value} {failure : Failure}
    (raises : ∀ error, (a.isNumber && b.isNumber) = true → sum a b = .error error →
      n.exception? inputs = some (.arithmetic error))
    (h : .fail failure ∈ n.add a b) : failure.OfNode n inputs := by
  unfold add at h
  split at h
  · obtain rfl : failure = _ := by simpa using h
    trivial
  · split at h
    · rename_i numbers
      split at h
      · simp at h
      · rename_i error total
        obtain rfl : failure = _ := by simpa using h
        exact ⟨rfl, raises error numbers total⟩
    · obtain rfl : failure = _ := by simpa using h
      trivial

theorem variableName_exception {name : Value} {cause : Cause}
    (h : Worded.exception? name.asText = some cause) :
    n.variableName name = .error (.broken n.name cause) := by
  unfold variableName
  cases written : name.asText with
  | ok text => rw [written] at h; cases h
  | error error =>
    rw [written] at h
    obtain rfl := Option.some.inj h
    rfl

theorem variableName_ofNode {name : Value} {failure : Failure}
    (raises : n.exception? inputs = Worded.exception? name.asText)
    (h : n.variableName name = .error failure) : failure.OfNode n inputs := by
  unfold variableName at h
  split at h
  · rename_i error written
    cases h
    exact ⟨rfl, by rw [raises, written]; rfl⟩
  · split at h
    · cases h; trivial
    · cases h

/-- A node that raises an exception comes to nothing else: its only action is to fail with it, or
its choice of a branch fails so and it does nothing before. -/
theorem exception_cases {cause : Cause} (h : n.exception? inputs = some cause) :
    (∀ bindings, n.actions bindings inputs = [.fail (.broken n.name cause)]) ∨
      (∀ bindings, n.actions bindings inputs = []) ∧
        n.select inputs = .error (.broken n.name cause) := by
  unfold exception? at h
  split at h
  · rename_i a b computation
    split at h
    · rename_i numbers
      left
      intro bindings
      simp only [actions, computation]
      exact add_exception numbers h
    · cases h
  · rename_i computation
    left
    intro bindings
    simp only [actions, computation]
    exact writeResult_exception h
  · rename_i computation
    left
    intro bindings
    simp only [actions, computation]
    exact writeResult_exception h
  · rename_i name computation
    left
    intro bindings
    simp only [actions, computation, readVariable, variableName_exception h]
  · rename_i name value computation
    left
    intro bindings
    simp only [actions, computation, writeVariable, variableName_exception h]
  · rename_i receiver channel text computation
    split at h
    · cases h
    · rename_i given
      left
      intro bindings
      cases said : n.message receiver channel text with
      | ok message => rw [said] at h; cases h
      | error error =>
        rw [said] at h
        obtain rfl := Option.some.inj h
        simp only [actions, computation, sendMessage, given, said, ↓reduceIte]
  · rename_i condition rest computation
    split at h
    · cases h
    · rename_i unsure
      right
      rw [Option.not_isSome_iff_eq_none] at unsure
      cases written : condition.format with
      | ok shown => rw [written] at h; cases h
      | error error =>
        rw [written] at h
        obtain rfl := Option.some.inj h
        refine ⟨fun bindings => ?_, ?_⟩
        · simp only [actions, computation]
        · simp only [select, computation, unsure, written]
  · cases h

/-- The failures of a node of a built-in type are its faults. -/
theorem actions_ofNode (builtin : n.type ∈ Catalog.standard) {bindings : Bindings}
    {failure : Failure} (h : .fail failure ∈ n.actions bindings inputs) :
    failure.OfNode n inputs := by
  have kinds := NodeType.computation_of_builtin builtin
  simp only [List.mem_cons, List.not_mem_nil, or_false] at kinds
  unfold actions at h
  split at h
  · rename_i computation
    refine add_ofNode ?_ h
    intro error numbers total
    simp only [exception?, computation, numbers, total]
    rfl
  · rename_i computation
    refine writeResult_ofNode ?_ h
    intro error raised
    simpa only [exception?, computation] using raised
  · rename_i computation
    refine writeResult_ofNode ?_ h
    intro error raised
    simpa only [exception?, computation] using raised
  · rename_i computation
    simp only [readVariable] at h
    split at h
    · rename_i refused
      obtain rfl : failure = _ := by simpa using h
      exact variableName_ofNode (by simp only [exception?, computation]) refused
    · simp at h
  · rename_i computation
    simp only [writeVariable] at h
    split at h
    · rename_i refused
      obtain rfl : failure = _ := by simpa using h
      exact variableName_ofNode (by simp only [exception?, computation]) refused
    · simp at h
  · rename_i computation
    simp only [sendMessage] at h
    split at h
    · obtain rfl : failure = _ := by simpa using h
      trivial
    · rename_i given
      split at h
      · simp at h
      · rename_i error said
        obtain rfl : failure = _ := by simpa using h
        refine ⟨rfl, ?_⟩
        simp only [exception?, computation, given, said, ↓reduceIte]
        rfl
  · simp [List.mem_mapIdx] at h
  · simp at h
  · rename_i computation
    simp [computation] at kinds
  · simp at h

theorem select_ofNode (builtin : n.type ∈ Catalog.standard) {failure : Failure}
    (h : n.select inputs = .error failure) : failure.OfNode n inputs := by
  have kinds := NodeType.computation_of_builtin builtin
  simp only [List.mem_cons, List.not_mem_nil, or_false] at kinds
  unfold select at h
  split at h
  · rename_i condition _ computation
    split at h
    · cases h
    · rename_i unsure
      split at h
      · cases h; trivial
      · rename_i error written
        cases h
        refine ⟨rfl, ?_⟩
        simp only [exception?, computation, unsure, written, Option.isSome_none]
        rfl
  · rename_i computation
    simp [computation] at kinds
  · rename_i computation
    simp [computation] at kinds
  · cases h

/-- The branches that nodes of built-in types choose are the first and the second. -/
theorem select_brief (builtin : n.type ∈ Catalog.standard) {b : Int}
    (h : n.select inputs = .ok b) : EventFlow.Brief b := by
  have kinds := NodeType.computation_of_builtin builtin
  simp only [List.mem_cons, List.not_mem_nil, or_false] at kinds
  have low : b = 0 ∨ b = 1 := by
    unfold select at h
    split at h
    · split at h
      · rename_i chosen _
        cases h
        cases chosen <;> simp
      · split at h <;> cases h
    · rename_i computation
      simp [computation] at kinds
    · cases h
    · cases h
      exact Or.inl rfl
  rcases low with rfl | rfl <;> exact brief_of_natAbs_le (by decide)

end Node

namespace Progress

/-- Actions that write existing outputs only fail as one of them says. -/
theorem fail_mem_of_performAll {p q : Progress} {listener : Listener} {node : Node}
    {actions : List Action} {failure : Failure}
    (writes : ∀ (index : Int) value, .write index value ∈ actions →
      0 ≤ index ∧ index < node.outputCount)
    (failed : p.performAll listener node actions = (q, some failure)) :
    .fail failure ∈ actions := by
  induction actions generalizing p with
  | nil => cases failed
  | cons action rest ih =>
    have others : ∀ (index : Int) value, .write index value ∈ rest →
        0 ≤ index ∧ index < node.outputCount :=
      fun index value h => writes index value (List.mem_cons_of_mem _ h)
    unfold performAll at failed
    cases action with
    | write index value =>
      have inside := writes index value List.mem_cons_self
      simp only [perform, inside, decide_true, Bool.and_self, ↓reduceIte] at failed
      exact List.mem_cons_of_mem _ (ih others failed)
    | bind | send => exact List.mem_cons_of_mem _ (ih others failed)
    | fail _ =>
      cases failed
      exact List.mem_cons_self

section Steps

variable {flow : Flow} {listener : Listener} {node : Node} {p q : Progress}

/-- The host has to say something in a step that it cannot say: which input gives no value, or where
the step leads. -/
def Speechless (flow : Flow) (before : List Status) (node : Node) : Prop :=
  FirstFails flow before node.inputs .unsaid ∨ ∃ b ∈ node.next, Unsaid flow b

/-- A step fails at an input, for want of words, or else with a fault of its node on the inputs that
it read. -/
theorem step_failed (known : p.Known flow) (builtin : node.type ∈ Catalog.standard)
    {failure : Failure} (h : p.step flow listener node = (q, .error failure)) :
    failure.OfInput ∨ (failure = .unsaid ∧ Speechless flow p.trace.toList node) ∨
      ∃ inputs, node.inputs.mapM (resolve flow p) = .ok inputs ∧ failure.OfNode node inputs := by
  cases stepped_of_step h with
  | unread read =>
    obtain ⟨-, bad, -, -, -, fails⟩ := (List.mapM_eq_error_iff _ _ _).mp read
    rcases resolve_failure fails with input | rfl
    · exact Or.inl input
    · exact Or.inr (Or.inl ⟨rfl, Or.inl ((known.firstFails_iff _ _).mpr read)⟩)
  | unacted read acted =>
    have failed := fail_mem_of_performAll (fun _ _ => Node.actions_write builtin) acted
    exact Or.inr (Or.inr ⟨_, read, Node.actions_ofNode builtin failed⟩)
  | unbranched read acted took =>
    refine Or.inr (Or.inr ⟨_, read, ?_⟩)
    unfold branch at took
    split at took
    · cases took
    · cases chosen : node.select _ with
      | ok b => rw [chosen] at took; cases took
      | error g => rw [chosen] at took; cases took; exact Node.select_ofNode builtin chosen
  | @unfollowed _ _ taken _ read acted took goes =>
    refine Or.inr (Or.inr ⟨_, read, ?_⟩)
    cases taken with
    | none => cases goes
    | some b =>
      unfold branch at took
      split at took
      · cases took
      · obtain ⟨_, chosen, same⟩ := Except.exists_of_map_eq_ok took
        cases same
        simp only [successor] at goes
        split at goes
        · cases goes
        · rw [Failure.showing_brief (Node.select_brief builtin chosen)] at goes
          cases goes
          trivial
  | @lost _ _ _ next read acted took goes unsaid =>
    have leads : next ∈ node.next := mem_next_of_successor goes unsaid.natural
    exact Or.inr (Or.inl ⟨rfl, Or.inr ⟨next, leads, unsaid⟩⟩)

/-- An exception ends the step of its node. -/
theorem step_exception (branches : 0 < node.branchCount) {inputs : List Value}
    (read : node.inputs.mapM (resolve flow p) = .ok inputs)
    {cause : Cause} (raised : node.exception? inputs = some cause) :
    ∃ q, p.step flow listener node = (q, .error (.broken node.name cause)) := by
  rcases node.exception_cases raised with fails | ⟨idle, unsure⟩
  · refine ⟨p.shows node inputs, Stepped.step_eq (.unacted read ?_)⟩
    rw [fails p.bindings]
    rfl
  · have acted : p.Acted listener node inputs (p.shows node inputs) := by
      rw [Acted, idle p.bindings]
      rfl
    refine ⟨p.shows node inputs, Stepped.step_eq (.unbranched read acted ?_)⟩
    rw [branch, if_neg (Nat.ne_of_gt branches), unsure]
    rfl

end Steps

/-- No node raised an exception in the step that an entry shows. -/
def Unbroken (flow : Flow) (p : Progress) : Prop :=
  ∀ s ∈ p.trace.toList, ∀ node, flow.node? s.node = some node → node.exception? s.inputs = none

theorem Unbroken.step {flow : Flow} {listener : Listener} {node : Node} {p q : Progress}
    {next? : Option Node} (h : p.Unbroken flow) (known : p.Known flow)
    (branches : 0 < node.branchCount)
    (there : flow.node? node.id = some node)
    (ran : p.step flow listener node = (q, .ok next?)) : (q.record node.id).Unbroken flow := by
  obtain ⟨s, status⟩ := known.status there
  obtain ⟨inputs, taken, next, read, -, -, -, trace, -⟩ := step_records status ran
  have own : s.node = node.id := status?_node status
  intro t entry m present
  rw [trace] at entry
  rcases List.mem_append.mp entry with entry | entry
  · exact h t entry m present
  · obtain rfl := List.mem_singleton.mp entry
    obtain rfl : node = m := by
      rw [show (s.ran _ _ _ _).node = node.id from own, there] at present
      exact Option.some.inj present
    change node.exception? inputs = none
    cases raised : node.exception? inputs with
    | none => rfl
    | some error =>
      obtain ⟨q', broken⟩ : ∃ q', p.step flow listener node = (q', _) :=
        step_exception branches read raised
      rw [ran] at broken
      cases broken

theorem reaches_unbroken {flow : Flow} {listener : Listener} {start node : Node}
    {payload : List Value} {bindings : Bindings} {k : Nat} {p : Progress}
    (branches : ∀ n ∈ flow.nodes, 0 < n.branchCount) (begins : flow.startNode? = some start)
    (reached : Reaches flow listener start (initial flow payload bindings) k node p) :
    p.Unbroken flow := by
  induction reached with
  | start =>
    intro s entry
    simp [initial, modify] at entry
  | step before ran ih =>
    obtain ⟨known, present, -⟩ := reaches_known begins before
    exact ih.step known (branches _ (Flow.mem_of_node? present).1) present ran

end Progress

/-- The words for the failures of a run of built-in types. -/
def Failure.words : List String :=
  ["MissingStartNodeError", "DanglingReferenceError", "NotExecutedError", "DeadLoopError",
    "NodeFaultError"]

theorem Failure.OfInput.word_mem {failure : Failure} (h : failure.OfInput) :
    failure.word ∈ words ∧ failure.cause? = none := by
  cases failure with
  | danglingNode | danglingOutput | notExecuted => exact ⟨by simp [word, words], rfl⟩
  | deadLoop | missingStart | fault | raised | unexpected => exact h.elim

theorem Failure.OfNode.word_mem {n : Node} {inputs : List Value} {failure : Failure}
    (h : failure.OfNode n inputs) : failure.word ∈ words := by
  cases failure with
  | fault => simp [word, words]
  | danglingNode | danglingOutput | notExecuted | deadLoop | missingStart | raised | unexpected =>
    exact h.elim

/-- A fault of a node has no other cause than the exception that the node raised. -/
theorem Failure.OfNode.of_cause {n : Node} {inputs : List Value} {failure : Failure}
    (h : failure.OfNode n inputs) {cause : Cause} (caused : failure.cause? = some cause) :
    n.exception? inputs = some cause ∧ failure = .broken n.name cause := by
  cases failure with
  | fault reason =>
    cases reason with
    | brokenDown name raised =>
      obtain ⟨rfl, exception⟩ := h
      obtain rfl := Option.some.inj caused
      exact ⟨exception, rfl⟩
    | noBranch | operator | missingOperand | notAddable | noVariableName | noMessage | notBoolean
      | raised => cases caused
  | danglingNode | danglingOutput | notExecuted | deadLoop | missingStart | raised | unexpected =>
    exact h.elim

namespace Run

/-- A run fails in its own ways only, and every exception of a node is the cause of a fault that
names the node. -/
structure Contained (r : Run) : Prop where
  kind : ∀ failure, r.failure = some failure → failure.word ∈ Failure.words
  /-- No step that the trace shows raised an exception. -/
  unbroken : ∀ s ∈ r.trace, ∀ node, r.flow.node? s.node = some node →
    node.exception? s.inputs = none
  /-- If the node that is to run raises an exception on the inputs that it reads, the run fails
  so. -/
  raised : r.failure ≠ some (.showing r.limit (.deadLoop r.flow.name r.limit)) →
    ∀ node, upcoming? r.flow r.trace = some node →
    ∀ inputs, List.Forall₂ (fun source value => Reads r.flow r.trace source (.ok value)) node.inputs
      inputs →
    ∀ cause, node.exception? inputs = some cause →
    ∃ failure, r.failure = some failure ∧ failure.word = "NodeFaultError" ∧
      failure.message = "Node '" ++ node.name ++ "' failed: " ++ cause.message ∧
      failure.cause? = some cause
  /-- A cause is an exception of the node that is to run, unless the failure is an unexpected
  one. -/
  caused : ∀ failure cause, r.failure = some failure → failure.cause? = some cause →
    failure = .unexpected cause ∨
    ∃ node inputs, upcoming? r.flow r.trace = some node ∧
      List.Forall₂ (fun source value => Reads r.flow r.trace source (.ok value)) node.inputs
        inputs ∧
      node.exception? inputs = some cause ∧ failure = .broken node.name cause
  /-- There are unexpected failures only where an integer is too long to be said: the limit that is
  used up, or an id or an index that the node which is to run has to be blamed for. -/
  unexpected : ∀ cause, r.failure = some (.unexpected cause) →
    cause = .wording .tooManyDigits ∧
      ((¬Brief r.limit ∧ (r.stepCount : Int) = max 0 (r.limit + 1)) ∨
        ∃ node, upcoming? r.flow r.trace = some node ∧
          Progress.Speechless r.flow r.trace node)

section Ending

variable {r : Run} {node : Node} {p q : Progress}

theorem contained_missing (begins : r.flow.startNode? = none) :
    (r.concluded (⟨r.flow.nodes.map Status.fresh, [], #[], 0, #[], #[]⟩,
      some (.missingStart r.flow.name))).Contained where
  kind failure same := by
    obtain rfl := Option.some.inj same
    simp [Failure.word, Failure.words]
  unbroken s entry := by simp [concluded] at entry
  raised _ node coming := by
    have none : upcoming? r.flow [] = none := begins
    cases none.symm.trans coming
  caused failure cause same caused := by
    obtain rfl := Option.some.inj same
    cases caused
  unexpected cause same := by cases same

theorem contained_cutOff (unbroken : p.Unbroken r.flow)
    (used : (p.steps : Int) = max 0 (r.limit + 1)) :
    (r.concluded (p, some (.showing r.limit (.deadLoop r.flow.name r.limit)))).Contained := by
  refine ⟨?_, unbroken, fun whole => absurd rfl whole, ?_, ?_⟩
  all_goals
    rcases Failure.showing_cases r.limit (.deadLoop r.flow.name r.limit) with
      ⟨brief, said⟩ | ⟨long, unsaid⟩
  · intro failure same
    obtain rfl := Option.some.inj same
    rw [said]
    simp [Failure.word, Failure.words]
  · intro failure same
    obtain rfl := Option.some.inj same
    rw [unsaid]
    simp [Failure.unsaid, Failure.word, Failure.words]
  · intro failure cause same caused
    obtain rfl := Option.some.inj same
    rw [said] at caused
    cases caused
  · intro failure cause same caused
    obtain rfl := Option.some.inj same
    rw [unsaid] at caused ⊢
    obtain rfl := Option.some.inj caused
    exact Or.inl rfl
  · intro cause same
    cases said.symm.trans (Option.some.inj same)
  · intro cause same
    cases unsaid.symm.trans (Option.some.inj same)
    exact ⟨rfl, Or.inl ⟨long, used⟩⟩

/-- A run that fails at a step shows as its cause what the node of the step raised, and only
that. -/
theorem contained_failed (unbroken : p.Unbroken r.flow) (known : p.Known r.flow)
    (builtin : node.type ∈ Catalog.standard)
    (coming : upcoming? r.flow p.trace.toList = some node) {failure : Failure}
    (ran : p.step r.flow r.listener node = (q, .error failure)) :
    (r.concluded (q, some failure)).Contained := by
  have unchanged : (r.concluded (q, some failure)).trace = p.trace.toList :=
    congrArg Array.toList (Progress.step_trace ran)
  have reads (inputs : List Value) :
      List.Forall₂ (fun source value => Reads r.flow p.trace.toList source (.ok value)) node.inputs
        inputs ↔ node.inputs.mapM (Progress.resolve r.flow p) = .ok inputs := by
    simp only [List.mapM_eq_ok_iff, known.reads_iff]
  have failed := Progress.step_failed known builtin ran
  refine ⟨?_, ?_, ?_, ?_, ?_⟩
  · intro other same
    obtain rfl : failure = other := Option.some.inj same
    rcases failed with input | ⟨rfl, -⟩ | ⟨inputs, -, fault⟩
    · exact input.word_mem.1
    · simp [Failure.unsaid, Failure.word, Failure.words]
    · exact fault.word_mem
  · rw [unchanged]
    exact unbroken
  · rw [unchanged]
    intro _ next coming' inputs read cause raised
    obtain rfl : node = next := Option.some.inj (coming.symm.trans coming')
    obtain ⟨q', broken⟩ : ∃ q', p.step r.flow r.listener node = (q', _) :=
      Progress.step_exception (NodeType.branches_of_builtin builtin) ((reads inputs).mp read) raised
    rw [ran] at broken
    obtain rfl : failure = _ := Except.error.inj (Prod.mk.inj broken).2
    exact ⟨_, rfl, rfl, rfl, rfl⟩
  · rw [unchanged]
    intro other cause same caused
    obtain rfl : failure = other := Option.some.inj same
    rcases failed with input | ⟨rfl, -⟩ | ⟨inputs, read, fault⟩
    · rw [input.word_mem.2] at caused
      cases caused
    · obtain rfl := Option.some.inj caused
      exact Or.inl rfl
    · obtain ⟨raised, is⟩ := fault.of_cause caused
      exact Or.inr ⟨node, inputs, coming, (reads inputs).mpr read, raised, is⟩
  · rw [unchanged]
    intro cause same
    obtain rfl : failure = .unexpected cause := Option.some.inj same
    rcases failed with input | ⟨unsaid, speechless⟩ | ⟨inputs, read, fault⟩
    · exact input.elim
    · cases unsaid
      exact ⟨rfl, Or.inr ⟨node, coming, speechless⟩⟩
    · exact fault.elim

theorem contained_finished (unbroken : p.Unbroken r.flow) (known : p.Known r.flow)
    (branches : 0 < node.branchCount) (present : r.flow.node? node.id = some node)
    (ran : p.step r.flow r.listener node = (q, .ok none)) :
    (r.concluded (q.record node.id, none)).Contained where
  kind failure same := by cases same
  unbroken := unbroken.step known branches present ran
  raised _ next coming := by
    have ends : upcoming? r.flow (q.record node.id).trace.toList = none :=
      known.upcoming?_step present ran
    cases ends.symm.trans coming
  caused failure cause same := by cases same
  unexpected cause same := by cases same

end Ending

/-- Every run of a flow of built-in types is contained. -/
theorem execute_contained (r : Run) (payload : List Value) (bindings : Bindings)
    (builtin : ∀ n ∈ r.flow.nodes, n.type ∈ Catalog.standard) :
    (r.execute payload bindings).1.Contained := by
  have branches : ∀ n ∈ r.flow.nodes, 0 < n.branchCount :=
    fun n hn => NodeType.branches_of_builtin (builtin n hn)
  have balanced := outcome_balanced r.flow r.limit r.listener payload bindings
  rw [execute_concluded]
  cases begins : r.flow.startNode? with
  | none =>
    rw [outcome_missing begins]
    exact contained_missing begins
  | some start =>
    obtain ⟨k, node, p, reached, ended⟩ :=
      outcome_ends begins r.limit r.listener payload bindings
    obtain ⟨known, present, coming⟩ := Progress.reaches_known begins reached
    have unbroken := Progress.reaches_unbroken branches begins reached
    obtain ⟨mem, -⟩ := Flow.mem_of_node? present
    have size := Progress.reaches_counts begins reached
    generalize outcome r.flow r.limit r.listener payload bindings = out at ended balanced
    cases ended with
    | cutOff used =>
      have steps : (p.steps : Int) = max 0 (r.limit + 1) := by
        rw [← allowance_eq, ← used, ← size]
        exact congrArg Nat.cast balanced
      exact contained_cutOff unbroken steps
    | failed early ran => exact contained_failed unbroken known (builtin node mem) coming ran
    | finished early ran =>
      exact contained_finished unbroken known (branches node mem) present ran

end Run

/-- The editors of flows that were loaded or created, and what requests and copies make of them. -/
inductive Editor.Made (c : Catalog) : Editor → Prop
  | loaded {version : String} {text : List Char} {f : Flow}
    (read : (Flow.read c version text).result = .ok f) :
    Made c (.ofFlow f)
  | created {name type startName : String} {e : Editor}
    (created : Editor.create c name type startName = .ok e) : Made c e
  | handled {e : Editor} (made : Made c e) (request : Editor.Request) :
    Made c (e.handle c request)
  | copied {e : Editor} {g : Flow} (made : Made c e) (copied : e.flow.copy c = .ok g) :
    Made c (.ofFlow g)

theorem Editor.create_whole {c : Catalog} {name type startName : String} {e : Editor}
    (created : Editor.create c name type startName = .ok e) : e.Whole c := by
  obtain ⟨nodeType, found, rfl⟩ := Except.exists_of_map_eq_ok created
  obtain ⟨found, -⟩ := Editor.find?_of_eventType found
  refine Editor.whole_ofFlow ⟨List.nodup_singleton _, fun n hn => ?_⟩
  rw [List.mem_singleton.mp hn]
  exact Node.whole_fresh found 1 startName

theorem Editor.Made.whole {c : Catalog} {e : Editor} (made : e.Made c) : e.Whole c := by
  induction made with
  | loaded read =>
    have sound := (Flow.read_settled read).1.sound
    exact Editor.whole_ofFlow ⟨sound.distinct, fun n hn =>
      ⟨sound.fits n hn, (sound.registered n hn).current⟩⟩
  | created created => exact Editor.create_whole created
  | handled _ request ih => exact (Editor.whole_kept c).handle ih request
  | copied _ copied ih =>
    obtain rfl := Flow.copy_current (fun n hn => (ih.flow.nodes n hn).current) copied
    exact Editor.whole_ofFlow ih.flow

/-- **Loading, creating, editing and copying give well-formed flows, and no look-up in their runs
misses.** The runs of well-formed flows of built-in types end in their own ways only: each exception
that a node raises becomes the cause of a fault that names the node. -/
theorem wellFormed_safe (c : Catalog) :
    (∀ e, Editor.Made c e → e.flow.WellFormed) ∧
    (∀ f : Flow, f.WellFormed → (∀ n ∈ f.nodes, n.Current c) →
      (∀ requests, (Editor.after c f requests).flow.WellFormed) ∧
      ∀ g, f.copy c = .ok g → g.WellFormed) ∧
    (∀ r : Run, r.flow.WellFormed → (∀ n ∈ r.flow.nodes, n.type ∈ Catalog.standard) →
      ∀ payload bindings,
        Checked.outcome r.flow r.limit r.listener payload bindings =
          .ok (Run.outcome r.flow r.limit r.listener payload bindings) ∧
        (r.execute payload bindings).1.Contained) := by
  refine ⟨fun e made => made.whole.flow.wellFormed, ?_, ?_⟩
  · intro f wellFormed current
    have whole : f.Whole c :=
      ⟨wellFormed.distinct, fun n hn => ⟨wellFormed.fits n hn, current n hn⟩⟩
    refine ⟨fun requests => (Editor.whole_after whole requests).flow.wellFormed, fun g copied => ?_⟩
    obtain rfl := Flow.copy_current current copied
    exact wellFormed
  · intro r wellFormed builtin payload bindings
    exact ⟨Checked.outcome_eq wellFormed builtin r.limit r.listener payload bindings,
      r.execute_contained payload bindings builtin⟩

/-- A flow that takes the root of its parameter. -/
def rootFlow : Flow where
  name := "root"
  nodes := [⟨1, .trigger, "start", [], [2]⟩,
    ⟨2, NodeType.unary, "root", [.output 1 1, .constant (.text "sqrt")], [-1]⟩]
  start := 1
  counter := 2

theorem wellFormed_safe_rootFlow :
    (∃ e, Editor.Made .standard e ∧ e.flow.nodes.length = 2 ∧ e.flow.WellFormed) ∧
      rootFlow.WellFormed ∧ (∀ n ∈ rootFlow.nodes, n.Current .standard) ∧
      (∀ n ∈ rootFlow.nodes, n.type ∈ Catalog.standard) ∧
      (Editor.after .standard rootFlow
        [.edit (.setConstant "root" 1 (.text "ln")), .undo]).flow.WellFormed ∧
      Checked.outcome rootFlow 5 .absent [.text "host", .int (-1)] [] =
        .ok (Run.outcome rootFlow 5 .absent [.text "host", .int (-1)] []) ∧
      ((Run.pending rootFlow 5 .absent).execute [.text "host", .int (-1)] []).1.Contained := by
  have wellFormed : rootFlow.WellFormed := by
    refine ⟨by decide, ?_⟩
    simp only [rootFlow, List.forall_mem_cons]
    exact ⟨⟨rfl, rfl⟩, ⟨rfl, rfl⟩, by simp⟩
  have registered : ∀ n ∈ rootFlow.nodes, n.Registered .standard := by decide
  have current : ∀ n ∈ rootFlow.nodes, n.Current .standard := fun n hn => (registered n hn).current
  have builtin : ∀ n ∈ rootFlow.nodes, n.type ∈ Catalog.standard := by decide
  obtain ⟨made, edits, runs⟩ := wellFormed_safe .standard
  obtain ⟨found, contained⟩ :=
    runs (.pending rootFlow 5 .absent) wellFormed builtin [.text "host", .int (-1)] []
  -- a flow that is created and then edited
  have first : Editor.create .standard "root" "TriggerNode" "start" =
      .ok (.ofFlow (Editor.startFlow "root" .trigger "start")) := rfl
  have second := (Editor.Made.created first).handled
    (.edit (.createNode "UnaryArithmeticNode" "root"))
  exact ⟨⟨_, second, rfl, made _ second⟩, wellFormed, current, builtin,
    (edits rootFlow wellFormed current).1 _, found, contained⟩

/-- A copy from a registry that has another type under a key has nodes without the slots of their
types; and a reference to an id that cannot be said ends a run by an unexpected failure. -/
theorem wellFormed_unsafe :
    (rootFlow.WellFormed ∧
      ∃ g,
        rootFlow.copy [.trigger, { NodeType.unary with layout := ⟨"", "", [], [], []⟩ }] = .ok g ∧
        ¬g.WellFormed) ∧
    let f := Run.readingFlow (10 ^ Text.digitLimit)
    f.WellFormed ∧ (∀ n ∈ f.nodes, n.type ∈ Catalog.standard) ∧
      ((Run.pending f 5 .absent).execute [] []).1.failure =
        some (.unexpected (.wording .tooManyDigits)) := by
  refine ⟨⟨?_, _, rfl, fun wellFormed => ?_⟩, ?_⟩
  · refine ⟨by decide, ?_⟩
    simp only [rootFlow, List.forall_mem_cons]
    exact ⟨⟨rfl, rfl⟩, ⟨rfl, rfl⟩, by simp⟩
  · obtain ⟨inputs, -⟩ := wellFormed.fits _ (.tail _ (.head _))
    exact absurd inputs (by decide)
  · have long := not_brief_limit
    generalize (10 ^ Text.digitLimit : Int) = missing at long
    obtain ⟨failed, -⟩ := Run.execute_readingFlow long
    refine ⟨⟨?_, ?_⟩, ?_, failed⟩
    · simp [Flow.Distinct, Run.readingFlow, Run.readingNode]
    · simp only [Run.readingFlow, Run.readingNode, List.forall_mem_cons]
      exact ⟨⟨rfl, rfl⟩, ⟨rfl, rfl⟩, by simp⟩
    · simp only [Run.readingFlow, Run.readingNode, List.forall_mem_cons]
      exact ⟨by decide, by decide, by simp⟩

end EventFlow
