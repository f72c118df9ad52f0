import EventFlow.Proofs.Run.Limit

/-!
Runs told ahead: from what holds when a node is about to run, what holds when another one is, a
number of steps later.

* `Passage`: such a way, composed by `Passage.trans` and round a loop by `Passage.iterate`;
* `Passage.of_step`, `At.passage`: the passage of one step, from what its node reads and does;
* `Reaches.walk_eq`, `Reaches.walk_cutOff`: what a walk does that may take more steps than a
  passage, or fewer.
-/

namespace EventFlow.Progress

/-- A node has run, and these are its outputs. -/
def Holds (p : Progress) (id : Int) (values : List Value) : Prop :=
  ∃ s, p.status? id = some s ∧ s.executed = true ∧ s.outputs = values

/-- What a step of a node on some inputs leaves behind. -/
structure After (flow : Flow) (node : Node) (inputs : List Value) (p q : Progress) : Prop where
  known : q.Known flow
  own : ∀ s, p.status? node.id = some s →
    q.Holds node.id ((node.actions p.bindings inputs).foldl Action.onOutputs s.outputs)
  others : ∀ {id values}, id ≠ node.id → p.Holds id values → q.Holds id values
  bindings : q.bindings = (node.actions p.bindings inputs).foldl Action.onBindings p.bindings
  messages : q.messages.toList =
    p.messages.toList ++ (node.actions p.bindings inputs).filterMap Action.message?

section Step

variable {flow : Flow} {node : Node} {p : Progress}

/-- A node that has its inputs, does its actions and has a branch to take makes a step. -/
theorem step_after {listener : Listener} (discreet : listener.IsDiscreet) (known : p.Known flow)
    (there : flow.node? node.id = some node)
    {inputs : List Value} {taken : Option Int} {next : Int}
    (read : node.inputs.mapM (resolve flow p) = .ok inputs)
    (acts : (performAll listener node (p.shows node inputs)
      (node.actions p.bindings inputs)).2 = none)
    (took : branch node inputs = .ok taken) (goes : successor node taken = .ok next)
    (nameable : Nameable flow next) :
    ∃ q, p.step flow listener node = (q, .ok (onward flow next)) ∧
      After flow node inputs p (q.record node.id) := by
  have acted : p.Acted listener node inputs (performAll listener node (p.shows node inputs)
      (node.actions p.bindings inputs)).1 := Prod.ext rfl acts
  have stepped : p.Stepped flow listener node _ (.ok (onward flow next)) :=
    .done read acted took goes nameable
  have ran := stepped.step_eq
  refine ⟨_, ran, ?_⟩
  obtain ⟨s, status⟩ := known.status there
  obtain ⟨inputs', taken', next', read', -, -, -, -, statuses⟩ := step_records status ran
  obtain rfl : inputs = inputs' := Except.ok.inj (read.symm.trans read')
  obtain ⟨inputs', acted', read', done, bound, sent⟩ := step_acted ran
  obtain rfl : inputs = inputs' := Except.ok.inj (read.symm.trans read')
  obtain ⟨boundThen, sentThen⟩ := done.effects
  obtain ⟨boundNow, sentNow⟩ := record_effects _ node.id
  refine ⟨known.step there ran, ?_, ?_, ?_, ?_⟩
  · intro t status'
    obtain rfl : s = t := Option.some.inj (status.symm.trans status')
    exact ⟨_, (statuses node.id).trans (if_pos rfl), rfl, rfl⟩
  · rintro id values other ⟨t, status', executed, outputs⟩
    exact ⟨t, ((statuses id).trans (if_neg other)).trans status', executed, outputs⟩
  · rw [boundNow, bound, boundThen]
  · rw [sentNow, sent, sentThen discreet]

end Step

section Passage

variable {flow : Flow} {listener : Listener} {start node next : Node} {first p q : Progress}

theorem Reaches.trans {j k : Nat} (before : Reaches flow listener start first j node p)
    (later : Reaches flow listener node p k next q) :
    Reaches flow listener start first (j + k) next q := by
  induction later with
  | start => exact before
  | step _ ran ih => exact ih.step ran

/-- Every step on the way leaves an entry. -/
theorem Reaches.size {k : Nat} (reached : Reaches flow listener start first k node p)
    (known : first.Known flow) (there : flow.node? start.id = some start) :
    p.Known flow ∧ flow.node? node.id = some node ∧ p.trace.size = first.trace.size + k := by
  induction reached with
  | start => exact ⟨known, there, rfl⟩
  | step _ ran ih =>
    obtain ⟨known, present, size⟩ := ih
    refine ⟨known.step present ran, known.present_next present ran, ?_⟩
    rw [known.counts present ran, size, Nat.add_assoc]

/-- A walk that comes to a node goes on from there with the steps that are left. -/
theorem Reaches.walk_eq {k : Nat} (reached : Reaches flow listener start first k node p)
    (limit : Int) (steps : Nat) :
    walk flow listener limit (k + steps) start first = walk flow listener limit steps node p := by
  induction reached generalizing steps with
  | start => rw [Nat.zero_add]
  | step _ ran ih =>
    rw [Nat.add_assoc, Nat.add_comm 1, ih]
    simp only [walk, ran]

/-- If `node` is about to run in a progress with `P`, then after some steps `next` is about to run
in a progress with `Q`. -/
def Passage (flow : Flow) (listener : Listener) (node : Node) (P : Progress → Prop) (steps : Nat)
    (next : Node) (Q : Progress → Prop) : Prop :=
  ∀ p, P p → ∃ q, Reaches flow listener node p steps next q ∧ Q q

theorem Passage.refl (node : Node) (P : Progress → Prop) : Passage flow listener node P 0 node P :=
  fun p h => ⟨p, .start, h⟩

theorem Passage.trans {a b c : Node} {P Q R : Progress → Prop} {j k : Nat}
    (h : Passage flow listener a P j b Q) (later : Passage flow listener b Q k c R) :
    Passage flow listener a P (j + k) c R := by
  intro p holds
  obtain ⟨q, reached, holds⟩ := h p holds
  obtain ⟨r, reached', holds⟩ := later q holds
  exact ⟨r, reached.trans reached', holds⟩

/-- Round a loop whose invariant counts down; the last round may lead somewhere else. -/
theorem Passage.iterate (nodes : Nat → Node) (I : Nat → Progress → Prop) {k : Nat} (count : Nat)
    (round : ∀ i < count, Passage flow listener (nodes (i + 1)) (I (i + 1)) k (nodes i) (I i)) :
    Passage flow listener (nodes count) (I count) (k * count) (nodes 0) (I 0) := by
  induction count with
  | zero => exact .refl (nodes 0) (I 0)
  | succ count ih =>
    have first := round count (Nat.lt_succ_self count)
    have rest := ih fun i fewer => round i (Nat.lt_succ_of_lt fewer)
    rw [Nat.mul_succ, Nat.add_comm (k * count)]
    exact first.trans rest

/-- One step, from what its node reads and does. -/
theorem Passage.of_step (discreet : listener.IsDiscreet) {P Q : Progress → Prop}
    {inputs : List Value} {actions : List Action}
    {taken : Option Int} {id : Int} (there : flow.node? node.id = some node)
    (known : ∀ p, P p → p.Known flow)
    (read : ∀ p, P p → node.inputs.mapM (resolve flow p) = .ok inputs)
    (acts : ∀ p, P p → node.actions p.bindings inputs = actions)
    (fine : ∀ p, (performAll listener node p actions).2 = none)
    (took : branch node inputs = .ok taken) (goes : successor node taken = .ok id)
    (leads : onward flow id = some next)
    (left : ∀ p q, P p → After flow node inputs p q → Q q) :
    Passage flow listener node P 1 next Q := by
  intro p holds
  have acted := acts p holds
  obtain ⟨q, ran, after⟩ := step_after discreet (known p holds) there (read p holds)
    (acted ▸ fine (p.shows node inputs)) took goes (nameable_of_onward leads)
  rw [leads] at ran
  exact ⟨q.record node.id, .step .start ran, left p _ holds after⟩

/-- A walk that is cut off on the way has taken all its steps and sent no more messages than the way
has. -/
theorem Reaches.walk_cutOff {k : Nat} (reached : Reaches flow listener start first k node p)
    (discreet : listener.IsDiscreet) (known : first.Known flow) (balanced : first.Balanced)
    (there : flow.node? start.id = some start) {limit : Int} (brief : Brief limit)
    {steps : Nat} (few : steps ≤ k) :
    ∃ q, walk flow listener limit steps start first = (q, some (.deadLoop flow.name limit)) ∧
      q.trace.size = first.trace.size + steps ∧ q.messages.toList <+: p.messages.toList := by
  have longer := walk_longer listener brief limit few known balanced there
  have whole := reached.walk_eq limit 0
  rw [Nat.add_zero] at whole
  rw [whole, walk, Failure.showing_brief brief] at longer
  generalize walk flow listener limit steps start first = out at longer
  cases longer with
  | same uncut => exact absurd rfl uncut
  | cutOff taken _ grows => exact ⟨_, rfl, taken, grows.messages discreet⟩

end Passage

/-- A run that has sent nothing: its variables, and what some of its nodes put out. -/
structure At (flow : Flow) (values : Bindings) (held : List (Int × List Value)) (p : Progress) :
    Prop where
  known : p.Known flow
  bindings : p.bindings = values
  holds : ∀ h ∈ held, p.Holds h.1 h.2
  silent : p.messages.toList = []

/-- What a reference reads where the outputs of some nodes are known. -/
inductive ReadsHeld (flow : Flow) (held : List (Int × List Value)) : Reference → Value → Prop where
  | constant (value : Value) : ReadsHeld flow held (.constant value) value
  | output {id index : Int} {node : Node} {outputs : List Value} {value : Value}
      (there : flow.node? id = some node) (known : (id, outputs) ∈ held) (slot : 0 ≤ index)
      (gives : outputs[index.toNat]? = some value) : ReadsHeld flow held (.output id index) value

section At

variable {flow : Flow} {listener : Listener} {node next : Node} {values : Bindings}
  {held held' : List (Int × List Value)} {inputs out : List Value} {actions : List Action}
  {taken : Option Int} {id : Int} {p : Progress}

theorem At.resolve (h : At flow values held p) {reference : Reference} {value : Value}
    (reads : ReadsHeld flow held reference value) : p.resolve flow reference = .ok value := by
  cases reads with
  | constant => rfl
  | output there known slot gives =>
    obtain ⟨s, status, ran, rfl⟩ := h.holds _ known
    exact resolve_output there status ran slot gives

theorem At.read (h : At flow values held p)
    (reads : List.Forall₂ (ReadsHeld flow held) node.inputs inputs) :
    node.inputs.mapM (p.resolve flow) = .ok inputs :=
  (List.mapM_eq_ok_iff _ _ _).2 (reads.imp fun _ _ => h.resolve)

/-- One step of a node that sends nothing: it binds variables and puts out new values, and what the
others have put out stays. -/
theorem At.passage (discreet : listener.IsDiscreet) (there : flow.node? node.id = some node)
    (reads : List.Forall₂ (ReadsHeld flow held) node.inputs inputs)
    (acts : node.actions values inputs = actions)
    (fine : ∀ p, (performAll listener node p actions).2 = none)
    (quiet : actions.filterMap Action.message? = [])
    (writes : ∀ outputs : List Value, outputs.length = node.outputCount →
      actions.foldl Action.onOutputs outputs = out)
    (took : branch node inputs = .ok taken) (goes : successor node taken = .ok id)
    (leads : onward flow id = some next)
    (keeps : ∀ h ∈ held', h = (node.id, out) ∨ h ∈ held ∧ h.1 ≠ node.id) :
    Passage flow listener node (At flow values held) 1 next
      (At flow (actions.foldl Action.onBindings values) held') := by
  refine .of_step discreet there (fun p h => h.known) (fun p h => h.read reads)
    (fun p h => by rw [h.bindings, acts]) fine took goes leads ?_
  intro p q h after
  have acted : node.actions p.bindings inputs = actions := by rw [h.bindings, acts]
  refine ⟨after.known, ?_, ?_, ?_⟩
  · rw [after.bindings, acted, h.bindings]
  · intro known mem
    rcases keeps known mem with rfl | ⟨mem, other⟩
    · obtain ⟨s, status⟩ := h.known.status there
      have own := after.own s status
      rwa [acted, writes s.outputs (h.known.sized there status)] at own
    · exact after.others other (h.holds known mem)
  · rw [after.messages, acted, quiet, h.silent, List.append_nil]

end At

end EventFlow.Progress
