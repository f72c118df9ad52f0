import EventFlow.Proofs.Run.Course

/-!
The variables and messages of a run, told from its trace alone.

* `performAll_effects`: the actions of a node take effect one after the other, up to the first that
  fails;
* `step_refused`: a node of a built-in type that fails leaves no variable and no message behind;
* `Accounted`: the entries of a trace account for the variables and the messages, kept by every
  step;
* `execute_effects`: they do so at the end of every run that has a start;
* `execute_unaccounted`: they do not where a node cannot say where it leads, or a listener meddles
  with the messages.
-/

namespace EventFlow

namespace Bindings

theorem get_set (b : Bindings) (name : String) (value : Value) :
    (b.set name value).get name = value := by
  induction b with
  | nil => simp [set, get]
  | cons p rest ih =>
    obtain ⟨key, old⟩ := p
    unfold set
    by_cases same : key = name
    · subst same
      simp [get]
    · unfold get at ih
      rw [if_neg same, get, List.lookup_cons, beq_false_of_ne (Ne.symm same)]
      exact ih

theorem set_set (b : Bindings) (name : String) (old value : Value) :
    (b.set name old).set name value = b.set name value := by
  induction b with
  | nil => simp [set]
  | cons p rest ih =>
    obtain ⟨key, first⟩ := p
    by_cases same : key = name
    · simp [set, same]
    · simp [set, same, ih]

end Bindings

/-- The variables after an action. -/
def Action.onBindings (bindings : Bindings) : Action → Bindings
  | .bind name value => bindings.set name value
  | _ => bindings

/-- The message that an action sends. -/
def Action.message? : Action → Option Message
  | .send message => some message
  | _ => none

/-- An action that leaves the variables and the messages alone. -/
def Action.Quiet : Action → Prop
  | .write _ _ => True
  | .fail _ => True
  | _ => False

theorem Action.Quiet.onBindings {action : Action} (h : action.Quiet) (bindings : Bindings) :
    action.onBindings bindings = bindings := by
  cases action with
  | write | fail => rfl
  | bind | send => exact h.elim

theorem Action.Quiet.message? {action : Action} (h : action.Quiet) : action.message? = none := by
  cases action with
  | write | fail => rfl
  | bind | send => exact h.elim

theorem Action.foldl_quiet {actions : List Action} (quiet : ∀ action ∈ actions, action.Quiet)
    (bindings : Bindings) : actions.foldl Action.onBindings bindings = bindings := by
  induction actions with
  | nil => rfl
  | cons action rest ih =>
    obtain ⟨first, others⟩ := List.forall_mem_cons.mp quiet
    rw [List.foldl_cons, first.onBindings, ih others]

theorem Action.filterMap_quiet {actions : List Action}
    (quiet : ∀ action ∈ actions, action.Quiet) : actions.filterMap Action.message? = [] :=
  List.filterMap_eq_nil_iff.mpr fun action ha => (quiet action ha).message?

/-- The value that an entry shows at an input. -/
def Status.input (s : Status) (i : Nat) : Value :=
  s.inputs.getD i .absent

/-- The text of that value, if it can be written. -/
def Status.inputText (s : Status) (i : Nat) : String :=
  (s.input i).asText.toOption.getD ""

namespace Flow

/-- The variables after an entry: a node that sets a variable binds the text of its first input,
without the blanks around it, to its second input. -/
def binds (f : Flow) (bindings : Bindings) (s : Status) : Bindings :=
  match f.node? s.node with
  | none => bindings
  | some node =>
    if node.type = .setVariable then
      bindings.set (Text.stripText (s.inputText 0)) (s.input 1)
    else bindings

/-- The message that an entry sends. -/
def sends? (f : Flow) (s : Status) : Option Message :=
  match f.node? s.node with
  | none => none
  | some node =>
    if node.type = .broadcast then
      some {
        receiver := if s.inputText 0 = "" then "all" else s.inputText 0
        channel := if s.inputText 1 = "" then "chat" else s.inputText 1
        text := s.inputText 2
        node := node.name }
    else none

/-- What an entry shows that reads or sets a variable or sends a message, after some variables. The
inputs that it needs as texts are such as can be written. -/
structure Shows (f : Flow) (bindings : Bindings) (s : Status) : Prop where
  /-- It shows what the variable was before it was set. -/
  set : ∀ node, f.node? s.node = some node → node.type = .setVariable →
    ∃ name text value, s.inputs = [name, value] ∧ name.asText = .ok text ∧
      s.outputs = [bindings.get (Text.stripText text)]
  get : ∀ node, f.node? s.node = some node → node.type = .getVariable →
    ∃ name text, s.inputs = [name] ∧ name.asText = .ok text ∧
      s.outputs = [bindings.get (Text.stripText text)]
  sent : ∀ node, f.node? s.node = some node → node.type = .broadcast →
    ∃ receiver channel text, s.inputs = [receiver, channel, text] ∧
      receiver.asText = .ok (s.inputText 0) ∧ channel.asText = .ok (s.inputText 1) ∧
      text.asText = .ok (s.inputText 2)

end Flow

namespace Node

section Actions

variable {n : Node} (bindings : Bindings)

/-- Only nodes that set a variable or send a message do more than write their outputs. -/
theorem actions_quiet (notSet : n.type.computation ≠ .setVariable)
    (notSent : n.type.computation ≠ .broadcast) (inputs : List Value) :
    ∀ action ∈ n.actions bindings inputs, action.Quiet := by
  unfold Node.actions
  split
  · unfold Node.add
    grind [Action.Quiet]
  · unfold Node.writeResult
    grind [Action.Quiet]
  · unfold Node.writeResult
    grind [Action.Quiet]
  · unfold Node.readVariable
    grind [Action.Quiet]
  · contradiction
  · contradiction
  · grind [Action.Quiet]
  · grind [Action.Quiet]
  · grind [Action.Quiet]
  · simp

theorem variableName_eq_ok_iff {v : Value} {name : String} :
    n.variableName v = .ok name ↔
      ∃ text, v.asText = .ok text ∧ Text.stripText text ≠ "" ∧ name = Text.stripText text := by
  unfold variableName
  cases v.asText with
  | error error => simp
  | ok text =>
    by_cases empty : Text.stripText text = ""
    · simp [empty]
    · simp only [empty, ↓reduceIte, Except.ok.injEq]
      constructor
      · rintro rfl
        exact ⟨text, rfl, empty, rfl⟩
      · rintro ⟨_, rfl, -, rfl⟩
        rfl

theorem message_eq_ok_iff {receiver channel text : Value} {m : Message} :
    n.message receiver channel text = .ok m ↔
      ∃ r c t, receiver.asText = .ok r ∧ channel.asText = .ok c ∧ text.asText = .ok t ∧
        m = ⟨orElse r "all", orElse c "chat", t, n.name⟩ := by
  constructor
  · intro made
    obtain ⟨r, receiver', made⟩ := Except.exists_of_bind_eq_ok made
    obtain ⟨c, channel', made⟩ := Except.exists_of_bind_eq_ok made
    obtain ⟨t, text', made⟩ := Except.exists_of_bind_eq_ok made
    exact ⟨r, c, t, receiver', channel', text', (Except.ok.inj made).symm⟩
  · rintro ⟨r, c, t, receiver', channel', text', rfl⟩
    rw [message, receiver', channel', text']
    rfl

theorem actions_setVariable (set : n.type = .setVariable) (name value : Value) :
    n.actions bindings [name, value] = n.writeVariable bindings name value := by
  simp [Node.actions, set, NodeType.setVariable]

theorem actions_unset (set : n.type = .setVariable) {inputs : List Value}
    (unfit : inputs.length ≠ 2) : n.actions bindings inputs = [] := by
  unfold Node.actions
  split <;> simp_all [NodeType.setVariable]

theorem actions_getVariable (get : n.type = .getVariable) (name : Value) :
    n.actions bindings [name] = n.readVariable bindings name := by
  simp [Node.actions, get, NodeType.getVariable]

theorem actions_broadcast (sends : n.type = .broadcast) (receiver channel text : Value) :
    n.actions bindings [receiver, channel, text] = n.sendMessage receiver channel text := by
  simp [Node.actions, sends, NodeType.broadcast]

theorem actions_unsent (sends : n.type = .broadcast) {inputs : List Value}
    (unfit : inputs.length ≠ 3) : n.actions bindings inputs = [] := by
  unfold Node.actions
  split <;> simp_all [NodeType.broadcast]

end Actions

end Node

/-- The built-in types that do more than write outputs are the one that sets a variable and the one
that sends a message. -/
theorem NodeType.quiet_of_builtin {type : NodeType} (builtin : type ∈ Catalog.standard)
    (notSet : type ≠ .setVariable) (notSent : type ≠ .broadcast) :
    type.computation ≠ .setVariable ∧ type.computation ≠ .broadcast := by
  have all : ∀ t ∈ Catalog.standard, t ≠ .setVariable → t ≠ .broadcast →
      t.computation ≠ .setVariable ∧ t.computation ≠ .broadcast := by decide
  exact all type builtin notSet notSent

namespace Progress

/-- A listener that leaves the messages as they are does not keep a new one from being added. -/
theorem emit_messages {listener : Listener} (discreet : listener.IsDiscreet) (p : Progress)
    (message : Message) :
    (p.emit listener message).messages.toList = p.messages.toList ++ [message] := by
  simp [emit, Reaction.revise, discreet p.messages.size]

theorem perform_effects (p : Progress) (listener : Listener) (node : Node) (action : Action) :
    (p.perform listener node action).1.bindings = action.onBindings p.bindings ∧
      (listener.IsDiscreet → (p.perform listener node action).1.messages.toList =
        p.messages.toList ++ action.message?.toList) := by
  cases action with
  | write index value =>
    have silent : p.messages.toList ++ (Action.write index value).message?.toList =
        p.messages.toList := List.append_nil _
    rw [silent]
    simp only [perform]
    split
    · exact ⟨rfl, fun _ => rfl⟩
    · split <;> exact ⟨rfl, fun _ => rfl⟩
  | bind name value => simp [perform, Action.onBindings, Action.message?]
  | send message => exact ⟨rfl, fun discreet => emit_messages discreet p message⟩
  | fail failure => simp [perform, Action.onBindings, Action.message?]

/-- The actions of a node take effect one after the other, all of them if none fails. -/
theorem performAll_effects (p : Progress) (listener : Listener) (node : Node)
    (actions : List Action) :
    ∃ done rest, actions = done ++ rest ∧
      (p.performAll listener node actions).1.bindings = done.foldl Action.onBindings p.bindings ∧
      (listener.IsDiscreet → (p.performAll listener node actions).1.messages.toList =
        p.messages.toList ++ done.filterMap Action.message?) ∧
      ((p.performAll listener node actions).2 = none → rest = []) := by
  induction actions generalizing p with
  | nil => exact ⟨[], [], rfl, rfl, by simp [performAll], fun _ => rfl⟩
  | cons action others ih =>
    obtain ⟨bound, sent⟩ := p.perform_effects listener node action
    have joined (l : List Action) : (action :: l).filterMap Action.message? =
        action.message?.toList ++ l.filterMap Action.message? := by
      cases heard : action.message? <;> simp [heard]
    unfold performAll
    cases first : p.perform listener node action with
    | mk q end? =>
      rw [first] at bound sent
      cases end? with
      | none =>
        obtain ⟨done, rest, rfl, boundLater, sentLater, whole⟩ := ih q
        refine ⟨action :: done, rest, rfl, ?_, ?_, whole⟩
        · rw [boundLater, bound, List.foldl_cons]
        · intro discreet
          rw [sentLater discreet, sent discreet, joined, List.append_assoc]
      | some failure =>
        refine ⟨[action], others, rfl, bound, ?_, by simp⟩
        rw [joined, List.filterMap_nil, List.append_nil]
        exact sent

/-- A quiet action has no effect, whoever listens. -/
theorem perform_quiet (listener : Listener) {action : Action} (quiet : action.Quiet) (p : Progress)
    (node : Node) : (p.perform listener node action).1.bindings = p.bindings ∧
      (p.perform listener node action).1.messages = p.messages := by
  cases action with
  | write index value =>
    simp only [perform]
    split
    · exact ⟨rfl, rfl⟩
    · split <;> exact ⟨rfl, rfl⟩
  | fail failure => exact ⟨rfl, rfl⟩
  | bind | send => exact quiet.elim

/-- Quiet actions have no effect, whether one of them fails or not. -/
theorem performAll_quiet {p q : Progress} {listener : Listener} {node : Node}
    {actions : List Action} {end? : Option Failure} (quiet : ∀ action ∈ actions, action.Quiet)
    (acted : p.performAll listener node actions = (q, end?)) :
    q.bindings = p.bindings ∧ q.messages = p.messages := by
  induction actions generalizing p with
  | nil => cases acted; exact ⟨rfl, rfl⟩
  | cons action rest ih =>
    obtain ⟨first, others⟩ := List.forall_mem_cons.mp quiet
    have kept := perform_quiet listener first p node
    unfold performAll at acted
    cases done : p.perform listener node action with
    | mk p₁ failure =>
      rw [done] at kept acted
      cases failure with
      | none =>
        obtain ⟨bound, sent⟩ := ih others acted
        exact ⟨bound.trans kept.1, sent.trans kept.2⟩
      | some failure => cases acted; exact kept

theorem Acted.effects {listener : Listener} {node : Node} {p q : Progress} {inputs : List Value}
    (h : p.Acted listener node inputs q) :
    q.bindings = (node.actions p.bindings inputs).foldl Action.onBindings p.bindings ∧
      (listener.IsDiscreet → q.messages.toList =
        p.messages.toList ++ (node.actions p.bindings inputs).filterMap Action.message?) := by
  obtain ⟨done, rest, split, bound, sent, whole⟩ :=
    (p.shows node inputs).performAll_effects listener node (node.actions p.bindings inputs)
  rw [h] at bound sent whole
  rw [whole rfl, List.append_nil] at split
  rw [split]
  exact ⟨bound, sent⟩

/-- A step that succeeds did all the actions of its node. -/
theorem step_acted {flow : Flow} {listener : Listener} {node : Node} {p q : Progress}
    {next? : Option Node} (h : p.step flow listener node = (q, .ok next?)) :
    ∃ inputs acted, node.inputs.mapM (resolve flow p) = .ok inputs ∧
      p.Acted listener node inputs acted ∧
      q.bindings = acted.bindings ∧ q.messages = acted.messages := by
  cases stepped_of_step h with
  | @done inputs acted taken next read done took goes =>
    obtain ⟨log, followed⟩ := follow_logs node (acted.turns node taken next) flow next
    rw [followed]
    exact ⟨inputs, acted, read, done, rfl, rfl⟩

section Refused

/-- A node that cannot fail once its inputs are there, before it goes on. -/
structure Steady (node : Node) (bindings : Bindings) (inputs : List Value) : Prop where
  acts : ∀ listener p, (performAll listener node p (node.actions bindings inputs)).2 = none
  takes : branch node inputs = .ok (some 0)
  goes : ∃ next, successor node (some 0) = .ok next

variable {node : Node} (bindings : Bindings)

theorem steady_setVariable (set : node.type = .setVariable) {name : Value} {bound : String}
    (named : node.variableName name = .ok bound) (value : Value) :
    Steady node bindings [name, value] where
  acts listener p := by
    simp [Node.actions_setVariable bindings set, Node.writeVariable, named, performAll, perform,
      Node.outputCount, set, NodeType.setVariable]
  takes := by
    simp [branch, Node.select, Node.branchCount, set, NodeType.setVariable, Except.map]
  goes := by simp [successor, Node.branchCount, set, NodeType.setVariable]

theorem steady_broadcast (sends : node.type = .broadcast) {receiver channel text : Value}
    {message : Message} (given : text ≠ .absent)
    (said : node.message receiver channel text = .ok message) :
    Steady node bindings [receiver, channel, text] where
  acts listener p := by
    simp [Node.actions_broadcast bindings sends, Node.sendMessage, given, said, performAll, perform]
  takes := by
    simp [branch, Node.select, Node.branchCount, sends, NodeType.broadcast, Except.map]
  goes := by simp [successor, Node.branchCount, sends, NodeType.broadcast]

/-- A node of a built-in type touches neither variables nor messages, or else it cannot fail. -/
theorem quiet_or_steady (builtin : node.type ∈ Catalog.standard) (inputs : List Value) :
    (∀ action ∈ node.actions bindings inputs, action.Quiet) ∨ Steady node bindings inputs := by
  -- With too few or too many inputs such a node does nothing at all.
  by_cases set : node.type = .setVariable
  · by_cases two : inputs.length = 2
    · obtain ⟨name, value, rfl⟩ := List.length_eq_two.mp two
      cases named : node.variableName name with
      | error failure =>
        left
        simp [Node.actions_setVariable bindings set, Node.writeVariable, named, Action.Quiet]
      | ok bound => exact Or.inr (steady_setVariable bindings set named value)
    · left
      rw [Node.actions_unset bindings set two]
      simp
  by_cases sends : node.type = .broadcast
  · by_cases three : inputs.length = 3
    · obtain ⟨receiver, channel, text, rfl⟩ := List.length_eq_three.mp three
      by_cases given : text = .absent
      · left
        simp [Node.actions_broadcast bindings sends, Node.sendMessage, given, Action.Quiet]
      · cases said : node.message receiver channel text with
        | error error =>
          left
          simp [Node.actions_broadcast bindings sends, Node.sendMessage, given, said, Action.Quiet]
        | ok message => exact Or.inr (steady_broadcast bindings sends given said)
    · left
      rw [Node.actions_unsent bindings sends three]
      simp
  · obtain ⟨notSet, notSent⟩ := NodeType.quiet_of_builtin builtin set sends
    exact Or.inl (Node.actions_quiet bindings notSet notSent inputs)

/-- A node of a built-in type that fails leaves no variable and no message behind, if the ids that
it leads to can be told. -/
theorem step_refused {flow : Flow} {listener : Listener} {p q : Progress} {failure : Failure}
    (builtin : node.type ∈ Catalog.standard) (nameable : ∀ b ∈ node.next, Nameable flow b)
    (h : p.step flow listener node = (q, .error failure)) :
    q.bindings = p.bindings ∧ q.messages = p.messages := by
  -- Wherever the step failed after it had read its inputs, the node was not steady.
  cases stepped_of_step h with
  | unread read => exact ⟨rfl, rfl⟩
  | @unacted inputs q failure read acted =>
    rcases quiet_or_steady p.bindings builtin inputs with quiet | steady
    · exact (performAll_quiet quiet acted :)
    · have fine := steady.acts listener (p.shows node inputs)
      rw [acted] at fine
      cases fine
  | @unbranched inputs q failure read acted took =>
    rcases quiet_or_steady p.bindings builtin inputs with quiet | steady
    · exact (performAll_quiet quiet acted :)
    · rw [steady.takes] at took
      cases took
  | @unfollowed inputs q taken failure read acted took goes =>
    rcases quiet_or_steady p.bindings builtin inputs with quiet | steady
    · exact (performAll_quiet quiet acted :)
    · obtain ⟨next, fine⟩ := steady.goes
      rw [steady.takes] at took
      cases took
      rw [fine] at goes
      cases goes
  | @lost _ _ _ next read acted took goes unsaid =>
    have leads : next ∈ node.next := mem_next_of_successor goes unsaid.natural
    exact absurd (nameable next leads unsaid.natural unsaid.missing) unsaid.long

end Refused

section Explained

variable {flow : Flow} {node : Node} {bindings : Bindings}

/-- An entry accounts for actions that were done after some bindings. -/
structure Explains (flow : Flow) (bindings : Bindings) (actions : List Action) (s : Status) :
    Prop where
  bound : flow.binds bindings s = actions.foldl Action.onBindings bindings
  sent : (flow.sends? s).toList = actions.filterMap Action.message?
  shows : flow.Shows bindings s

theorem shows_of_node {s : Status} (there : flow.node? s.node = some node)
    (set : node.type = .setVariable → ∃ name text value, s.inputs = [name, value] ∧
      name.asText = .ok text ∧ s.outputs = [bindings.get (Text.stripText text)])
    (get : node.type = .getVariable → ∃ name text, s.inputs = [name] ∧ name.asText = .ok text ∧
      s.outputs = [bindings.get (Text.stripText text)])
    (sent : node.type = .broadcast → ∃ receiver channel text, s.inputs = [receiver, channel, text] ∧
      receiver.asText = .ok (s.inputText 0) ∧ channel.asText = .ok (s.inputText 1) ∧
      text.asText = .ok (s.inputText 2)) :
    flow.Shows bindings s := by
  have only {other : Node} (found : flow.node? s.node = some other) : other = node :=
    Option.some.inj (found.symm.trans there)
  refine ⟨?_, ?_, ?_⟩
  · intro other found
    rw [only found]
    exact set
  · intro other found
    rw [only found]
    exact get
  · intro other found
    rw [only found]
    exact sent

variable {s : Status} {taken : Option Int} {next : Int}

/-- The first output of a node with one output is what it wrote there. -/
theorem ran_outputs {inputs : List Value} {actions : List Action} {value : Value}
    (single : s.outputs.length = 1) (writes : actions.foldl Action.onOutputs s.outputs =
      s.outputs.set 0 value) : (s.ran inputs actions taken next).outputs = [value] := by
  obtain ⟨output, only⟩ := List.length_eq_one_iff.mp single
  change actions.foldl Action.onOutputs s.outputs = [value]
  rw [writes, only]
  rfl

variable (there : flow.node? s.node = some node)

include there

theorem explains_setVariable (set : node.type = .setVariable) (single : s.outputs.length = 1)
    {name : Value} {bound : String} (named : node.variableName name = .ok bound) (value : Value) :
    Explains flow bindings (node.actions bindings [name, value])
      (s.ran [name, value] (node.actions bindings [name, value]) taken next) := by
  obtain ⟨text, written, -, rfl⟩ := Node.variableName_eq_ok_iff.mp named
  have acts : node.actions bindings [name, value] =
      [.bind (Text.stripText text) value, .write 0 (bindings.get (Text.stripText text))] := by
    simp [Node.actions_setVariable bindings set, Node.writeVariable, named]
  rw [acts]
  refine ⟨?_, ?_, shows_of_node there ?_ ?_ ?_⟩
  · simp [Flow.binds, Status.ran, there, set, Status.inputText, Status.input, written,
      Except.toOption, Action.onBindings]
  · simp [Flow.sends?, Status.ran, there, set, NodeType.setVariable, NodeType.broadcast,
      Action.message?]
  · intro _
    exact ⟨name, text, value, rfl, written, ran_outputs single rfl⟩
  · intro get
    exact absurd (set.symm.trans get) (by decide)
  · intro sends
    exact absurd (set.symm.trans sends) (by decide)

theorem explains_getVariable (get : node.type = .getVariable) (single : s.outputs.length = 1)
    {name : Value} {read : String} (named : node.variableName name = .ok read) :
    Explains flow bindings (node.actions bindings [name])
      (s.ran [name] (node.actions bindings [name]) taken next) := by
  obtain ⟨text, written, -, rfl⟩ := Node.variableName_eq_ok_iff.mp named
  have acts : node.actions bindings [name] =
      [.write 0 (bindings.get (Text.stripText text))] := by
    simp [Node.actions_getVariable bindings get, Node.readVariable, named]
  rw [acts]
  refine ⟨?_, ?_, shows_of_node there ?_ ?_ ?_⟩
  · simp [Flow.binds, Status.ran, there, get, NodeType.setVariable, NodeType.getVariable,
      Action.onBindings]
  · simp [Flow.sends?, Status.ran, there, get, NodeType.getVariable, NodeType.broadcast,
      Action.message?]
  · intro set
    exact absurd (get.symm.trans set) (by decide)
  · intro _
    exact ⟨name, text, rfl, written, ran_outputs single rfl⟩
  · intro sends
    exact absurd (get.symm.trans sends) (by decide)

theorem explains_broadcast (sends : node.type = .broadcast) {receiver channel text : Value}
    {message : Message} (given : text ≠ .absent)
    (said : node.message receiver channel text = .ok message) :
    Explains flow bindings (node.actions bindings [receiver, channel, text])
      (s.ran [receiver, channel, text] (node.actions bindings [receiver, channel, text]) taken
        next) := by
  obtain ⟨r, c, t, receiver', channel', text', rfl⟩ := Node.message_eq_ok_iff.mp said
  have acts : node.actions bindings [receiver, channel, text] =
      [.send ⟨Node.orElse r "all", Node.orElse c "chat", t, node.name⟩] := by
    simp [Node.actions_broadcast bindings sends, Node.sendMessage, given, said]
  rw [acts]
  refine ⟨?_, ?_, shows_of_node there ?_ ?_ ?_⟩
  · simp [Flow.binds, Status.ran, there, sends, NodeType.setVariable, NodeType.broadcast,
      Action.onBindings]
  · simp [Flow.sends?, Status.ran, there, sends, Status.inputText, Status.input, receiver',
      channel', text', Except.toOption, Action.message?, Node.orElse]
  · intro set
    exact absurd (sends.symm.trans set) (by decide)
  · intro get
    exact absurd (sends.symm.trans get) (by decide)
  · intro _
    refine ⟨receiver, channel, text, rfl, ?_, ?_, ?_⟩ <;>
      simp [Status.ran, Status.inputText, Status.input, receiver', channel', text', Except.toOption]

theorem explains_quiet (set : node.type ≠ .setVariable) (get : node.type ≠ .getVariable)
    (sends : node.type ≠ .broadcast) {actions : List Action} (inputs : List Value)
    (quiet : ∀ action ∈ actions, action.Quiet) :
    Explains flow bindings actions (s.ran inputs actions taken next) := by
  refine ⟨?_, ?_, shows_of_node there ?_ ?_ ?_⟩
  · simp [Flow.binds, Status.ran, there, set, Action.foldl_quiet quiet]
  · simp [Flow.sends?, Status.ran, there, sends, Action.filterMap_quiet quiet]
  · exact fun impossible => absurd impossible set
  · exact fun impossible => absurd impossible get
  · exact fun impossible => absurd impossible sends

end Explained

theorem performAll_fine {p q : Progress} {listener : Listener} {node : Node}
    {actions : List Action} (done : p.performAll listener node actions = (q, none))
    (failure : Failure) : .fail failure ∉ actions := by
  induction actions generalizing p with
  | nil => simp
  | cons action rest ih =>
    unfold performAll at done
    cases first : p.perform listener node action with
    | mk p₁ end? =>
      rw [first] at done
      cases end? with
      | some failure => cases done
      | none =>
        rw [List.mem_cons, not_or]
        refine ⟨?_, ih done⟩
        rintro rfl
        cases first

/-- The entry of a node of a built-in type accounts for what the node did. -/
theorem Acted.explained {flow : Flow} {listener : Listener} {node : Node} {p q : Progress}
    {inputs : List Value} {s : Status} {taken : Option Int} {next : Int}
    (acted : p.Acted listener node inputs q) (builtin : node.type ∈ Catalog.standard)
    (there : flow.node? s.node = some node) (given : inputs.length = node.inputCount)
    (sized : s.outputs.length = node.outputCount) :
    Explains flow p.bindings (node.actions p.bindings inputs)
      (s.ran inputs (node.actions p.bindings inputs) taken next) := by
  have fine := performAll_fine acted
  by_cases set : node.type = .setVariable
  · have two : inputs.length = 2 := by rw [given, Node.inputCount, set]; rfl
    have single : s.outputs.length = 1 := by rw [sized, Node.outputCount, set]; rfl
    obtain ⟨name, value, rfl⟩ := List.length_eq_two.mp two
    cases named : node.variableName name with
    | ok bound => exact explains_setVariable there set single named value
    | error failure =>
      apply absurd _ (fine failure)
      simp [Node.actions_setVariable _ set, Node.writeVariable, named]
  by_cases get : node.type = .getVariable
  · have one : inputs.length = 1 := by rw [given, Node.inputCount, get]; rfl
    have single : s.outputs.length = 1 := by rw [sized, Node.outputCount, get]; rfl
    obtain ⟨name, rfl⟩ := List.length_eq_one_iff.mp one
    cases named : node.variableName name with
    | ok read => exact explains_getVariable there get single named
    | error failure =>
      apply absurd _ (fine failure)
      simp [Node.actions_getVariable _ get, Node.readVariable, named]
  by_cases sends : node.type = .broadcast
  · have three : inputs.length = 3 := by rw [given, Node.inputCount, sends]; rfl
    obtain ⟨receiver, channel, text, rfl⟩ := List.length_eq_three.mp three
    have given : text ≠ .absent := by
      rintro rfl
      apply fine (.fault (.noMessage node.name))
      simp [Node.actions_broadcast _ sends, Node.sendMessage]
    cases said : node.message receiver channel text with
    | ok message => exact explains_broadcast there sends given said
    | error error =>
      apply absurd _ (fine (.broken node.name (.wording error)))
      simp [Node.actions_broadcast _ sends, Node.sendMessage, given, said]
  · obtain ⟨notSet, notSent⟩ := NodeType.quiet_of_builtin builtin set sends
    exact explains_quiet there set get sends inputs
      (Node.actions_quiet p.bindings notSet notSent inputs)

end Progress

/-- The entries of a trace account for the variables and the messages after it. -/
structure Accounted (flow : Flow) (first : Bindings) (entries : List Status) (bindings : Bindings)
    (messages : List Message) : Prop where
  bound : bindings = entries.foldl flow.binds first
  sent : messages = entries.filterMap flow.sends?
  /-- Each entry shows the variables as they are after the entries before it. -/
  shows : ∀ k s, entries[k]? = some s → flow.Shows ((entries.take k).foldl flow.binds first) s

theorem Accounted.concat {flow : Flow} {first bindings : Bindings} {entries : List Status}
    {messages : List Message} {actions : List Action} {t : Status}
    (h : Accounted flow first entries bindings messages)
    (new : Progress.Explains flow bindings actions t) :
    Accounted flow first (entries ++ [t]) (actions.foldl Action.onBindings bindings)
      (messages ++ actions.filterMap Action.message?) where
  bound := by
    rw [List.foldl_append, ← h.bound]
    exact new.bound.symm
  sent := by
    rw [List.filterMap_append, ← h.sent, ← new.sent]
    cases sent : flow.sends? t <;> simp [sent]
  shows := by
    intro k s entry
    rcases entry_concat entry with ⟨old, same⟩ | ⟨rfl, same⟩
    · rw [same]
      exact h.shows k s old
    · rw [same, ← h.bound]
      exact new.shows

/-- What a flow needs for its traces to account for variables and messages. -/
structure Flow.Standard (f : Flow) : Prop where
  fits : ∀ n ∈ f.nodes, n.Fits
  builtin : ∀ n ∈ f.nodes, n.type ∈ Catalog.standard
  nameable : ∀ n ∈ f.nodes, ∀ b ∈ n.next, Progress.Nameable f b

namespace Progress

/-- The trace of a run accounts for its variables and messages. -/
def Tells (flow : Flow) (first : Bindings) (p : Progress) : Prop :=
  Accounted flow first p.trace.toList p.bindings p.messages.toList

theorem record_effects (p : Progress) (id : Int) :
    (p.record id).bindings = p.bindings ∧ (p.record id).messages = p.messages := by
  unfold record
  cases p.status? id <;> exact ⟨rfl, rfl⟩

theorem tells_initial (flow : Flow) (payload : List Value) (bindings : Bindings) :
    (initial flow payload bindings).Tells flow (Bindings.update [] bindings) :=
  ⟨rfl, rfl, by simp [initial, modify]⟩

section Steps

variable {flow : Flow} {listener : Listener} {node : Node} {p q : Progress} {first : Bindings}

theorem Tells.step {next? : Option Node} (h : p.Tells flow first) (known : p.Known flow)
    (standard : flow.Standard) (discreet : listener.IsDiscreet)
    (there : flow.node? node.id = some node)
    (ran : p.step flow listener node = (q, .ok next?)) :
    (q.record node.id).Tells flow first := by
  obtain ⟨s, status⟩ := known.status there
  obtain ⟨inputs, taken, next, read, -, -, -, trace, -⟩ := step_records status ran
  obtain ⟨inputs', acted, read', done, bound, sent⟩ := step_acted ran
  obtain rfl : inputs = inputs' := Except.ok.inj (read.symm.trans read')
  obtain ⟨mem, -⟩ := Flow.mem_of_node? there
  have own : s.node = node.id := status?_node status
  have given : inputs.length = node.inputCount := by
    rw [← ((List.mapM_eq_ok_iff _ _ _).mp read).length_eq]
    exact (standard.fits node mem).inputs
  have entry : Explains flow p.bindings (node.actions p.bindings inputs)
      (s.ran inputs (node.actions p.bindings inputs) taken next) :=
    done.explained (standard.builtin node mem) (own ▸ there) given (known.sized there status)
  obtain ⟨boundThen, sentThen⟩ := done.effects
  obtain ⟨boundNow, sentNow⟩ := q.record_effects node.id
  unfold Tells
  rw [trace, boundNow, sentNow, bound, sent, boundThen, sentThen discreet]
  exact Accounted.concat h entry

theorem reaches_tells {start : Node} {payload : List Value} {bindings : Bindings} {k : Nat}
    (standard : flow.Standard) (discreet : listener.IsDiscreet)
    (begins : flow.startNode? = some start)
    (reached : Reaches flow listener start (initial flow payload bindings) k node p) :
    p.Tells flow (Bindings.update [] bindings) := by
  induction reached with
  | start => exact tells_initial flow payload bindings
  | step before ran ih =>
    obtain ⟨known, present, -⟩ := reaches_known begins before
    exact ih.step known standard discreet present ran

/-- The trace still accounts for variables and messages when the walk has ended. -/
theorem ends_tells {limit : Int} {allowed k : Nat} {out : Progress × Option Failure}
    (ended : p.Ends flow listener limit allowed k node out) (h : p.Tells flow first)
    (known : p.Known flow) (standard : flow.Standard) (discreet : listener.IsDiscreet)
    (there : flow.node? node.id = some node) : out.1.Tells flow first := by
  cases ended with
  | cutOff used => exact h
  | failed early ran =>
    obtain ⟨mem, -⟩ := Flow.mem_of_node? there
    obtain ⟨bound, sent⟩ :=
      step_refused (standard.builtin node mem) (standard.nameable node mem) ran
    obtain ⟨trace, -⟩ := step_error ran
    unfold Tells
    rw [bound, sent, trace]
    exact h
  | finished early ran => exact h.step known standard discreet there ran

end Steps

end Progress

namespace Run

/-- The side effects of a run that was given some bindings, of which the last one of a name
counts. -/
structure Effects (bindings : Bindings) (r : Run) : Prop where
  /-- Variables and messages are what the entries of the trace make of them. -/
  accounted : Accounted r.flow (Bindings.update [] bindings) r.trace r.bindings r.messages
  /-- A node that fails leaves no variable and no message behind, wherever the run stands. -/
  refused : ∀ (node : Node) (p q : Progress) (failure : Failure),
    r.flow.node? node.id = some node → p.step r.flow r.listener node = (q, .error failure) →
    q.bindings = p.bindings ∧ q.messages = p.messages

/-- **The side effects of a run are exactly those that its trace shows**, however the run ends. The
listener has to leave the messages alone, and an id that leads nowhere has to be one that can be
said: the host gives up on the node otherwise, after it has acted. -/
theorem execute_effects (r : Run) (payload : List Value) (bindings : Bindings)
    (fits : ∀ n ∈ r.flow.nodes, n.Fits) (builtin : ∀ n ∈ r.flow.nodes, n.type ∈ Catalog.standard)
    (begins : r.flow.has r.flow.start) (discreet : r.listener.IsDiscreet)
    (nameable : ∀ n ∈ r.flow.nodes, ∀ b ∈ n.next, Progress.Nameable r.flow b) :
    Effects bindings (r.execute payload bindings).1 := by
  obtain ⟨start, begins⟩ := Option.isSome_iff_exists.mp begins
  obtain ⟨k, node, p, reached, ended⟩ := outcome_ends begins r.limit r.listener payload bindings
  obtain ⟨known, present, -⟩ := Progress.reaches_known begins reached
  have standard : r.flow.Standard := ⟨fits, builtin, nameable⟩
  have tells := Progress.reaches_tells standard discreet begins reached
  constructor
  · exact Progress.ends_tells ended tells known standard discreet present
  · intro node p q failure there ran
    obtain ⟨mem, -⟩ := Flow.mem_of_node? there
    exact Progress.step_refused (builtin node mem) (nameable node mem) ran

/-- A flow that sets a variable under a name with blanks, reads it and sends it on, for ever. -/
def echoFlow : Flow where
  name := "echo"
  nodes := [⟨1, .trigger, "start", [], [2]⟩,
    ⟨2, .setVariable, "set", [.constant (.text " x "), .output 1 0], [3]⟩,
    ⟨3, .getVariable, "get", [.constant (.text "x")], [4]⟩,
    ⟨4, .broadcast, "send", [.empty, .constant (.text ""), .output 3 0], [2]⟩]
  start := 1
  counter := 4

theorem execute_effects_echoFlow :
    (∀ n ∈ echoFlow.nodes, n.Fits) ∧ (∀ n ∈ echoFlow.nodes, n.type ∈ Catalog.standard) ∧
      echoFlow.has echoFlow.start ∧ Listener.absent.IsDiscreet ∧
      (∀ n ∈ echoFlow.nodes, ∀ b ∈ n.next, Progress.Nameable echoFlow b) ∧
      Effects [("x", .text "old")]
        ((pending echoFlow 6 .absent).execute [.text "new"] [("x", .text "old")]).1 := by
  have fits : ∀ n ∈ echoFlow.nodes, n.Fits := by
    simp only [echoFlow, List.forall_mem_cons]
    exact ⟨⟨rfl, rfl⟩, ⟨rfl, rfl⟩, ⟨rfl, rfl⟩, ⟨rfl, rfl⟩, by simp⟩
  have builtin : ∀ n ∈ echoFlow.nodes, n.type ∈ Catalog.standard := by decide
  have begins : echoFlow.has echoFlow.start := by decide
  have present : ∀ n ∈ echoFlow.nodes, ∀ b ∈ n.next, echoFlow.node? b ≠ none := by decide
  have discreet : Listener.absent.IsDiscreet := fun _ => rfl
  have nameable : ∀ n ∈ echoFlow.nodes, ∀ b ∈ n.next, Progress.Nameable echoFlow b :=
    fun n hn b hb _ missing => absurd missing (present n hn b hb)
  exact ⟨fits, builtin, begins, discreet, nameable,
    execute_effects (pending echoFlow 6 .absent) _ _ fits builtin begins discreet nameable⟩

/-- A node that sets a variable and goes on to some id. -/
def lastNode (next : Int) : Node :=
  ⟨2, .setVariable, "set", [.constant (.text "x"), .constant (.text "new")], [next]⟩

def lostFlow (next : Int) : Flow where
  name := "lost"
  nodes := [⟨1, .trigger, "start", [], [2]⟩, lastNode next]
  start := 1
  counter := 2

/-- The variable is set, but the step comes to nothing when the id is to be said. -/
theorem step_lastNode {next : Int} (natural : 0 ≤ next) (long : ¬Brief next) (p : Progress) :
    ∃ q, p.step (lostFlow next) .absent (lastNode next) = (q, .error .unsaid) ∧
      q.bindings = p.bindings.set "x" (.text "new") ∧ q.trace = p.trace := by
  have unsaid : Progress.Unsaid (lostFlow next) next := by
    refine ⟨natural, ?_, long⟩
    have first : next ≠ 1 := by rintro rfl; exact long (brief_of_natAbs_le (by decide))
    have second : next ≠ 2 := by rintro rfl; exact long (brief_of_natAbs_le (by decide))
    simp [Flow.node?, lostFlow, lastNode, first.symm, second.symm]
  have named : (lastNode next).variableName (.text "x") = .ok "x" :=
    Node.variableName_eq_ok_iff.mpr ⟨"x", rfl, by decide, by decide⟩
  have acts : (lastNode next).actions p.bindings [.text "x", .text "new"] =
      [.bind "x" (.text "new"), .write 0 (p.bindings.get "x")] := by
    rw [Node.actions_setVariable _ rfl, Node.writeVariable, named]
  obtain ⟨q, acted, bound, kept⟩ : ∃ q, p.Acted .absent (lastNode next) [.text "x", .text "new"] q ∧
      q.bindings = p.bindings.set "x" (.text "new") ∧ q.trace = p.trace := by
    simp only [Progress.Acted, acts]
    exact ⟨_, rfl, rfl, rfl⟩
  have stepped : p.Stepped (lostFlow next) .absent (lastNode next)
      (q.turns (lastNode next) (some 0) next) (.error .unsaid) := .lost rfl acted rfl rfl unsaid
  exact ⟨_, stepped.step_eq, bound, kept⟩

theorem execute_lostFlow {next : Int} (natural : 0 ≤ next) (long : ¬Brief next) :
    let r := ((pending (lostFlow next) 5 .absent).execute [] []).1
    r.failure = some .unsaid ∧ r.bindings = [("x", .text "new")] ∧
      r.trace.map Status.node = [1] := by
  have first : ∃ p, (Progress.initial (lostFlow next) [] []).step (lostFlow next) .absent
      ⟨1, .trigger, "start", [], [2]⟩ = (p, .ok (some (lastNode next))) ∧ p.bindings = [] ∧
        (p.record 1).trace.toList.map Status.node = [1] := ⟨_, rfl, rfl, rfl⟩
  obtain ⟨p, began, none, one⟩ := first
  obtain ⟨q, failed, bound, kept⟩ := step_lastNode natural long (p.record 1)
  have ended : outcome (lostFlow next) 5 .absent [] [] = (q, some .unsaid) := by
    have steps : allowance 5 = 4 + 1 + 1 := rfl
    have start : (lostFlow next).startNode? = some ⟨1, .trigger, "start", [], [2]⟩ := rfl
    unfold outcome
    rw [start, steps]
    simp only [Progress.walk, began, failed]
  have begun : (p.record 1).bindings = [] := (Progress.record_effects p 1).1.trans none
  rw [execute_concluded]
  change (outcome (lostFlow next) 5 .absent [] []).2 = _ ∧
    (outcome (lostFlow next) 5 .absent [] []).1.bindings = _ ∧
    (outcome (lostFlow next) 5 .absent [] []).1.trace.toList.map Status.node = _
  rw [ended]
  refine ⟨rfl, ?_, ?_⟩
  · rw [bound, begun]
    rfl
  · rw [kept]
    exact one

/-- What a listener may do to the first message that it is handed. -/
def meddler : Listener :=
  .reacts [⟨[(0, ⟨"nobody", "none", "changed", "listener"⟩)], none⟩]

/-- A trace does not account for what a node did that could not go on, nor for messages that a
listener changes. -/
theorem execute_unaccounted :
    ((∀ n ∈ (lostFlow (10 ^ Text.digitLimit)).nodes, n.Fits ∧ n.type ∈ Catalog.standard) ∧
      let r := ((pending (lostFlow (10 ^ Text.digitLimit)) 5 .absent).execute [] []).1
      ¬Accounted r.flow [] r.trace r.bindings r.messages) ∧
    let r := ((pending echoFlow 6 meddler).execute [.text "new"] []).1
    ¬Accounted r.flow [] r.trace r.bindings r.messages := by
  refine ⟨?_, ?_⟩
  · have long := not_brief_limit
    have natural : (0 : Int) ≤ 10 ^ Text.digitLimit := Int.pow_nonneg (by decide)
    generalize (10 ^ Text.digitLimit : Int) = next at long natural
    refine ⟨?_, ?_⟩
    · simp only [lostFlow, lastNode, List.forall_mem_cons]
      exact ⟨⟨⟨rfl, rfl⟩, by decide⟩, ⟨⟨rfl, rfl⟩, by decide⟩, by simp⟩
    · intro r accounted
      obtain ⟨-, bound, trace⟩ := execute_lostFlow natural long
      -- Only the start left an entry, and it sets nothing.
      obtain ⟨s, only, own⟩ := List.map_eq_singleton_iff.mp trace
      have idle : (lostFlow next).binds [] s = [] := by
        rw [Flow.binds, own]
        rfl
      have folded : r.bindings = [] := by
        rw [accounted.bound, only]
        exact idle
      rw [bound] at folded
      cases folded
  · intro r accounted
    have sent := accounted.sent
    revert sent
    decide +kernel

example : ((pending echoFlow 6 .absent).execute [.text "new"] []).1.messages =
    [⟨"all", "chat", "new", "send"⟩, ⟨"all", "chat", "new", "send"⟩] := by decide +kernel

end Run

end EventFlow
