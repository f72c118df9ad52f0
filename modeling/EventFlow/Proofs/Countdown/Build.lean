import EventFlow.Host.Countdown
import EventFlow.Proofs.Edit.Command

/-!
The countdown flow as the editing interface builds it.

* `Carries`: what a list of commands makes of a flow, one rule for each kind of command;
* `build_flow`: the commands of the countdown make the flow `flow`, whatever its name and message.
-/

namespace EventFlow.Countdown

open NodeType

/-! The nodes of the countdown flow. -/

def start : Node := ⟨1, .trigger, "start", [], [2]⟩

def init : Node := ⟨2, .setVariable, "init", [.constant (.text "n"), .output 1 1], [3]⟩

def read : Node := ⟨3, .getVariable, "read", [.constant (.text "n")], [4]⟩

def decrement : Node :=
  ⟨4, .binary, "decrement", [.output 3 0, .constant (.float 1), .constant (.text "-")], [5]⟩

def store : Node := ⟨5, .setVariable, "store", [.constant (.text "n"), .output 4 0], [6]⟩

def check : Node :=
  ⟨6, .binary, "check", [.output 4 0, .constant (.float 0), .constant (.text ">")], [7]⟩

def loop : Node := ⟨7, .condition, "loop", [.output 6 0], [3, 8]⟩

def announce (message : String) : Node :=
  ⟨8, .broadcast, "announce",
    [.output 1 0, .constant (.text "chat"), .constant (.text message)], [-1]⟩

/-- The countdown flow. -/
def flow (name message : String) : Flow where
  name := name
  nodes := [start, init, read, decrement, store, check, loop, announce message]
  start := 1
  counter := 8

/-- The commands carried out on a flow make another one of it. -/
def Carries (f : Flow) (commands : List Command) (g : Flow) : Prop :=
  ∀ e : Editor, e.flow = f →
    ∃ made log, carryOut Catalog.standard e commands = .ok (made, log) ∧ made.flow = g

section Carries

variable {f g : Flow} {rest : List Command}

theorem Carries.nil (f : Flow) : Carries f [] f :=
  fun e same => ⟨e, [], rfl, same⟩

theorem Carries.cons {command : Command} {f' : Flow}
    (made : ∀ e : Editor, e.flow = f → (e.edit Catalog.standard command).editor.flow = f' ∧
      ∀ error, (e.edit Catalog.standard command).outcome ≠ .failed error)
    (later : Carries f' rest g) : Carries f (command :: rest) g := by
  intro e same
  obtain ⟨flow, fine⟩ := made e same
  obtain ⟨done, log, carried, last⟩ := later _ flow
  refine ⟨done, (e.edit Catalog.standard command).log ++ log, ?_, last⟩
  unfold carryOut
  simp only [carried]
  cases outcome : (e.edit Catalog.standard command).outcome with
  | failed error => exact absurd outcome (fine error)
  | created | applied | refused => rfl

/-- An edit of one change that can be applied is carried out. -/
theorem perform_change {e : Editor} {change back : Change} {description : String}
    (applied : change.apply Catalog.standard e.flow = .ok g) {outcome : Outcome}
    (took : outcome.took = true) :
    (e.perform Catalog.standard outcome ⟨description, [change], [back]⟩).editor.flow = g ∧
      ∀ error, (e.perform Catalog.standard outcome
        ⟨description, [change], [back]⟩).outcome ≠ .failed error := by
  simp only [Editor.perform, applyAll, applied, true_and]
  rintro error rfl
  cases took

theorem connectInput_change {e : Editor} {node : Node} {index : Nat} {source before : Reference}
    {origin : String} (there : e.flow.node? node.id = some node)
    (was : node.inputs[index]? = some before)
    (told : source.describe (some e.flow) = .ok origin) :
    (e.connectInput Catalog.standard node index source).editor.flow =
        (e.flow.modifyNode node.id fun n => { n with inputs := n.inputs.set index source }) ∧
      ∀ error, (e.connectInput Catalog.standard node index source).outcome ≠ .failed error := by
  have within : index < node.inputs.length := (List.getElem?_eq_some_iff.1 was).1
  have applied : (Change.setInput node.id index source).apply Catalog.standard e.flow =
      .ok (e.flow.modifyNode node.id fun n => { n with inputs := n.inputs.set index source }) := by
    simp only [Change.apply, there, within, ↓reduceIte]
  simp only [Editor.connectInput, told, was]
  exact perform_change applied rfl

theorem connectNext_change {e : Editor} {node : Node} {index : Nat} {next before : Int}
    (there : e.flow.node? node.id = some node) (was : node.next[index]? = some before)
    (brief : Brief next) :
    (e.connectNext Catalog.standard node index next).editor.flow =
        (e.flow.modifyNode node.id fun n => { n with next := n.next.set index next }) ∧
      ∀ error, (e.connectNext Catalog.standard node index next).outcome ≠ .failed error := by
  have within : index < node.next.length := (List.getElem?_eq_some_iff.1 was).1
  have applied : (Change.setNext node.id index next).apply Catalog.standard e.flow =
      .ok (e.flow.modifyNode node.id fun n => { n with next := n.next.set index next }) := by
    simp only [Change.apply, there, within, ↓reduceIte]
  simp only [Editor.connectNext, Text.ofInt_brief brief, was]
  exact perform_change applied rfl

theorem Carries.create {key name : String} {type : NodeType}
    (unused : f.nodeNamed? name = none) (typed : Catalog.standard.find? key = some type)
    (later : Carries (f.reserveId.addNode (Node.fresh type (f.counter + 1) name)) rest g) :
    Carries f (.createNode key name :: rest) g := by
  refine .cons ?_ later
  rintro e rfl
  have made : Catalog.standard.make key e.reserve.flow.counter name =
      .ok (Node.fresh type (e.flow.counter + 1) name) := by
    simp only [Catalog.make, typed]
    rfl
  have applied : (Change.addNode (Node.fresh type (e.flow.counter + 1) name)).apply
      Catalog.standard e.reserve.flow =
        .ok (e.flow.reserveId.addNode (Node.fresh type (e.flow.counter + 1) name)) := by
    simp only [Change.apply, Catalog.copy_registered (Catalog.find?_self typed :
      (Node.fresh type (e.flow.counter + 1) name).Registered Catalog.standard)]
    rfl
  simp only [Editor.edit, Editor.createNode, unused, made]
  exact perform_change applied rfl

theorem Carries.input {name : String} {node : Node} {index : Int} {value : Value}
    {before : Reference} (named : f.nodeNamed? name = some node)
    (slot : isSlot index node.inputCount = true) (there : f.node? node.id = some node)
    (was : node.inputs[index.toNat]? = some before) (brief : value.isBrief = true)
    (later : Carries (f.modifyNode node.id fun n =>
      { n with inputs := n.inputs.set index.toNat (.constant value) }) rest g) :
    Carries f (.setConstant name index value :: rest) g := by
  refine .cons ?_ later
  rintro e rfl
  simp only [Editor.edit, Editor.setInput, named, slot, ↓reduceIte]
  exact connectInput_change there was (Value.format_brief brief)

theorem Carries.reference {name source : String} {node origin : Node} {index sourceIndex : Int}
    {before : Reference} (named : f.nodeNamed? name = some node)
    (slot : isSlot index node.inputCount = true) (there : f.node? node.id = some node)
    (was : node.inputs[index.toNat]? = some before)
    (from_ : f.nodeNamed? source = some origin)
    (offered : isSlot sourceIndex origin.outputCount = true) {told : String}
    (described : (Reference.output origin.id sourceIndex).describe (some f) = .ok told)
    (later : Carries (f.modifyNode node.id fun n =>
      { n with inputs := n.inputs.set index.toNat (.output origin.id sourceIndex) }) rest g) :
    Carries f (.setReference name index source sourceIndex :: rest) g := by
  refine .cons ?_ later
  rintro e rfl
  simp only [Editor.edit, Editor.setReference, named, from_, slot, offered, Bool.not_true,
    Bool.false_eq_true, ↓reduceIte]
  exact connectInput_change there was described

theorem Carries.next {name target : String} {node goal : Node} {index before : Int}
    (named : f.nodeNamed? name = some node) (slot : isSlot index node.branchCount = true)
    (there : f.node? node.id = some node) (was : node.next[index.toNat]? = some before)
    (leads : f.nodeNamed? target = some goal) (small : goal.id.natAbs ≤ 2 ^ 64)
    (later : Carries (f.modifyNode node.id fun n =>
      { n with next := n.next.set index.toNat goal.id }) rest g) :
    Carries f (.setNext name index target :: rest) g := by
  refine .cons ?_ later
  rintro e rfl
  simp only [Editor.edit, Editor.setNext, named, leads, slot, ↓reduceIte]
  exact connectNext_change there was (brief_of_natAbs_le small)

end Carries

/-- The countdown flow before the commands that build it. -/
def begunFlow (name : String) : Flow where
  name := name
  nodes := [Node.fresh .trigger 1 "start"]
  start := 1
  counter := 1

theorem carries_commands (name message : String) :
    Carries (begunFlow name) (commands message) (flow name message) := by
  unfold commands begunFlow
  iterate 7
    refine .create rfl rfl ?_
    simp only [Flow.reserveId, Flow.addNode, Flow.insert, Node.fresh, Int.reduceAdd, Int.reduceEq,
      ↓reduceIte, Int.max_self]
  iterate 15
    first
    | refine .input rfl rfl rfl rfl rfl ?_
    | refine .reference rfl rfl rfl rfl rfl rfl rfl ?_
    simp only [Flow.modifyNode, List.map_cons, List.map_nil, Int.reduceEq, ↓reduceIte]
  iterate 8
    refine .next rfl rfl rfl rfl rfl (Nat.le_of_ble_eq_true rfl) ?_
    simp only [Flow.modifyNode, List.map_cons, List.map_nil, Int.reduceEq, ↓reduceIte]
  exact .nil _

/-- The editing interface makes this flow, whatever its name and message. -/
theorem build_flow (name message : String) :
    ∃ e log, build Catalog.standard name message = .ok (e, log) ∧ e.flow = flow name message ∧
      e.enabled = true := by
  obtain ⟨e, log, carried, made⟩ := carries_commands name message
    (.ofFlow (begunFlow name)) rfl
  refine ⟨{ e with enabled := true }, log, ?_, made, rfl⟩
  have begun : begun Catalog.standard name = .ok (.ofFlow (begunFlow name)) := rfl
  simp only [build, begun, bind, Except.bind, finish, carried, Except.map]

end EventFlow.Countdown
