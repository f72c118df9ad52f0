import EventFlow.Proofs.Edit.Applied
import EventFlow.Proofs.Edit.Upkeep

/-!
What a command that is carried out does to a flow, and that it does nothing else.

* `Flow.SameBut`: two flows differ in the node of one id at most;
* `Command.Turns`: what each command makes of a flow, told from the nodes that its names stand for;
* `retouches_perform`: an edit of one change to one node leaves all else alone;
* `edit_only_target`: every command that is carried out does what it says, to that node only.
-/

namespace EventFlow

/-- All inputs are absent. -/
def Node.Unfed (n : Node) : Prop :=
  n.inputs = List.replicate n.inputCount .empty

/-- Nothing follows on any branch. -/
def Node.Unfollowed (n : Node) : Prop :=
  n.next = List.replicate n.branchCount (-1)

/-- A node has the successors of another one, slot by slot as far as both have branches, and none on
the branches that only it has. -/
structure Node.TakesOver (n old : Node) : Prop where
  count : n.next.length = n.branchCount
  shared : ∀ b < n.branchCount, b < old.branchCount → n.next[b]? = old.next[b]?
  rest : ∀ b < n.branchCount, old.branchCount ≤ b → n.next[b]? = some (-1)

/-- A start has the successors of the start before it, if there was one. -/
def Node.Succeeds (n : Node) : Option Node → Prop
  | none => n.Unfollowed
  | some old => n.TakesOver old

/-- One node is another one with the source of one input exchanged. -/
def Node.InputSet (index : Int) (source : Reference) (n m : Node) : Prop :=
  ∃ i : Nat, index = i ∧ i < n.inputCount ∧ m = { n with inputs := n.inputs.set i source }

/-- One node is another one with the successor on one branch exchanged. -/
def Node.NextSet (index next : Int) (n m : Node) : Prop :=
  ∃ i : Nat, index = i ∧ i < n.branchCount ∧ m = { n with next := n.next.set i next }

namespace Flow

/-- Flows of one start that differ in the node of one id at most. -/
structure SameBut (f : Flow) (id : Int) (g : Flow) : Prop where
  start : g.start = f.start
  others : ∀ other, other ≠ id → g.node? other = f.node? other

/-- An id that the flow has not given out, beyond those of all nodes. -/
structure Unspent (f : Flow) (id : Int) : Prop where
  next : id = f.counter + 1
  beyond : ∀ n ∈ f.nodes, n.id < id

/-- A node without inputs was made under an id that was not given out, of the type of a key. -/
structure Makes (c : Catalog) (f : Flow) (key name : String) (n : Node) (g : Flow) : Prop where
  unspent : f.Unspent n.id
  typed : c.find? key = some n.type
  named : n.name = name
  unfed : n.Unfed
  there : g.node? n.id = some n

/-- The node that a name stands for became another one, and nothing else is different. -/
def Retouches (f : Flow) (name : String) (becomes : Node → Node → Prop) (g : Flow) : Prop :=
  ∃ n m, f.Addresses name n ∧ becomes n m ∧ g.node? n.id = some m ∧ f.SameBut n.id g

end Flow

/-- What a command that is carried out makes of a flow. -/
def Command.Turns (c : Catalog) (f g : Flow) (outcome : Outcome) : Command → Prop
  | createNode key name => ∃ n, f.Makes c key name n g ∧ outcome = .created n.id ∧
      n.Unfollowed ∧ f.SameBut n.id g
  | removeNode name => ∃ n, f.Addresses name n ∧ n.id ≠ f.start ∧
      g.node? n.id = none ∧ f.SameBut n.id g
  | renameNode name newName => f.Retouches name (fun n m => m = { n with name := newName }) g
  | replaceStart key name => ∃ n, f.Makes c key name n g ∧ n.type.isEvent = true ∧
      n.Succeeds f.startNode? ∧ g.start = n.id ∧
      (∀ old, f.startNode? = some old → g.node? old.id = none) ∧
      ∀ id, id ≠ n.id → (∀ old, f.startNode? = some old → id ≠ old.id) → g.node? id = f.node? id
  | setConstant name index value => f.Retouches name (Node.InputSet index (.constant value)) g
  | setReference name index source sourceIndex => ∃ origin, f.Addresses source origin ∧
      (0 ≤ sourceIndex ∧ sourceIndex < origin.outputCount) ∧
      f.Retouches name (Node.InputSet index (.output origin.id sourceIndex)) g
  | disconnectInput name index => f.Retouches name (Node.InputSet index (.constant .absent)) g
  | setNext name index next => ∃ target, f.Addresses next target ∧
      f.Retouches name (Node.NextSet index target.id) g
  | disconnectNext name index => f.Retouches name (Node.NextSet index (-1)) g

theorem Node.unfed_fresh (type : NodeType) (id : Int) (name : String) :
    (Node.fresh type id name).Unfed := by
  simp [Unfed, fresh, inputCount]

theorem Node.unfollowed_fresh (type : NodeType) (id : Int) (name : String) :
    (Node.fresh type id name).Unfollowed := by
  simp [Unfollowed, fresh, branchCount]

theorem Flow.unspent {f : Flow} (bounded : f.Bounded) : f.Unspent (f.counter + 1) :=
  ⟨rfl, fun n hn => Int.lt_add_one_iff.mpr (bounded n hn)⟩

namespace Editor

variable {c : Catalog} {e : Editor}

/-- A start that takes over successors has those of the old one as far as both have branches. -/
theorem takesOver_inheritNext {new old node : Node} (bare : new.Unfollowed) (fits : old.Fits)
    (h : inheritNext new old = .ok node) : node.TakesOver old := by
  unfold inheritNext at h
  dsimp only at h
  split at h
  · cases h
  · cases h
    have full : new.next.length = new.branchCount := by rw [bare, List.length_replicate]
    have taken : (old.next.take (min new.branchCount old.branchCount)).length =
        min new.branchCount old.branchCount := by
      rw [List.length_take, fits.next]
      omega
    constructor
    · rw [List.length_append, taken, List.length_drop, full]
      change _ = new.branchCount
      omega
    · intro b ours theirs
      change b < new.branchCount at ours
      have early : b < min new.branchCount old.branchCount := Nat.lt_min.mpr ⟨ours, theirs⟩
      rw [List.getElem?_append_left (taken.symm ▸ early), List.getElem?_take_of_lt early]
    · intro b ours theirs
      change b < new.branchCount at ours
      have late : min new.branchCount old.branchCount ≤ b :=
        Nat.le_trans (Nat.min_le_right _ _) theirs
      rw [List.getElem?_append_right (taken.symm ▸ late), taken, List.getElem?_drop,
        Nat.add_sub_cancel' late, bare, List.getElem?_replicate_of_lt ours]

theorem unfed_inheritNext {new old node : Node} (unfed : new.Unfed)
    (h : inheritNext new old = .ok node) : node.Unfed := by
  unfold inheritNext at h
  dsimp only at h
  split at h
  · cases h
  · cases h
    exact unfed

/-- An edit that changes one node leaves all else alone. -/
theorem retouches_perform {name description : String} {n : Node} {change back : Change}
    {becomes : Node → Node → Prop} (there : e.flow.Addresses name n) (distinct : e.flow.Distinct)
    (alter : Node → Node) (keeps : ∀ m, (alter m).id = m.id)
    (applied : change.apply c e.flow = .ok (e.flow.modifyNode n.id alter))
    (met : becomes n (alter n)) (outcome : Outcome) :
    e.flow.Retouches name becomes
      (e.perform c outcome ⟨description, [change], [back]⟩).editor.flow := by
  have after : (e.perform c outcome ⟨description, [change], [back]⟩).editor.flow =
      e.flow.modifyNode n.id alter := by
    rw [perform_flow]
    simp only [applyAll, applied]
  rw [after]
  refine ⟨n, alter n, there, met, ?_, rfl, fun other differs => ?_⟩
  · rw [Flow.node?_modifyNode e.flow n.id n.id alter keeps, if_pos rfl,
      Flow.node?_of_mem distinct there.present, Option.map_some]
  · rw [Flow.node?_modifyNode e.flow n.id other alter keeps, if_neg differs]

theorem exists_find? {key : String} (held : c.has key = true) : ∃ type, c.find? key = some type :=
  Option.isSome_iff_exists.mp held

theorem exists_eventType {key : String} (isEvent : c.isEvent key = true) :
    ∃ type, c.find? key = some type ∧ type.isEvent = true ∧ eventType c key = .ok type := by
  unfold Catalog.isEvent at isEvent
  split at isEvent
  · rename_i type found
    exact ⟨type, found, isEvent, by simp only [eventType, found, isEvent, ↓reduceIte]⟩
  · cases isEvent

theorem createNode_turns (bounded : e.flow.Bounded) {key name : String}
    (fit : (Command.createNode key name).Applies c e.flow) :
    (Command.createNode key name).Turns c e.flow (e.createNode c key name).editor.flow
      (e.createNode c key name).outcome := by
  obtain ⟨unused, held⟩ := fit
  obtain ⟨type, found⟩ := exists_find? held
  have registered : (Node.fresh type (e.flow.counter + 1) name).Registered c :=
    Catalog.find?_self found
  have free : e.flow.nodeNamed? name = none := Flow.nodeNamed?_eq_none.mpr unused
  have made : e.createNode c key name = e.reserve.perform c (.created (e.flow.counter + 1))
      ⟨"create " ++ key ++ " '" ++ name ++ "'",
        [.addNode (Node.fresh type (e.flow.counter + 1) name)],
        [.removeNode (e.flow.counter + 1)]⟩ := by
    simp only [createNode, free, Option.isSome_none, Bool.false_eq_true, ↓reduceIte, Catalog.make,
      found]
    rfl
  obtain ⟨fine, after⟩ := applyAll_addNode (f := e.reserve.flow) registered []
  rw [made, (perform_fine (e := e.reserve) fine _).1, perform_flow, after]
  have there : (e.reserve.flow.addNode (Node.fresh type (e.flow.counter + 1) name)).node?
      (e.flow.counter + 1) = some (Node.fresh type (e.flow.counter + 1) name) :=
    (Flow.node?_addNode ..).trans (if_pos rfl)
  refine ⟨Node.fresh type (e.flow.counter + 1) name,
    ⟨Flow.unspent bounded, found, rfl, Node.unfed_fresh .., there⟩, rfl, Node.unfollowed_fresh ..,
    rfl, fun other differs => ?_⟩
  exact (Flow.node?_addNode ..).trans (if_neg differs)

theorem removeNode_turns (distinct : e.flow.Distinct) {name : String} {outcome : Outcome}
    (fit : (Command.removeNode name).Applies c e.flow) :
    (Command.removeNode name).Turns c e.flow (e.removeNode c name).editor.flow outcome := by
  obtain ⟨n, there, other, held⟩ := fit
  obtain ⟨type, found⟩ := exists_find? held
  have named := (Flow.nodeNamed?_eq_some_iff distinct).mpr there
  have after : (e.removeNode c name).editor.flow = e.flow.removeNode n.id := by
    simp only [removeNode, named, other, ↓reduceIte, Catalog.copy, found, perform_flow]
    rfl
  rw [after]
  refine ⟨n, there, other, ?_, rfl, fun id differs => ?_⟩
  · rw [Flow.node?_removeNode, if_pos rfl]
  · rw [Flow.node?_removeNode, if_neg differs]

theorem renameNode_turns (distinct : e.flow.Distinct) {name newName : String} {outcome : Outcome}
    (fit : (Command.renameNode name newName).Applies c e.flow) :
    (Command.renameNode name newName).Turns c e.flow (e.renameNode c name newName).editor.flow
      outcome := by
  obtain ⟨⟨n, there⟩, unused⟩ := fit
  have named := (Flow.nodeNamed?_eq_some_iff distinct).mpr there
  have free : e.flow.nodeNamed? newName = none := Flow.nodeNamed?_eq_none.mpr unused
  have other : name ≠ newName := fun same => unused n there.present (there.named.trans same)
  simp only [renameNode, named, free, other, Option.isSome_none, decide_false, Bool.or_self,
    Bool.false_eq_true, ↓reduceIte]
  exact retouches_perform there distinct (fun m => { m with name := newName })
    (fun _ => rfl) rfl rfl
    .applied

section Slots

variable (h : e.flow.WellFormed)
include h

theorem connectInput_retouches {name : String} {n : Node} (there : e.flow.Addresses name n)
    {index : Int} (lower : 0 ≤ index) (upper : index < n.inputCount) {source : Reference}
    (offered : e.flow.Offers source) (worded : source.isWorded = true) :
    e.flow.Retouches name (Node.InputSet index source)
      (e.connectInput c n index.toNat source).editor.flow := by
  have bound : index.toNat < n.inputs.length := by
    rw [(h.fits n there.present).inputs]
    omega
  obtain ⟨text, described⟩ := exists_describe h.distinct offered worded
  unfold connectInput
  rw [described, List.getElem?_eq_getElem bound]
  refine retouches_perform there h.distinct
    (fun m => { m with inputs := m.inputs.set index.toNat source }) (fun _ => rfl) ?_
    ⟨index.toNat, by omega, by omega, rfl⟩ .applied
  simp only [Change.apply, Flow.node?_of_mem h.distinct there.present, bound, ↓reduceIte]

theorem connectNext_retouches {name : String} {n : Node} (there : e.flow.Addresses name n)
    {index : Int} (lower : 0 ≤ index) (upper : index < n.branchCount) {next : Int}
    (brief : Brief next) : e.flow.Retouches name (Node.NextSet index next)
      (e.connectNext c n index.toNat next).editor.flow := by
  have bound : index.toNat < n.next.length := by
    rw [(h.fits n there.present).next]
    omega
  unfold connectNext
  rw [Text.ofInt_brief brief, List.getElem?_eq_getElem bound]
  refine retouches_perform there h.distinct
    (fun m => { m with next := m.next.set index.toNat next }) (fun _ => rfl) ?_
    ⟨index.toNat, by omega, by omega, rfl⟩ .applied
  simp only [Change.apply, Flow.node?_of_mem h.distinct there.present, bound, ↓reduceIte]

theorem setInput_retouches {name : String} {index : Int}
    (fit : ∃ n, e.flow.Addresses name n ∧ 0 ≤ index ∧ index < n.inputCount) {source : Reference}
    (offered : e.flow.Offers source) (worded : source.isWorded = true) :
    e.flow.Retouches name (Node.InputSet index source)
      (e.setInput c name index source).editor.flow := by
  obtain ⟨n, there, lower, upper⟩ := fit
  have named := (Flow.nodeNamed?_eq_some_iff h.distinct).mpr there
  simp only [setInput, named, isSlot_iff.mpr ⟨lower, upper⟩, ↓reduceIte]
  exact connectInput_retouches h there lower upper offered worded

theorem setReference_turns {name source : String} {index sourceIndex : Int} {outcome : Outcome}
    (fit : (Command.setReference name index source sourceIndex).Applies c e.flow) :
    (Command.setReference name index source sourceIndex).Turns c e.flow
      (e.setReference c name index source sourceIndex).editor.flow outcome := by
  obtain ⟨n, origin, there, sourced, ⟨lower, upper⟩, offered⟩ := fit
  have named := (Flow.nodeNamed?_eq_some_iff h.distinct).mpr there
  have sourceNamed := (Flow.nodeNamed?_eq_some_iff h.distinct).mpr sourced
  refine ⟨origin, sourced, offered, ?_⟩
  simp only [setReference, named, sourceNamed, isSlot_iff.mpr ⟨lower, upper⟩,
    isSlot_iff.mpr offered, Bool.not_true, Bool.false_eq_true, ↓reduceIte]
  exact connectInput_retouches h there lower upper ⟨origin, sourced.present, rfl, offered⟩ rfl

theorem setNext_turns {name next : String} {index : Int} {outcome : Outcome}
    (fit : (Command.setNext name index next).Applies c e.flow) :
    (Command.setNext name index next).Turns c e.flow (e.setNext c name index next).editor.flow
      outcome := by
  obtain ⟨n, target, there, aimed, ⟨lower, upper⟩, brief⟩ := fit
  have named := (Flow.nodeNamed?_eq_some_iff h.distinct).mpr there
  have targetNamed := (Flow.nodeNamed?_eq_some_iff h.distinct).mpr aimed
  refine ⟨target, aimed, ?_⟩
  simp only [setNext, named, targetNamed, isSlot_iff.mpr ⟨lower, upper⟩, ↓reduceIte]
  exact connectNext_retouches h there lower upper brief

theorem disconnectNext_turns {name : String} {index : Int} {outcome : Outcome}
    (fit : (Command.disconnectNext name index).Applies c e.flow) :
    (Command.disconnectNext name index).Turns c e.flow
      (e.disconnectNext c name index).editor.flow outcome := by
  obtain ⟨n, there, lower, upper⟩ := fit
  have named := (Flow.nodeNamed?_eq_some_iff h.distinct).mpr there
  simp only [disconnectNext, named, isSlot_iff.mpr ⟨lower, upper⟩, ↓reduceIte]
  exact connectNext_retouches h there lower upper (brief_of_natAbs_le (by decide))

omit h in
/-- A new start goes in under a new id, and the node that was the start before is gone. -/
theorem turns_replaceStart {f g : Flow} {key name : String} {outcome : Outcome} {n : Node}
    (unspent : f.Unspent n.id) (found : c.find? key = some n.type) (event : n.type.isEvent = true)
    (named : n.name = name) (unfed : n.Unfed) (succeeds : n.Succeeds f.startNode?)
    (start : g.start = n.id) (looks : ∀ id, g.node? id =
      if id = n.id then some n else if id = f.start then none else f.node? id) :
    (Command.replaceStart key name).Turns c f g outcome := by
  have there : g.node? n.id = some n := by rw [looks, if_pos rfl]
  refine ⟨n, ⟨unspent, found, named, unfed, there⟩, event, succeeds, start, fun old starts => ?_,
    fun id new other => ?_⟩
  · obtain ⟨present, own⟩ := Flow.mem_of_node? starts
    have older : old.id ≠ n.id := Int.ne_of_lt (unspent.beyond old present)
    rw [looks, if_neg older, if_pos own]
  · rw [looks, if_neg new]
    split
    · rename_i was
      cases starts : f.startNode? with
      | none => rw [was]; exact starts.symm
      | some old => exact absurd (was.trans (Flow.mem_of_node? starts).2.symm) (other old starts)
    · rfl

theorem newStart_turns (bounded : e.flow.Bounded) {key name : String} {outcome : Outcome}
    (fit : (Command.replaceStart key name).Applies c e.flow) (starts : e.flow.startNode? = none) :
    (Command.replaceStart key name).Turns c e.flow (e.replaceStart c key name).editor.flow
      outcome := by
  obtain ⟨isEvent, fits, -⟩ := fit
  obtain ⟨type, found, event, chosen⟩ := exists_eventType isEvent
  have free := (fitsStart_iff h name).mpr fits
  rw [starts] at free
  have registered : (Node.fresh type (e.flow.counter + 1) name).Registered c :=
    Catalog.find?_self found
  have after : (e.replaceStart c key name).editor.flow =
      (e.reserve.flow.addNode (Node.fresh type (e.flow.counter + 1) name)).setStart
        (e.flow.counter + 1) := by
    simp only [replaceStart, chosen, starts, free, Bool.false_eq_true, ↓reduceIte, perform_flow]
    exact (applyAll_addNode registered _).2.trans (applyAll_setStart e.reserve.flow _ []).2
  have succeeds : (Node.fresh type (e.flow.counter + 1) name).Succeeds e.flow.startNode? := by
    rw [starts]
    exact Node.unfollowed_fresh ..
  rw [after]
  refine turns_replaceStart (n := Node.fresh type (e.flow.counter + 1) name) (Flow.unspent bounded)
    found event rfl (Node.unfed_fresh ..) succeeds rfl fun id => ?_
  rw [Flow.node?_setStart, Flow.node?_addNode]
  -- the start before was an id of no node
  have absent : e.flow.node? e.flow.start = none := starts
  by_cases was : id = e.flow.start
  · rw [if_pos was, was, ← absent]
    rfl
  · rw [if_neg was]
    rfl

theorem heirStart_turns (bounded : e.flow.Bounded) {key name : String} {outcome : Outcome}
    (fit : (Command.replaceStart key name).Applies c e.flow) {old : Node}
    (starts : e.flow.startNode? = some old) :
    (Command.replaceStart key name).Turns c e.flow (e.replaceStart c key name).editor.flow
      outcome := by
  obtain ⟨isEvent, fits, held⟩ := fit
  obtain ⟨type, found, event, chosen⟩ := exists_eventType isEvent
  obtain ⟨oldType, kept⟩ := exists_find? (held old starts)
  obtain ⟨present, own⟩ := Flow.mem_of_node? starts
  have free := (fitsStart_iff h name).mpr fits
  rw [starts] at free
  obtain ⟨new, inherited⟩ := exists_inheritNext (h.fits old present)
    (Node.fresh type (e.flow.counter + 1) name)
  obtain ⟨newId, newType, newName⟩ := inheritNext_keeps inherited
  have newFound : c.find? key = some new.type := newType ▸ found
  have registered : new.Registered c := Catalog.find?_self newFound
  have after : (e.replaceStart c key name).editor.flow =
      ((e.reserve.flow.addNode new).setStart new.id).removeNode old.id := by
    have handed : inheritNext (Node.fresh type e.reserve.flow.counter name) old = .ok new :=
      inherited
    simp only [replaceStart, chosen, starts, free, Bool.false_eq_true, ↓reduceIte, handed,
      Catalog.copy, kept, perform_flow]
    exact (applyAll_addNode registered _).2.trans
      (applyAll_setStart e.reserve.flow new [.removeNode old.id]).2
  have succeeds : new.Succeeds e.flow.startNode? := by
    rw [starts]
    exact takesOver_inheritNext (Node.unfollowed_fresh ..) (h.fits old present) inherited
  have unspent : e.flow.Unspent new.id := newId ▸ Flow.unspent bounded
  have older : old.id ≠ new.id := Int.ne_of_lt (unspent.beyond old present)
  rw [after]
  refine turns_replaceStart unspent newFound (newType ▸ event) newName
    (unfed_inheritNext (Node.unfed_fresh ..) inherited) succeeds rfl fun id => ?_
  rw [Flow.node?_removeNode, Flow.node?_setStart, Flow.node?_addNode, ← own]
  by_cases was : id = old.id
  · rw [if_pos was, if_pos was, if_neg (was ▸ older)]
  · rw [if_neg was, if_neg was]
    rfl

theorem edit_turns (bounded : e.flow.Bounded) (command : Command)
    (fit : command.Applies c e.flow) :
    command.Turns c e.flow (e.edit c command).editor.flow (e.edit c command).outcome := by
  cases command with
  | createNode key name => exact createNode_turns bounded fit
  | removeNode name => exact removeNode_turns h.distinct fit
  | renameNode name newName => exact renameNode_turns h.distinct fit
  | replaceStart key name =>
    cases starts : e.flow.startNode? with
    | none => exact newStart_turns h bounded fit starts
    | some old => exact heirStart_turns h bounded fit starts
  | setConstant name index value => exact setInput_retouches h fit.1 trivial fit.2
  | setReference name index source sourceIndex => exact setReference_turns h fit
  | disconnectInput name index => exact setInput_retouches h fit trivial rfl
  | setNext name index next => exact setNext_turns h fit
  | disconnectNext name index => exact disconnectNext_turns h fit

theorem applies_of_took {command : Command} (took : (e.edit c command).outcome.took = true) :
    command.Applies c e.flow := by
  have answers := edit_answers (c := c) h command
  generalize e.edit c command = d at answers took
  cases answers with
  | refused => rw [refuse_took] at took; cases took
  | failed | spent => cases took
  | altered fit | added fit => exact fit

/-- A command that is carried out uses up an id if it makes a node, and none otherwise. -/
theorem counter_of_took {command : Command} (took : (e.edit c command).outcome.took = true) :
    (e.edit c command).editor.flow.counter =
      e.flow.counter + if command.makesNode then 1 else 0 := by
  have answers := edit_answers (c := c) h command
  generalize e.edit c command = d at answers took
  cases answers with
  | refused => rw [refuse_took] at took; cases took
  | failed | spent => cases took
  | @altered outcome edit fit old took alters =>
    obtain ⟨fine, counter⟩ := alters.fine h.distinct
    rw [(perform_fine fine outcome).2, old]
    simp [counter]
  | @added outcome edit fit new took adds =>
    obtain ⟨fine, counter⟩ := adds.fine
    rw [(perform_fine (e := e.reserve) fine outcome).2, if_pos new]
    exact counter

end Slots

/-- A command that is carried out leaves the name of the flow, and its ids distinct. -/
theorem edit_name_distinct (distinct : e.flow.Distinct) (command : Command) :
    (e.edit c command).editor.flow.name = e.flow.name ∧
      (e.edit c command).editor.flow.Distinct := by
  obtain ⟨f, changes, first, after⟩ := (edit_does (c := c) (e := e) command).flow
  have same : f.name = e.flow.name ∧ f.Distinct := by
    rcases first with rfl | rfl
    · exact ⟨rfl, distinct⟩
    · exact ⟨rfl, distinct⟩
  rw [after]
  exact ⟨(applyAll_name c f changes).trans same.1,
    applyAll_keeps same.2 fun _ _ _ _ kept applied => Change.apply_distinct kept applied⟩

/-- Only a new start moves the start. -/
theorem start_of_turns {f g : Flow} {outcome : Outcome} {command : Command}
    (turns : command.Turns c f g outcome) (other : ∀ key name, command ≠ .replaceStart key name) :
    g.start = f.start := by
  cases command with
  | createNode | removeNode =>
    obtain ⟨n, -, -, -, same⟩ := turns
    exact same.start
  | replaceStart key name => exact absurd rfl (other key name)
  | renameNode | setConstant | disconnectInput | disconnectNext =>
    obtain ⟨n, m, -, -, -, same⟩ := turns
    exact same.start
  | setReference =>
    obtain ⟨origin, -, -, n, m, -, -, -, same⟩ := turns
    exact same.start
  | setNext =>
    obtain ⟨target, -, n, m, -, -, -, same⟩ := turns
    exact same.start

/-- **A command that is carried out changes its target and nothing else.** What it makes of the flow
is told from the nodes that its names stand for, however many others have the same names and
wherever links lead. No command changes the name of the flow, only a new start moves the start, and
only a new node uses up an id. -/
theorem edit_only_target (c : Catalog) (e : Editor) (h : e.flow.WellFormed)
    (bounded : e.flow.Bounded) (command : Command)
    (took : (e.edit c command).outcome.took = true) :
    command.Turns c e.flow (e.edit c command).editor.flow (e.edit c command).outcome ∧
      (e.edit c command).editor.flow.name = e.flow.name ∧
      ((∀ key name, command ≠ .replaceStart key name) →
        (e.edit c command).editor.flow.start = e.flow.start) ∧
      (e.edit c command).editor.flow.Distinct ∧
      (e.edit c command).editor.flow.counter =
        e.flow.counter + if command.makesNode then 1 else 0 := by
  have turns := edit_turns h bounded command (applies_of_took h took)
  obtain ⟨name, distinct⟩ := edit_name_distinct (c := c) h.distinct command
  exact ⟨turns, name, start_of_turns turns, distinct, counter_of_took h took⟩

/-- A flow that starts at the lower of two nodes of one name; the start follows itself and also
leads to a node that is missing, and both others lead to it. -/
def loopedFlow : Flow where
  name := "looped"
  nodes := [⟨1, .trigger, "begin", [], [2]⟩,
    ⟨4, .condition, "twin", [.output 2 0], [2, 4]⟩,
    ⟨2, .condition, "twin", [.output 7 0], [2, 9]⟩]
  start := 2
  counter := 4

/-- A new start may take the name of the old one. It takes over the first successor, which is the
old start and now missing. -/
theorem edit_only_target_loopedFlow :
    let e := ofFlow loopedFlow
    let command := Command.replaceStart "TriggerNode" "twin"
    let edited := e.edit .standard command
    e.flow.WellFormed ∧ e.flow.Bounded ∧ edited.outcome.took = true ∧
      command.Turns .standard e.flow edited.editor.flow edited.outcome ∧
      edited.editor.flow.node? 5 = some ⟨5, .trigger, "twin", [], [2]⟩ ∧
      edited.editor.flow.node? 4 = e.flow.node? 4 := by
  intro e command edited
  have formed : e.flow.WellFormed := by
    refine ⟨by decide, ?_⟩
    simp only [e, ofFlow, loopedFlow, List.forall_mem_cons]
    exact ⟨⟨rfl, rfl⟩, ⟨rfl, rfl⟩, ⟨rfl, rfl⟩, by simp⟩
  obtain ⟨turns, -⟩ := edit_only_target .standard e formed (by decide) command rfl
  exact ⟨formed, by decide, rfl, turns, by decide, by decide⟩

end Editor

end EventFlow
