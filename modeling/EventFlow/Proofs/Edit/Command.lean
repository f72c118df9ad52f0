import EventFlow.Proofs.Edit.Shape

/-!
What a command does to an editor.

* `Alters`, `Adds`: the edits that commands make, and the guards they have passed by then;
* `edit_does`: on any flow a command is refused, breaks off, or performs such an edit;
* `Alters.links`, `Adds.links`: where the conditions for editing hold, these edits link the
  structure of the flow with another one;
* `Does.idle`, `Does.took`: what follows for structure and stacks;
* `Does.editable`: no command spoils the conditions for editing.
-/

namespace EventFlow

/-- Whether a command was carried out. -/
def Outcome.took : Outcome → Bool
  | created _ => true
  | applied => true
  | refused _ => false
  | failed _ => false

/-- A source for an input: a constant, or an output that a node of the flow has. -/
def Flow.Offers (f : Flow) : Reference → Prop
  | .constant _ => True
  | .output id index => ∃ n ∈ f.nodes, n.id = id ∧ 0 ≤ index ∧ index < n.outputCount

namespace Editor

/-- The edits of a command that works with the nodes of a flow. -/
inductive Alters (c : Catalog) (f : Flow) : Edit → Prop
  | removed {description : String} {n snapshot : Node} (present : n ∈ f.nodes)
      (other : n.id ≠ f.start) (copied : c.copy n = .ok snapshot) :
      Alters c f ⟨description, [.removeNode n.id], [.addNode snapshot]⟩
  | renamed {description : String} {n : Node} {name : String} (present : n ∈ f.nodes)
      (free : f.nodeNamed? name = none) :
      Alters c f ⟨description, [.rename n.id name], [.rename n.id n.name]⟩
  | inputSet {description : String} {n : Node} {index : Nat} {source before : Reference}
      (present : n ∈ f.nodes) (slot : n.inputs[index]? = some before) (offered : f.Offers source)
      (worded : source.isWorded = true) :
      Alters c f ⟨description, [.setInput n.id index source], [.setInput n.id index before]⟩
  | nextSet {description : String} {n : Node} {index : Nat} {next before : Int}
      (present : n ∈ f.nodes) (slot : n.next[index]? = some before)
      (known : next = -1 ∨ ∃ m ∈ f.nodes, m.id = next) (brief : Brief next) :
      Alters c f ⟨description, [.setNext n.id index next], [.setNext n.id index before]⟩

/-- The edits of a command that makes a node under the next id. -/
inductive Adds (c : Catalog) (f : Flow) : Edit → Prop
  | created {description : String} {type : NodeType} {name : String}
      (found : c.find? type.key = some type) (free : f.nodeNamed? name = none) :
      Adds c f ⟨description, [.addNode (Node.fresh type (f.counter + 1) name)],
        [.removeNode (f.counter + 1)]⟩
  | started {description : String} {type : NodeType} {name : String}
      (found : c.find? type.key = some type) (missing : f.startNode? = none) :
      Adds c f ⟨description,
        [.addNode (Node.fresh type (f.counter + 1) name), .setStart (f.counter + 1)],
        [.setStart f.start, .removeNode (f.counter + 1)]⟩
  | restarted {description : String} {type : NodeType} {name : String} {old new snapshot : Node}
      (found : c.find? type.key = some type) (event : type.isEvent = true)
      (starts : f.startNode? = some old) (free : isTakenBesides f (some old) name = false)
      (inherits : inheritNext (Node.fresh type (f.counter + 1) name) old = .ok new)
      (copied : c.copy old = .ok snapshot) :
      Adds c f ⟨description, [.addNode new, .setStart new.id, .removeNode old.id],
        [.addNode snapshot, .setStart old.id, .removeNode new.id]⟩

/-- All that a command can do: it is refused, breaks off, or performs an edit, and before the latter
two it may have used up an id. -/
inductive Does (c : Catalog) (e : Editor) : Edited → Prop
  | refused (reason : Refusal) : Does c e (e.refuse reason)
  | failed (error : EditError) : Does c e (e.fail error)
  | failedReserved (error : EditError) : Does c e (e.reserve.fail error)
  | performed {outcome : Outcome} {edit : Edit} (took : outcome.took = true)
      (alters : Alters c e.flow edit) : Does c e (e.perform c outcome edit)
  | performedReserved {outcome : Outcome} {edit : Edit} (took : outcome.took = true)
      (adds : Adds c e.flow edit) : Does c e (e.reserve.perform c outcome edit)

section
variable {c : Catalog} {e : Editor}

theorem refuse_editor (e : Editor) (reason : Refusal) : (e.refuse reason).editor = e := by
  unfold refuse
  split <;> rfl

theorem refuse_took (e : Editor) (reason : Refusal) : (e.refuse reason).outcome.took = false := by
  unfold refuse
  split <;> rfl

theorem createNode_does (type name : String) : Does c e (e.createNode c type name) := by
  unfold createNode
  split
  · exact .refused _
  · rename_i taken
    have free : e.flow.nodeNamed? name = none := by simpa using taken
    dsimp only
    cases made : c.make type e.reserve.flow.counter name with
    | error error => exact .failedReserved _
    | ok node =>
      unfold Catalog.make at made
      cases found : c.find? type with
      | none => rw [found] at made; cases made
      | some nodeType =>
        rw [found] at made
        cases made
        exact .performedReserved rfl (.created (Catalog.find?_self found) free)

theorem removeNode_does (name : String) : Does c e (e.removeNode c name) := by
  unfold removeNode
  cases named : e.flow.nodeNamed? name with
  | none => exact .refused _
  | some node =>
    dsimp only
    split
    · exact .refused _
    · rename_i other
      cases copied : c.copy node with
      | error error => exact .failed _
      | ok snapshot =>
        exact .performed rfl (.removed (Flow.mem_of_nodeNamed? named).1 other copied)

theorem renameNode_does (name newName : String) : Does c e (e.renameNode c name newName) := by
  unfold renameNode
  cases named : e.flow.nodeNamed? name with
  | none => exact .refused _
  | some node =>
    dsimp only
    split
    · exact .refused _
    · rename_i taken
      have free : e.flow.nodeNamed? newName = none := by
        simp only [Bool.or_eq_true, not_or, Bool.not_eq_true, Option.isSome_eq_false_iff,
          Option.isNone_iff_eq_none] at taken
        exact taken.2
      obtain ⟨hn, rfl⟩ := Flow.mem_of_nodeNamed? named
      exact .performed rfl (.renamed hn free)

theorem inheritNext_keeps {new old node : Node} (h : inheritNext new old = .ok node) :
    node.id = new.id ∧ node.type = new.type ∧ node.name = new.name := by
  unfold inheritNext at h
  dsimp only at h
  split at h
  · cases h
  · cases h
    exact ⟨rfl, rfl, rfl⟩

/-- A start that takes over successors still has one slot for each branch. -/
theorem fits_inheritNext {new old node : Node} (fits : new.Fits)
    (h : inheritNext new old = .ok node) : node.Fits := by
  unfold inheritNext at h
  dsimp only at h
  split at h
  · cases h
  · cases h
    refine ⟨fits.inputs, ?_⟩
    simp only [List.length_append, List.length_take, List.length_drop, fits.next]
    change _ = new.branchCount
    omega

theorem find?_of_eventType {key : String} {type : NodeType}
    (event : eventType c key = .ok type) :
    c.find? type.key = some type ∧ type.isEvent = true := by
  unfold eventType at event
  split at event
  · cases event
  · rename_i held
    split at event
    · rename_i isEvent
      cases event
      exact ⟨Catalog.find?_self held, isEvent⟩
    · cases event

theorem replaceStart_does (key name : String) : Does c e (e.replaceStart c key name) := by
  unfold replaceStart
  cases event : eventType c key with
  | error error => exact .failed _
  | ok type =>
    obtain ⟨found, isEvent⟩ := find?_of_eventType event
    dsimp only
    split
    · exact .refused _
    · rename_i free
      cases started : e.flow.startNode? with
      | none => exact .performedReserved rfl (.started found started)
      | some old =>
        dsimp only
        cases inherited : inheritNext (Node.fresh type e.reserve.flow.counter name) old with
        | error error => exact .failedReserved _
        | ok new =>
          cases copied : c.copy old with
          | error error => exact .failedReserved _
          | ok snapshot =>
            rw [started, Bool.not_eq_true] at free
            exact .performedReserved rfl (.restarted found isEvent started free inherited copied)

theorem isWorded_of_describe {flow : Option Flow} {source : Reference} {text : String}
    (described : source.describe flow = .ok text) : source.isWorded = true := by
  cases source with
  | output => rfl
  | constant value => exact (Value.format_eq_ok_iff.mp described).1

theorem connectInput_does {node : Node} (hn : node ∈ e.flow.nodes) (index : Nat)
    {source : Reference} (offered : e.flow.Offers source) :
    Does c e (e.connectInput c node index source) := by
  unfold connectInput
  split
  · exact .failed _
  · exact .failed _
  · rename_i described before
    exact .performed rfl (.inputSet hn before offered (isWorded_of_describe described))

theorem connectNext_does {node : Node} (hn : node ∈ e.flow.nodes) (index : Nat) {next : Int}
    (known : next = -1 ∨ ∃ m ∈ e.flow.nodes, m.id = next) :
    Does c e (e.connectNext c node index next) := by
  unfold connectNext
  split
  · exact .failed _
  · exact .failed _
  · rename_i shown before
    exact .performed rfl (.nextSet hn before known (Text.ofInt_eq_ok_iff.mp shown).1)

theorem setInput_does (name : String) (index : Int) {source : Reference}
    (offered : e.flow.Offers source) : Does c e (e.setInput c name index source) := by
  unfold setInput
  cases named : e.flow.nodeNamed? name with
  | none => exact .refused _
  | some node =>
    dsimp only
    split
    · exact connectInput_does (Flow.mem_of_nodeNamed? named).1 _ offered
    · exact .refused _

theorem isSlot_iff {index : Int} {count : Nat} :
    isSlot index count = true ↔ 0 ≤ index ∧ index < count := by
  simp [isSlot]

theorem setReference_does (name : String) (index : Int) (source : String) (sourceIndex : Int) :
    Does c e (e.setReference c name index source sourceIndex) := by
  unfold setReference
  split
  · exact .refused _
  · exact .refused _
  · rename_i named sourceNamed
    split
    · exact .refused _
    · split
      · exact .refused _
      · rename_i slot
        obtain ⟨lower, upper⟩ := isSlot_iff.mp (by simpa using slot)
        have from_ := (Flow.mem_of_nodeNamed? sourceNamed).1
        exact connectInput_does (Flow.mem_of_nodeNamed? named).1 _ ⟨_, from_, rfl, lower, upper⟩

theorem setNext_does (name : String) (index : Int) (next : String) :
    Does c e (e.setNext c name index next) := by
  unfold setNext
  split
  · exact .refused _
  · exact .refused _
  · rename_i named targetNamed
    split
    · have target := (Flow.mem_of_nodeNamed? targetNamed).1
      exact connectNext_does (Flow.mem_of_nodeNamed? named).1 _ (.inr ⟨_, target, rfl⟩)
    · exact .refused _

theorem disconnectNext_does (name : String) (index : Int) :
    Does c e (e.disconnectNext c name index) := by
  unfold disconnectNext
  cases named : e.flow.nodeNamed? name with
  | none => exact .refused _
  | some node =>
    dsimp only
    split
    · exact connectNext_does (Flow.mem_of_nodeNamed? named).1 _ (.inl rfl)
    · exact .refused _

theorem edit_does (command : Command) : Does c e (e.edit c command) := by
  cases command with
  | createNode type name => exact createNode_does type name
  | removeNode name => exact removeNode_does name
  | renameNode name newName => exact renameNode_does name newName
  | replaceStart type name => exact replaceStart_does type name
  | setConstant name index value => exact setInput_does name index trivial
  | setReference name index source sourceIndex =>
    exact setReference_does name index source sourceIndex
  | disconnectInput name index => exact setInput_does name index trivial
  | setNext name index next => exact setNext_does name index next
  | disconnectNext name index => exact disconnectNext_does name index

/-- A slot that is set can be set back. -/
theorem set_back {α : Type} {slots : List α} {index : Nat} {old : α}
    (before : slots[index]? = some old) (new : α) :
    index < slots.length ∧ (slots.set index new).set index old = slots := by
  obtain ⟨bound, value⟩ := List.getElem?_eq_some_iff.mp before
  rw [List.set_set, ← value, List.set_getElem_self]
  exact ⟨bound, rfl⟩

/-- Putting in a new start and taking out the old one is taken back by the opposite. -/
theorem links_replaceStart {description : String} {s : Shape} {new old : Node}
    (newRegistered : new.Registered c) (oldRegistered : old.Registered c)
    (absent : s.node? new.id = none) (present : s.node? old.id = some old)
    (start : s.start = old.id) :
    Edit.Links c ⟨description, [.addNode new, .setStart new.id, .removeNode old.id],
        [.addNode old, .setStart old.id, .removeNode new.id]⟩
      s (((s.put new).setStart new.id).erase old.id) := by
  constructor
  · exact ⟨newRegistered, .inl (by simp [Shape.after, Shape.put]), trivial, rfl⟩
  · refine ⟨oldRegistered, .inl (by simp [Shape.after, Shape.put]), trivial, ?_⟩
    have other : old.id ≠ new.id := by
      intro same
      rw [same, absent] at present
      cases present
    ext id m
    · rfl
    · simp [Shape.after, Shape.erase, Shape.setStart, start]
    · by_cases hn : id = new.id
      · simp [Shape.after, Shape.put, Shape.erase, Shape.setStart, hn, absent]
      · by_cases ho : id = old.id
        · simp [Shape.after, Shape.put, Shape.erase, Shape.setStart, ho, other, present]
        · simp [Shape.after, Shape.put, Shape.erase, Shape.setStart, hn, ho]

/-- An edit of the nodes of a flow leads to another structure and back. -/
theorem Alters.links {f : Flow} {edit : Edit} (alters : Alters c f edit) (h : f.Editable c) :
    ∃ t, edit.Links c f.shape t := by
  have present {n : Node} (hn : n ∈ f.nodes) : f.shape.node? n.id = some n :=
    Flow.node?_of_mem h.distinct hn
  cases alters with
  | removed hn other copied =>
    obtain ⟨rfl, registered⟩ := Catalog.copy_current (h.current _ hn) copied
    exact ⟨_, ⟨trivial, rfl⟩, registered, Shape.put_erase (present hn)⟩
  | renamed hn free => exact ⟨_, ⟨trivial, rfl⟩, trivial, Shape.modify_modify (present hn) rfl⟩
  | @inputSet _ node index source before hn slot offered =>
    obtain ⟨bound, restored⟩ := set_back slot source
    refine ⟨_, ⟨fun m hm => ?_, rfl⟩, fun m hm => ?_, Shape.modify_modify (present hn) ?_⟩
    · cases (present hn).symm.trans hm
      exact bound
    · simp only [Shape.after, Shape.modify, ↓reduceIte, present hn, Option.map_some,
        Option.some.injEq] at hm
      subst hm
      simpa using bound
    · exact congrArg (fun inputs => ({ node with inputs := inputs } : Node)) restored
  | @nextSet _ node index next before hn slot known =>
    obtain ⟨bound, restored⟩ := set_back slot next
    refine ⟨_, ⟨fun m hm => ?_, rfl⟩, fun m hm => ?_, Shape.modify_modify (present hn) ?_⟩
    · cases (present hn).symm.trans hm
      exact bound
    · simp only [Shape.after, Shape.modify, ↓reduceIte, present hn, Option.map_some,
        Option.some.injEq] at hm
      subst hm
      simpa using bound
    · exact congrArg (fun next => ({ node with next := next } : Node)) restored

/-- An edit that makes a node leads to another structure and back. -/
theorem Adds.links {f : Flow} {edit : Edit} (adds : Adds c f edit) (h : f.Editable c)
    (startable : f.shape.Startable) : ∃ t, edit.Links c f.shape t := by
  have absent : f.shape.node? (f.counter + 1) = none := Flow.node?_fresh h.bounded
  cases adds with
  | created found free => exact ⟨_, ⟨found, rfl⟩, trivial, Shape.erase_put absent⟩
  | started found missing =>
    -- Undo sets the start to an id that belongs to no node, and has to say so.
    have gone : f.shape.node? f.shape.start = none := missing
    have brief : Brief f.start := startable.resolve_left (by simp [gone])
    exact ⟨_, ⟨found, .inl (by simp [Shape.after, Shape.put, Node.fresh]), rfl⟩, .inr brief,
      trivial, Shape.erase_start absent⟩
  | @restarted _ type name old new snapshot found event starts free inherits copied =>
    obtain ⟨hn, same⟩ := Flow.mem_of_node? starts
    obtain ⟨newId, newType, -⟩ := inheritNext_keeps inherits
    obtain ⟨rfl, registered⟩ := Catalog.copy_current (h.current old hn) copied
    have newRegistered : new.Registered c := by
      unfold Node.Registered
      rw [newType]
      exact found
    exact ⟨_, links_replaceStart newRegistered registered (newId ▸ absent)
      (Flow.node?_of_mem h.distinct hn) same.symm⟩

/-- An edit of the nodes of a flow leaves its start. -/
theorem Alters.startable {f : Flow} {edit : Edit} (alters : Alters c f edit)
    (startable : f.shape.Startable) : (edit.forward.foldl Shape.after f.shape).Startable := by
  unfold Shape.Startable at startable ⊢
  cases alters with
  | removed hn other copied =>
    have kept : f.start ≠ _ := fun same => other same.symm
    simpa [Shape.after, Shape.erase, Flow.shape, kept] using startable
  | renamed | inputSet | nextSet =>
    refine startable.imp (fun present => ?_) id
    simp only [List.foldl_cons, List.foldl_nil, Shape.after, Shape.modify]
    split
    · simpa using present
    · exact present

/-- An edit that makes a node leaves the start or makes the node one. -/
theorem Adds.startable {f : Flow} {edit : Edit} (adds : Adds c f edit) (h : f.Editable c)
    (startable : f.shape.Startable) : (edit.forward.foldl Shape.after f.shape).Startable := by
  unfold Shape.Startable at startable ⊢
  cases adds with
  | created =>
    refine startable.imp (fun present => ?_) id
    simp only [List.foldl_cons, List.foldl_nil, Shape.after, Shape.put]
    split
    · rfl
    · exact present
  | started => exact .inl (by simp [Shape.after, Shape.put, Shape.setStart, Node.fresh])
  | @restarted _ type name old new snapshot found event starts free inherits copied =>
    have newId : new.id = f.counter + 1 := (inheritNext_keeps inherits).1
    have below := h.bounded old (Flow.mem_of_node? starts).1
    have other : new.id ≠ old.id := by omega
    exact .inl (by simp [Shape.after, Shape.put, Shape.setStart, Shape.erase, other])

/-- An edit that links structures is carried out as a whole and recorded. -/
theorem perform_links {outcome : Outcome} {edit : Edit} {t : Shape}
    (links : edit.Links c e.flow.shape t) :
    (e.perform c outcome edit).outcome = outcome ∧
    (e.perform c outcome edit).editor.undoable = edit :: e.undoable ∧
    (e.perform c outcome edit).editor.redoable = [] ∧
    (e.perform c outcome edit).editor.flow.shape = t := by
  obtain ⟨fine, shape⟩ := applyAll_leads links.forward
  simp only [perform, fine, shape, and_self]

theorem perform_flow (outcome : Outcome) (edit : Edit) :
    (e.perform c outcome edit).editor.flow = (applyAll c e.flow edit.forward).flow := by
  unfold perform
  dsimp only
  split <;> rfl

/-- A command does nothing to a flow but use up an id and apply changes. -/
theorem Does.flow {d : Edited} (does : Does c e d) :
    ∃ f changes, (f = e.flow ∨ f = e.flow.reserveId) ∧
      d.editor.flow = (applyAll c f changes).flow := by
  cases does with
  | refused reason => exact ⟨e.flow, [], Or.inl rfl, by rw [refuse_editor, applyAll]⟩
  | failed => exact ⟨e.flow, [], Or.inl rfl, rfl⟩
  | failedReserved => exact ⟨e.flow.reserveId, [], Or.inr rfl, rfl⟩
  | performed => exact ⟨_, _, Or.inl rfl, perform_flow _ _⟩
  | performedReserved => exact ⟨_, _, Or.inr rfl, perform_flow _ _⟩

theorem Does.editable {d : Edited} (does : Does c e d) (h : e.flow.Editable c) :
    d.editor.flow.Editable c := by
  obtain ⟨f, changes, first, after⟩ := does.flow
  rw [after]
  rcases first with rfl | rfl
  · exact applyAll_editable h
  · exact applyAll_editable (Flow.editable_reserveId h)

/-- A command that was not carried out leaves structure and stacks alone. -/
theorem Does.idle {d : Edited} (does : Does c e d) (h : e.flow.Editable c)
    (startable : e.flow.shape.Startable) (idle : d.outcome.took = false) :
    d.editor.flow.shape = e.flow.shape ∧ d.editor.undoable = e.undoable ∧
    d.editor.redoable = e.redoable := by
  cases does with
  | refused reason => rw [refuse_editor]; exact ⟨rfl, rfl, rfl⟩
  | failed => exact ⟨rfl, rfl, rfl⟩
  | failedReserved => exact ⟨rfl, rfl, rfl⟩
  | performed took alters =>
    obtain ⟨t, links⟩ := alters.links h
    rw [(perform_links links).1, took] at idle
    cases idle
  | performedReserved took adds =>
    obtain ⟨t, links⟩ := adds.links h startable
    rw [(perform_links (e := e.reserve) links).1, took] at idle
    cases idle

/-- A command that was carried out is recorded as one edit, with nothing left to redo. -/
theorem Does.took {d : Edited} (does : Does c e d) (h : e.flow.Editable c)
    (startable : e.flow.shape.Startable) (took : d.outcome.took = true) :
    ∃ edit : Edit, d.editor.undoable = edit :: e.undoable ∧ d.editor.redoable = [] ∧
      edit.Links c e.flow.shape d.editor.flow.shape ∧ d.editor.flow.shape.Startable := by
  cases does with
  | refused reason => rw [refuse_took] at took; cases took
  | failed => cases took
  | failedReserved => cases took
  | performed _ alters =>
    obtain ⟨t, links⟩ := alters.links h
    obtain ⟨-, undoable, redoable, shape⟩ := perform_links links
    have after := links.forward.eq_foldl ▸ alters.startable startable
    exact ⟨_, undoable, redoable, shape ▸ links, shape ▸ after⟩
  | performedReserved _ adds =>
    obtain ⟨t, links⟩ := adds.links h startable
    obtain ⟨-, undoable, redoable, shape⟩ := perform_links (e := e.reserve) links
    have after := links.forward.eq_foldl ▸ adds.startable h startable
    exact ⟨_, undoable, redoable, shape ▸ links, shape ▸ after⟩

end

end Editor

end EventFlow
