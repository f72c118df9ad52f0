import EventFlow.Proofs.Flow.Saying
import EventFlow.Proofs.Run.Checked

/-!
Which runs can be put into words: those of flows and payloads without integers of too many digits.
The built-in types make no integers of their own, so none turns up on the way.

* `Status.Sayable`, `Progress.Sayable`: what a run knows of a node, and where it stands, can be
  said;
* `Node.actions_sayable`: so can what a node does with inputs that can be said;
* `Progress.Sayable.step`, `Progress.Sayable.walk`: so it stays, step by step;
* `Run.execute_sayable`, `Run.exists_describe`: and the whole run can be described.
-/

namespace EventFlow

/-- The values and the successor that a status shows can be said. -/
structure Status.Sayable (s : Status) : Prop where
  inputs : ∀ v ∈ s.inputs, v.isBrief = true
  outputs : ∀ v ∈ s.outputs, v.isBrief = true
  next : Brief s.next

/-- All values of variables can be said. -/
def Bindings.Sayable (b : Bindings) : Prop :=
  ∀ p ∈ b, p.2.isBrief = true

/-- A run stands where everything that it shows can be said. -/
structure Progress.Sayable (p : Progress) : Prop where
  statuses : ∀ s ∈ p.statuses, s.Sayable
  bindings : p.bindings.Sayable
  trace : ∀ s ∈ p.trace.toList, s.Sayable

/-- The value that an action writes or binds can be said. -/
def Action.Sayable : Action → Prop
  | .write _ value => value.isBrief = true
  | .bind _ value => value.isBrief = true
  | .send _ => True
  | .fail _ => True

/-- All steps of a run can be said. -/
def Run.Sayable (r : Run) : Prop :=
  ∀ s ∈ r.trace, s.Sayable

namespace Operator

variable {a b v : Value} {op : String}

theorem NumberOp.apply_brief {f : NumberOp} {x y : Scalar} (given : f.apply x y = .ok v) :
    v.isBrief = true := by
  have float {r : Result Scalar} (given : r.map Value.float = .ok v) : v.isBrief = true := by
    obtain ⟨x, -, rfl⟩ := Except.exists_of_map_eq_ok given
    rfl
  cases f with
  | divide | modulo | power | log => exact float given
  | _ =>
    cases given
    rfl

theorem TextOp.apply_brief (f : TextOp) (s t : String) : (f.apply s t).isBrief = true := by
  have position (found : Option Nat) : (position found).isBrief = true := by
    cases found <;> rfl
  cases f with
  | indexOf | lastIndexOf => exact position _
  | _ => rfl

theorem vector_brief (given : vector a b op = .ok v) : v.isBrief = true := by
  have scaled {r : Result Scalar} {scale : Scalar → Value} (vectors : ∀ x, (scale x).isBrief = true)
      (given : r.map scale = .ok v) : v.isBrief = true := by
    obtain ⟨x, -, rfl⟩ := Except.exists_of_map_eq_ok given
    exact vectors x
  unfold vector at given
  grind [Value.isBrief]

theorem scalar_brief (given : scalar a b op = .ok v) : v.isBrief = true := by
  unfold scalar at given
  dsimp only at given
  split at given
  · obtain ⟨x, -, given⟩ := Except.exists_of_bind_eq_ok given
    obtain ⟨y, -, given⟩ := Except.exists_of_bind_eq_ok given
    exact NumberOp.apply_brief given
  · split at given
    · cases given
      rfl
    · split at given
      · split at given
        · obtain ⟨s, -, given⟩ := Except.exists_of_bind_eq_ok given
          obtain ⟨t, -, given⟩ := Except.exists_of_bind_eq_ok given
          cases given
          exact TextOp.apply_brief _ s t
        · cases given
      · cases given

/-- Operators make no integers: one that is given was an operand. -/
theorem binary_brief (first : a.isBrief = true) (second : b.isBrief = true)
    (given : binary a b op = .ok v) : v.isBrief = true := by
  unfold binary at given
  split at given
  · cases given
    rfl
  split at given
  · cases given
    rfl
  split at given
  · cases given
    exact second
  split at given
  · cases given
    exact first
  split at given
  · exact vector_brief given
  · exact scalar_brief given

theorem unary_brief (given : unary a op = .ok v) : v.isBrief = true := by
  unfold unary at given
  dsimp only at given
  split at given
  · cases given
    rfl
  · grind [Value.isBrief]
  · grind [Value.isBrief]
  · grind [Value.isBrief]
  · split at given
    · obtain ⟨x, -, given⟩ := Except.exists_of_bind_eq_ok given
      obtain ⟨y, -, given⟩ := Except.exists_of_bind_eq_ok given
      cases given
      rfl
    · cases given
  · split at given
    · obtain ⟨x, -, rfl⟩ := Except.exists_of_map_eq_ok given
      rfl
    · cases given
  · split at given
    · rename_i f _
      cases given
      cases f <;> rfl
    · cases given

end Operator

namespace Bindings

variable {b : Bindings} {name : String} {value : Value}

theorem Sayable.get (h : b.Sayable) (name : String) : (b.get name).isBrief = true := by
  unfold Bindings.get
  cases found : b.lookup name with
  | none => rfl
  | some value =>
    obtain ⟨before, after, split, -⟩ := List.lookup_eq_some_iff.mp found
    exact h (name, value) (split ▸ by simp)

theorem Sayable.set (h : b.Sayable) (brief : value.isBrief = true) :
    (b.set name value).Sayable := by
  induction b with
  | nil => exact List.forall_mem_singleton.mpr brief
  | cons first rest ih =>
    obtain ⟨own, others⟩ := List.forall_mem_cons.mp h
    unfold Bindings.set
    split
    · exact List.forall_mem_cons.mpr ⟨brief, others⟩
    · exact List.forall_mem_cons.mpr ⟨own, ih others⟩

theorem Sayable.update {others : Bindings} (h : b.Sayable) (also : others.Sayable) :
    (b.update others).Sayable := by
  unfold Bindings.update
  induction others generalizing b with
  | nil => exact h
  | cons first rest ih =>
    obtain ⟨own, later⟩ := List.forall_mem_cons.mp also
    exact ih (h.set own) later

end Bindings

/-- A node of a built-in type does nothing that cannot be said, if its inputs can be said. -/
theorem Node.actions_sayable {n : Node} (builtin : n.type ∈ Catalog.standard) {bindings : Bindings}
    (bound : bindings.Sayable) {inputs : List Value} (brief : ∀ v ∈ inputs, v.isBrief = true)
    {action : Action} (h : action ∈ n.actions bindings inputs) : action.Sayable := by
  have written {result : Operator.Result Value} (each : ∀ v, result = .ok v → v.isBrief = true)
      (h : action ∈ n.writeResult result) : action.Sayable := by
    cases result with
    | ok v =>
      rw [List.mem_singleton.mp h]
      exact each v rfl
    | error failure =>
      rw [List.mem_singleton.mp h]
      trivial
  have kinds := NodeType.computation_of_builtin builtin
  simp only [List.mem_cons, List.not_mem_nil, or_false] at kinds
  unfold Node.actions at h
  split at h
  · unfold Node.add at h
    grind [Action.Sayable, Value.isBrief]
  · rename_i a b op _
    refine written (fun v given => ?_) h
    obtain ⟨name, -, given⟩ := Except.exists_of_bind_eq_ok given
    exact Operator.binary_brief (brief a (by simp)) (brief b (by simp)) given
  · rename_i a op _
    refine written (fun v given => ?_) h
    obtain ⟨name, -, given⟩ := Except.exists_of_bind_eq_ok given
    exact Operator.unary_brief given
  · unfold Node.readVariable at h
    split at h
    · rw [List.mem_singleton.mp h]
      trivial
    · rw [List.mem_singleton.mp h]
      exact bound.get _
  · rename_i name value _
    unfold Node.writeVariable at h
    split at h
    · rw [List.mem_singleton.mp h]
      trivial
    · rcases List.mem_pair.mp h with rfl | rfl
      · exact brief value (by simp)
      · exact bound.get _
  · unfold Node.sendMessage at h
    grind [Action.Sayable]
  · grind
  · grind
  · grind
  · grind

namespace Progress

variable {flow : Flow} {listener : Listener} {node : Node} {p q : Progress}

theorem Sayable.status? (h : p.Sayable) {id : Int} {s : Status} (there : p.status? id = some s) :
    s.Sayable :=
  h.statuses s (List.mem_of_find?_eq_some there)

theorem Sayable.modify (h : p.Sayable) (id : Int) {change : Status → Status}
    (keeps : ∀ s, s.Sayable → (change s).Sayable) : (p.modify id change).Sayable := by
  refine ⟨?_, h.bindings, h.trace⟩
  simp only [Progress.modify, List.forall_mem_map]
  intro s member
  split
  · exact keeps s (h.statuses s member)
  · exact h.statuses s member

theorem Sayable.record (h : p.Sayable) (id : Int) : (p.record id).Sayable := by
  unfold Progress.record
  split
  · rename_i s there
    refine ⟨h.statuses, h.bindings, ?_⟩
    rw [Array.toList_push, List.forall_mem_append]
    exact ⟨h.trace, List.forall_mem_singleton.mpr (h.status? there)⟩
  · exact h

/-- What an input reads is its constant, or what an output shows. -/
theorem Sayable.resolve (h : p.Sayable) {source : Reference} (sayable : source.Sayable) {v : Value}
    (read : Progress.resolve flow p source = .ok v) : v.isBrief = true := by
  cases source with
  | constant value =>
    cases read
    exact sayable
  | output id index =>
    simp only [Progress.resolve] at read
    split at read
    · cases read
    split at read
    · cases read
    · rename_i s there
      split at read
      · cases read
      split at read
      · split at read
        · rename_i value slot
          cases read
          exact (h.status? there).outputs v (List.mem_of_getElem? slot)
        · cases read
      · cases read

theorem Sayable.inputs (h : p.Sayable) (sayable : node.Sayable) {inputs : List Value}
    (read : node.inputs.mapM (Progress.resolve flow p) = .ok inputs) :
    ∀ v ∈ inputs, v.isBrief = true := by
  intro v member
  obtain ⟨source, slot, read⟩ :=
    List.exists_of_forall₂ ((List.mapM_eq_ok_iff _ _ _).mp read) member
  exact h.resolve (sayable.inputs source slot) read

theorem Sayable.perform (h : p.Sayable) {action : Action} (sayable : action.Sayable) :
    (p.perform listener node action).1.Sayable := by
  cases action with
  | write index value =>
    simp only [Progress.perform]
    split
    · refine h.modify node.id fun s shown => ⟨shown.inputs, fun v member => ?_, shown.next⟩
      rcases List.mem_or_eq_of_mem_set member with member | rfl
      · exact shown.outputs v member
      · exact sayable
    · split <;> exact h
  | bind name value => exact ⟨h.statuses, h.bindings.set sayable, h.trace⟩
  | send message => exact ⟨h.statuses, h.bindings, h.trace⟩
  | fail failure => exact h

theorem Sayable.performAll (h : p.Sayable) {actions : List Action}
    (sayable : ∀ action ∈ actions, action.Sayable) :
    (p.performAll listener node actions).1.Sayable := by
  induction actions generalizing p with
  | nil => exact h
  | cons action rest ih =>
    obtain ⟨first, others⟩ := List.forall_mem_cons.mp sayable
    have after : (p.perform listener node action).1.Sayable := h.perform first
    unfold Progress.performAll
    cases done : p.perform listener node action with
    | mk q end? =>
      rw [done] at after
      cases end? with
      | none => exact ih after others
      | some failure => exact after

/-- What a node leaves behind when it has acted, or has broken off. -/
theorem Sayable.acted (h : p.Sayable) (builtin : node.type ∈ Catalog.standard)
    (sayable : node.Sayable) {inputs : List Value}
    (read : node.inputs.mapM (Progress.resolve flow p) = .ok inputs) {end? : Option Failure}
    (acted : (p.shows node inputs).performAll listener node (node.actions p.bindings inputs) =
      (q, end?)) : q.Sayable := by
  have brief := h.inputs sayable read
  have shown : (p.shows node inputs).Sayable :=
    h.modify node.id fun s shown => ⟨brief, shown.outputs, shown.next⟩
  have after : ((p.shows node inputs).performAll listener node
      (node.actions p.bindings inputs)).1.Sayable :=
    shown.performAll fun _ => Node.actions_sayable builtin h.bindings brief
  rwa [acted] at after

theorem Sayable.turns (h : p.Sayable) (taken : Option Int) {next : Int} (brief : Brief next) :
    (p.turns node taken next).Sayable := by
  have ran : (p.modify node.id fun s => { s with executed := true }).Sayable :=
    h.modify node.id fun _ shown => ⟨shown.inputs, shown.outputs, shown.next⟩
  exact ran.modify node.id fun _ shown => ⟨shown.inputs, shown.outputs, brief⟩

/-- A node leads nowhere, or where one of its branches does. -/
theorem brief_of_successor (sayable : node.Sayable) {taken : Option Int} {next : Int}
    (goes : successor node taken = .ok next) : Brief next := by
  have nowhere : Brief (-1) := brief_of_natAbs_le (by decide)
  cases taken with
  | none =>
    cases goes
    exact nowhere
  | some b =>
    obtain ⟨-, -, rfl⟩ := successor_ok goes
    rw [List.getD_eq_getElem?_getD]
    cases slot : node.next[b.toNat]? with
    | none => exact nowhere
    | some id => exact sayable.next id (List.mem_of_getElem? slot)

/-- A step of a node that can be said leads to where all can be said. -/
theorem Sayable.step (h : p.Sayable) (builtin : node.type ∈ Catalog.standard)
    (sayable : node.Sayable) (flow : Flow) (listener : Listener) :
    (p.step flow listener node).1.Sayable := by
  have ends := stepped flow listener node p
  generalize (p.step flow listener node).1 = q, (p.step flow listener node).2 = result at ends
  cases ends with
  | unread => exact h
  | unacted read acted => exact h.acted builtin sayable read acted
  | unbranched read acted => exact h.acted builtin sayable read acted
  | unfollowed read acted =>
    exact (h.acted builtin sayable read acted).modify node.id fun s shown =>
      ⟨shown.inputs, shown.outputs, shown.next⟩
  | lost read acted took goes =>
    exact (h.acted builtin sayable read acted).turns _ (brief_of_successor sayable goes)
  | @done inputs q taken next read acted took goes =>
    obtain ⟨log, followed⟩ := follow_logs node (q.turns node taken next) flow next
    have turned : (q.turns node taken next).Sayable :=
      (h.acted builtin sayable read acted).turns taken (brief_of_successor sayable goes)
    rw [followed]
    exact ⟨turned.statuses, turned.bindings, turned.trace⟩

theorem Sayable.walk (h : p.Sayable) (builtin : ∀ n ∈ flow.nodes, n.type ∈ Catalog.standard)
    (sayable : ∀ n ∈ flow.nodes, n.Sayable) (listener : Listener) (limit : Int) (steps : Nat)
    (present : node ∈ flow.nodes) : (p.walk flow listener limit steps node).1.Sayable := by
  induction steps generalizing node p with
  | zero => exact h
  | succ steps ih =>
    have after := h.step (builtin node present) (sayable node present) flow listener
    unfold Progress.walk
    cases ran : p.step flow listener node with
    | mk q result =>
      rw [ran] at after
      cases result with
      | error failure => exact after
      | ok next? =>
        cases next? with
        | none => exact after.record node.id
        | some next =>
          obtain ⟨inputs, taken, id, -, -, -, onwards, -⟩ := step_ok ran
          exact ih (after.record node.id) (Flow.mem_of_node? (node?_of_onward onwards.symm)).1

theorem sayable_initial (flow : Flow) {payload : List Value} {bindings : Bindings}
    (brief : ∀ v ∈ payload, v.isBrief = true) (bound : bindings.Sayable) :
    (initial flow payload bindings).Sayable := by
  have nothing : Bindings.Sayable [] := by simp [Bindings.Sayable]
  have fresh : ∀ s ∈ flow.nodes.map Status.fresh, s.Sayable := by
    simp only [List.forall_mem_map]
    intro n _
    have none' : Brief (-1) := brief_of_natAbs_le (by decide)
    exact ⟨by simp [Status.fresh], by simp [Status.fresh, Value.isBrief], none'⟩
  have first :
      Sayable ⟨flow.nodes.map Status.fresh, Bindings.update [] bindings, #[], 0, #[], #[]⟩ :=
    ⟨fresh, nothing.update bound, by simp⟩
  refine first.modify flow.start fun s shown => ⟨shown.inputs, fun v member => ?_, shown.next⟩
  rcases List.mem_append.mp member with member | member
  · exact brief v (List.mem_of_mem_take member)
  · exact shown.outputs v (List.mem_of_mem_drop member)

end Progress

section Describe

theorem Status.exists_named {values : List Value} (ports : List Port)
    (brief : ∀ v ∈ values, v.isBrief = true) : ∃ text, named ports values = .ok text := by
  refine Except.exists_map_eq_ok_iff.mpr (Worded.exists_all_iff.mpr fun text member => ?_)
  obtain ⟨i, slot, rfl⟩ := List.mem_mapIdx.mp member
  exact Except.exists_map_eq_ok_iff.mpr
    ⟨_, Value.format_brief (brief _ (List.getElem_mem slot))⟩

theorem Status.exists_describe {s : Status} (h : s.Sayable) (step : Nat) (flow : Flow) :
    ∃ text, s.describe step flow = .ok text := by
  obtain ⟨inputs, shown⟩ := exists_named
    (((flow.node? s.node).map fun n => n.type.layout).elim [] Layout.inputs) h.inputs
  obtain ⟨outputs, done⟩ := exists_named
    (((flow.node? s.node).map fun n => n.type.layout).elim [] Layout.outputs) h.outputs
  have next : ∃ text, (if s.next < 0 then .ok "end" else flow.nodeLabel s.next) =
      (.ok text : Worded String) := by
    split
    · exact ⟨_, rfl⟩
    · exact Flow.exists_nodeLabel h.next
  obtain ⟨next, leads⟩ := next
  unfold describe
  dsimp only
  rw [shown, done, leads]
  exact ⟨_, rfl⟩

/-- A run whose steps can be said is described. -/
theorem Run.exists_describe {r : Run} (h : r.Sayable) (label : String) :
    ∃ text, r.describe label = .ok text := by
  refine Except.exists_map_eq_ok_iff.mpr (Worded.exists_all_iff.mpr fun text member => ?_)
  obtain ⟨i, slot, rfl⟩ := List.mem_mapIdx.mp member
  exact Status.exists_describe (h _ (List.getElem_mem slot)) (i + 1) r.flow

/-- A run of built-in nodes can be said if its flow and what it starts with can be. -/
theorem Run.execute_sayable {r : Run} (builtin : ∀ n ∈ r.flow.nodes, n.type ∈ Catalog.standard)
    (sayable : ∀ n ∈ r.flow.nodes, n.Sayable) {payload : List Value} {bindings : Bindings}
    (brief : ∀ v ∈ payload, v.isBrief = true) (bound : bindings.Sayable) :
    (r.execute payload bindings).1.Sayable := by
  change ∀ s ∈ (outcome r.flow r.limit r.listener payload bindings).1.trace.toList, s.Sayable
  unfold outcome
  split
  · simp
  · rename_i start there
    have first := Progress.sayable_initial r.flow brief bound
    exact (first.walk builtin sayable r.listener r.limit _ (Flow.mem_of_node? there).1).trace

end Describe

end EventFlow
