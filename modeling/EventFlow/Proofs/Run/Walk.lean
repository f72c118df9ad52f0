import EventFlow.Proofs.Run.Step

/-!
The walk of a run as a sequence of steps.

* `Reaches`: the node that is about to run after a number of steps, and where the run stands then;
* `outcome_ends`: every run comes to such a node and ends there, in one of three ways;
* `execute_stepCount`: the counter of a run agrees with its trace.
-/

namespace EventFlow.Progress

/-- After a number of steps from a start, a node is about to run. -/
inductive Reaches (flow : Flow) (listener : Listener) (start : Node) (first : Progress) :
    Nat → Node → Progress → Prop where
  | start : Reaches flow listener start first 0 start first
  | step {k : Nat} {node next : Node} {p q : Progress}
      (before : Reaches flow listener start first k node p)
      (ran : p.step flow listener node = (q, .ok (some next))) :
      Reaches flow listener start first (k + 1) next (q.record node.id)

/-- How a walk ends at the node that is about to run after `k` steps of the allowed ones. -/
inductive Ends (flow : Flow) (listener : Listener) (limit : Int) (allowed k : Nat) (node : Node)
    (p : Progress) : Progress × Option Failure → Prop where
  | cutOff (used : k = allowed) : Ends flow listener limit allowed k node p
      (p, some (.showing limit (.deadLoop flow.name limit)))
  | failed {q : Progress} {failure : Failure} (early : k < allowed)
      (ran : p.step flow listener node = (q, .error failure)) :
      Ends flow listener limit allowed k node p (q, some failure)
  | finished {q : Progress} (early : k < allowed)
      (ran : p.step flow listener node = (q, .ok none)) :
      Ends flow listener limit allowed k node p (q.record node.id, none)

variable {flow : Flow} {listener : Listener} {start : Node} {first : Progress}

theorem walk_ends (limit : Int) {k : Nat} {node : Node} {p : Progress} (steps : Nat)
    (reached : Reaches flow listener start first k node p) :
    ∃ l last q, Reaches flow listener start first l last q ∧
      Ends flow listener limit (k + steps) l last q (walk flow listener limit steps node p) := by
  induction steps generalizing k node p with
  | zero => exact ⟨k, node, p, reached, .cutOff rfl⟩
  | succ steps ih =>
    unfold walk
    cases ran : p.step flow listener node with
    | mk q result =>
      cases result with
      | error failure => exact ⟨k, node, p, reached, .failed (by omega) ran⟩
      | ok next? =>
        cases next? with
        | none => exact ⟨k, node, p, reached, .finished (by omega) ran⟩
        | some next =>
          have later := ih (reached.step ran)
          rwa [Nat.add_assoc, Nat.add_comm 1 steps] at later

theorem Balanced.walk {p : Progress} (h : p.Balanced) (flow : Flow) (listener : Listener)
    (limit : Int) (steps : Nat) (node : Node) :
    (p.walk flow listener limit steps node).1.Balanced := by
  induction steps generalizing node p with
  | zero => exact h
  | succ steps ih =>
    unfold Progress.walk
    cases ran : p.step flow listener node with
    | mk q result =>
      have stepped := h.step ran
      cases result with
      | error failure => exact stepped
      | ok next? =>
        cases next? with
        | none => exact stepped.record node.id
        | some next => exact ih (stepped.record node.id) next

end EventFlow.Progress

namespace EventFlow.Run

/-- A run with a start comes to a node that is about to run, and ends there. -/
theorem outcome_ends {flow : Flow} {start : Node} (there : flow.startNode? = some start)
    (limit : Int) (listener : Listener) (payload : List Value) (bindings : Bindings) :
    ∃ k node p,
      Progress.Reaches flow listener start (Progress.initial flow payload bindings) k node p ∧
        Progress.Ends flow listener limit (allowance limit) k node p
          (outcome flow limit listener payload bindings) := by
  unfold outcome
  rw [there]
  have entry : Progress.Reaches flow listener start (Progress.initial flow payload bindings) 0 start
    (Progress.initial flow payload bindings) := .start
  obtain ⟨k, node, p, reached, ended⟩ := Progress.walk_ends limit (allowance limit) entry
  rw [Nat.zero_add] at ended
  exact ⟨k, node, p, reached, ended⟩

theorem outcome_missing {flow : Flow} (missing : flow.startNode? = none) (limit : Int)
    (listener : Listener) (payload : List Value) (bindings : Bindings) :
    outcome flow limit listener payload bindings =
      (⟨flow.nodes.map Status.fresh, [], #[], 0, #[], #[]⟩, some (.missingStart flow.name)) := by
  unfold outcome
  rw [missing]

/-- The counter of a run and its trace agree, however the run ends. -/
theorem outcome_balanced (flow : Flow) (limit : Int) (listener : Listener) (payload : List Value)
    (bindings : Bindings) : (outcome flow limit listener payload bindings).1.Balanced := by
  unfold outcome
  split
  · rfl
  · have first : (Progress.initial flow payload bindings).Balanced := rfl
    exact first.walk flow listener limit _ _

theorem execute_stepCount (r : Run) (payload : List Value) (bindings : Bindings) :
    (r.execute payload bindings).1.stepCount = (r.execute payload bindings).1.trace.length :=
  outcome_balanced r.flow r.limit r.listener payload bindings

end EventFlow.Run
