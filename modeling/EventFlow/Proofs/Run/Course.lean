import EventFlow.Proofs.Run.DataFlow
import Mathlib.Data.List.Chain

/-!
The course of a run: the path of its trace through the flow, and where and why it stops.

* `Walks`: a trace begins at the start, and each entry leads to the next along the branch it took;
* `Stopped`: what a run shows that has stopped for a reason;
* `execute_course`: the trace of every run is such a path, no longer than the limit allows, and the
  run stops for exactly one reason;
* `execute_unreasoned`: a limit that cannot be said is no such reason.
-/

namespace EventFlow

/-- An entry took one of the branches of its node, to the successor that the node has there. -/
def Status.Took (flow : Flow) (s : Status) : Prop :=
  ∃ (node : Node) (b : Nat), flow.node? s.node = some node ∧ s.branch = some (b : Int) ∧
    b < node.branchCount ∧ node.next[b]? = some s.next

/-- A trace that leads from the start through the flow, along the branches that its entries took. -/
structure Walks (flow : Flow) (trace : List Status) : Prop where
  first : ∀ s, trace.head? = some s → s.node = flow.start
  took : ∀ s ∈ trace, s.Took flow
  linked : trace.IsChain fun s t => t.node = s.next

/-- Every node of a built-in type has a branch to take. -/
theorem NodeType.branches_of_builtin {type : NodeType} (builtin : type ∈ Catalog.standard) :
    0 < type.layout.branches.length := by
  have all : ∀ t ∈ Catalog.standard, 0 < t.layout.branches.length := by decide
  exact all type builtin

namespace Progress

theorem walks_nil (flow : Flow) : Walks flow [] :=
  ⟨by simp, by simp, .nil⟩

/-- A path goes on with an entry of the node that is to run. -/
theorem walks_concat {flow : Flow} {trace : List Status} {s : Status} {node : Node}
    (h : Walks flow trace) (coming : upcoming? flow trace = some node) (own : s.node = node.id)
    (took : s.Took flow) : Walks flow (trace ++ [s]) := by
  unfold upcoming? at coming
  refine ⟨?_, ?_, ?_⟩
  · intro t entry
    cases trace with
    | nil =>
      obtain rfl : s = t := by simpa using entry
      rw [own]
      exact (Flow.mem_of_node? coming).2
    | cons u rest => exact h.first t (by simpa using entry)
  · intro t entry
    rcases List.mem_append.mp entry with entry | entry
    · exact h.took t entry
    · rwa [List.mem_singleton.mp entry]
  · rw [List.isChain_append]
    refine ⟨h.linked, .singleton s, ?_⟩
    intro last isLast t isNext
    obtain rfl : s = t := by simpa using isNext
    have leads : onward flow last.next = some node := by
      rw [Option.mem_def.mp isLast] at coming
      exact coming
    unfold onward at leads
    split at leads
    · cases leads
    · rw [own]
      exact (Flow.mem_of_node? leads).2

theorem successor_ok {node : Node} {b next : Int} (h : successor node (some b) = .ok next) :
    0 ≤ b ∧ b < node.branchCount ∧ next = node.next.getD b.toNat (-1) := by
  simp only [successor] at h
  split at h
  · rename_i slot
    obtain ⟨lower, upper⟩ := by simpa using slot
    cases h
    exact ⟨lower, upper, rfl⟩
  · cases h

theorem mem_next_of_successor {node : Node} {taken : Option Int} {next : Int}
    (goes : successor node taken = .ok next) (nonneg : 0 ≤ next) : next ∈ node.next := by
  cases taken with
  | none =>
    cases goes
    contradiction
  | some b =>
    obtain ⟨-, -, rfl⟩ := successor_ok goes
    rw [List.getD_eq_getElem?_getD] at nonneg ⊢
    cases slot : node.next[b.toNat]? with
    | none =>
      rw [slot] at nonneg
      contradiction
    | some id => exact List.mem_of_getElem? slot

/-- The entry of a step names the branch that the node took and the successor there. -/
theorem took_of_step {flow : Flow} {node : Node} {s : Status} {inputs : List Value}
    {taken : Option Int} {next : Int} (actions : List Action)
    (there : flow.node? node.id = some node) (fits : node.Fits) (branches : 0 < node.branchCount)
    (own : s.node = node.id) (took : branch node inputs = .ok taken)
    (goes : successor node taken = .ok next) :
    (s.ran inputs actions taken next).Took flow := by
  unfold branch at took
  rw [if_neg (Nat.ne_of_gt branches)] at took
  obtain ⟨b, -, rfl⟩ := Except.exists_of_map_eq_ok took
  obtain ⟨lower, upper, rfl⟩ := successor_ok goes
  have inside : b.toNat < node.next.length := by
    rw [fits.next]
    omega
  refine ⟨node, b.toNat, ?_, ?_, by omega, ?_⟩
  · exact own ▸ there
  · simp only [Status.ran, Int.toNat_of_nonneg lower]
  · simp only [Status.ran, List.getD_eq_getElem?_getD, List.getElem?_eq_getElem inside,
      Option.getD_some]

/-- What a flow needs for its runs to be paths: the nodes have the slots of their types, and each
has a branch. -/
structure Branching (flow : Flow) : Prop where
  fits : ∀ n ∈ flow.nodes, n.Fits
  branches : ∀ n ∈ flow.nodes, 0 < n.branchCount

/-- A trace of a number of steps leads through the flow. -/
structure Coursed (flow : Flow) (k : Nat) (p : Progress) : Prop where
  walks : Walks flow p.trace.toList
  steps : p.trace.size = k
  balanced : p.Balanced

theorem coursed_initial (flow : Flow) (payload : List Value) (bindings : Bindings) :
    (initial flow payload bindings).Coursed flow 0 :=
  ⟨walks_nil flow, rfl, rfl⟩

section Steps

variable {flow : Flow} {listener : Listener} {node : Node} {p q : Progress}

theorem Coursed.step {next? : Option Node} {k : Nat} (h : p.Coursed flow k)
    (branching : Branching flow) (known : p.Known flow)
    (there : flow.node? node.id = some node)
    (coming : upcoming? flow p.trace.toList = some node)
    (ran : p.step flow listener node = (q, .ok next?)) :
    (q.record node.id).Coursed flow (k + 1) := by
  obtain ⟨s, status⟩ := known.status there
  obtain ⟨inputs, taken, next, -, took, goes, -, trace, -⟩ := step_records status ran
  have own : s.node = node.id := status?_node status
  obtain ⟨mem, -⟩ := Flow.mem_of_node? there
  have entry := took_of_step (node.actions p.bindings inputs) there (branching.fits node mem)
    (branching.branches node mem) own took goes
  refine ⟨?_, ?_, (h.balanced.step ran).record node.id⟩
  · rw [trace]
    exact walks_concat h.walks coming own entry
  · rw [known.counts there ran, h.steps]

theorem reaches_coursed {start : Node} {payload : List Value} {bindings : Bindings} {k : Nat}
    (branching : Branching flow) (begins : flow.startNode? = some start)
    (reached : Reaches flow listener start (initial flow payload bindings) k node p) :
    p.Coursed flow k := by
  induction reached with
  | start => exact coursed_initial flow payload bindings
  | step before ran ih =>
    obtain ⟨known, present, coming⟩ := reaches_known begins before
    exact ih.step branching known present coming ran

theorem resolve_failure {source : Reference} {failure : Failure}
    (h : resolve flow p source = .error failure) : failure.OfInput ∨ failure = .unsaid := by
  have node (id : Int) : (Failure.danglingNode id).OfInput := trivial
  have output (name : String) (index : Int) : (Failure.danglingOutput name index).OfInput := trivial
  unfold resolve at h
  split at h
  · cases h
  · split at h
    · cases h; exact (node _).showing
    · split at h
      · cases h; exact Or.inl trivial
      · split at h
        · cases h; exact Or.inl trivial
        · split at h
          · split at h
            · cases h
            · cases h; exact (output _ _).showing
          · cases h; exact (output _ _).showing

/-- A step fails at an input or in a computation, and in no other way. -/
theorem step_failure {failure : Failure} (h : p.step flow listener node = (q, .error failure)) :
    failure.OfInput ∨ failure.OfComputation := by
  rcases (step_error h).2 with unread | ⟨-, computed⟩
  · obtain ⟨-, bad, -, -, -, fails⟩ := (List.mapM_eq_error_iff _ _ _).mp unread
    rcases resolve_failure fails with input | rfl
    · exact Or.inl input
    · exact Or.inr trivial
  · exact Or.inr computed

end Steps

end Progress

/-- The reasons for which a run stops. -/
inductive Ending where
  | missingStart
  | cutOff
  | failed
  | finished
  deriving DecidableEq, Repr

namespace Run

/-- A failure that a node raises which runs next after a trace, before it leaves an entry there. -/
def Raised (r : Run) (payload : List Value) (bindings : Bindings) (failure : Failure) : Prop :=
  ∃ start node p q, r.flow.startNode? = some start ∧ upcoming? r.flow r.trace = some node ∧
    Progress.Reaches r.flow r.listener start (Progress.initial r.flow payload bindings)
      r.trace.length node p ∧
    p.trace.toList = r.trace ∧ p.step r.flow r.listener node = (q, .error failure)

/-- What a run of some payload and bindings shows that has stopped for a reason. -/
def Stopped (r : Run) (payload : List Value) (bindings : Bindings) : Ending → Prop
  | .missingStart =>
    r.flow.node? r.flow.start = none ∧ r.trace = [] ∧ r.failure = some (.missingStart r.flow.name)
  | .cutOff =>
    r.failure = some (.deadLoop r.flow.name r.limit) ∧ (r.stepCount : Int) = max 0 (r.limit + 1) ∧
      ∃ node, upcoming? r.flow r.trace = some node
  | .failed =>
    ∃ failure, r.failure = some failure ∧ (failure.OfInput ∨ failure.OfComputation) ∧
      r.Raised payload bindings failure ∧ (r.stepCount : Int) ≤ r.limit
  | .finished =>
    r.failure = none ∧ ∃ s, r.trace.getLast? = some s ∧ (s.next < 0 ∨ r.flow.node? s.next = none)

/-- The reason for which a run with some failure, or with none, has stopped. -/
def ending : Option Failure → Ending
  | none => .finished
  | some (.missingStart _) => .missingStart
  | some (.deadLoop _ _) => .cutOff
  | some _ => .failed

theorem ending_failed {failure : Failure} (h : failure.OfInput ∨ failure.OfComputation) :
    ending (some failure) = .failed := by
  cases failure with
  | deadLoop | missingStart => exact h.elim False.elim False.elim
  | danglingNode | danglingOutput | notExecuted | fault | raised | unexpected => rfl

/-- The course of a run of some payload and bindings: the path of its trace, and its end. -/
structure Course (payload : List Value) (bindings : Bindings) (r : Run) : Prop where
  walks : Walks r.flow r.trace
  counted : r.stepCount = r.trace.length
  allowed : (r.stepCount : Int) ≤ max 0 (r.limit + 1)
  /-- The run stopped for exactly one reason. -/
  stopped : ∃! ending, r.Stopped payload bindings ending
  completed : r.phase = .completed ↔ r.Stopped payload bindings .finished
  failed : r.phase = .failed ↔ ¬r.Stopped payload bindings .finished

/-- The failure of a run tells the reason for which it stopped. -/
theorem Stopped.eq_ending {r : Run} {payload : List Value} {bindings : Bindings} {reason : Ending}
    (h : r.Stopped payload bindings reason) : reason = ending r.failure := by
  cases reason with
  | missingStart =>
    obtain ⟨-, -, failure⟩ := h
    rw [failure]
    rfl
  | cutOff =>
    obtain ⟨failure, -⟩ := h
    rw [failure]
    rfl
  | failed =>
    obtain ⟨f, failure, raised, -⟩ := h
    rw [failure, ending_failed raised]
  | finished =>
    obtain ⟨failure, -⟩ := h
    rw [failure]
    rfl

/-- A run that stopped for one reason stopped for no other. -/
theorem course_of_stopped {r : Run} {payload : List Value} {bindings : Bindings} (reason : Ending)
    (walks : Walks r.flow r.trace) (counted : r.stepCount = r.trace.length)
    (allowed : (r.stepCount : Int) ≤ max 0 (r.limit + 1))
    (phase : r.phase = if r.failure.isNone then .completed else .failed)
    (stopped : r.Stopped payload bindings reason) : r.Course payload bindings := by
  have only {other : Ending} (h : r.Stopped payload bindings other) : other = reason :=
    h.eq_ending.trans stopped.eq_ending.symm
  have finished : r.Stopped payload bindings .finished ↔ r.failure = none := by
    constructor
    · exact And.left
    · intro fine
      have same := stopped.eq_ending
      rw [fine] at same
      subst same
      exact stopped
  refine ⟨walks, counted, allowed, ⟨reason, stopped, fun _ => only⟩, ?_, ?_⟩
  · rw [finished, phase]
    cases r.failure <;> simp
  · rw [finished, phase]
    cases r.failure <;> simp

/-- A run that has come to its outcome. -/
def concluded (r : Run) (out : Progress × Option Failure) : Run :=
  { r with
    phase := if out.2.isNone then .completed else .failed
    statuses := out.1.statuses
    bindings := out.1.bindings
    messages := out.1.messages.toList
    stepCount := out.1.steps
    trace := out.1.trace.toList
    failure := out.2 }

theorem execute_concluded (r : Run) (payload : List Value) (bindings : Bindings) :
    (r.execute payload bindings).1 =
      r.concluded (outcome r.flow r.limit r.listener payload bindings) :=
  rfl

theorem allowance_eq (limit : Int) : (allowance limit : Int) = max 0 (limit + 1) := by
  unfold allowance
  omega

section Ending

variable {r : Run} {payload : List Value} {bindings : Bindings} {start node : Node} {k : Nat}
  {p q : Progress} {failure : Failure}

theorem course_missing (missing : r.flow.startNode? = none) :
    (r.concluded (⟨r.flow.nodes.map Status.fresh, [], #[], 0, #[], #[]⟩,
      some (.missingStart r.flow.name))).Course payload bindings := by
  refine course_of_stopped .missingStart (Progress.walks_nil r.flow) rfl
    (Int.le_max_left _ _) rfl ?_
  exact ⟨missing, rfl, rfl⟩

theorem course_cutOff (course : p.Coursed r.flow (allowance r.limit))
    (coming : upcoming? r.flow p.trace.toList = some node) :
    (r.concluded (p, some (.deadLoop r.flow.name r.limit))).Course payload bindings := by
  have count : ((r.concluded (p, some (.deadLoop r.flow.name r.limit))).stepCount : Int) =
      max 0 (r.limit + 1) := by
    rw [← allowance_eq, ← course.steps]
    exact congrArg Nat.cast course.balanced
  refine course_of_stopped .cutOff course.walks course.balanced (Int.le_of_eq count) rfl ?_
  exact ⟨rfl, count, node, coming⟩

theorem course_failed (course : p.Coursed r.flow k) (early : k < allowance r.limit)
    (begins : r.flow.startNode? = some start)
    (reached : Progress.Reaches r.flow r.listener start
      (Progress.initial r.flow payload bindings) k node p)
    (coming : upcoming? r.flow p.trace.toList = some node)
    (ran : p.step r.flow r.listener node = (q, .error failure)) :
    (r.concluded (q, some failure)).Course payload bindings := by
  have unchanged : (r.concluded (q, some failure)).trace = p.trace.toList := by
    rw [← (Progress.step_error ran).1]
    rfl
  have steps : (r.concluded (q, some failure)).trace.length = k := by
    rw [unchanged, Array.length_toList, course.steps]
  have counted : (r.concluded (q, some failure)).stepCount =
      (r.concluded (q, some failure)).trace.length := course.balanced.step ran
  have count : ((r.concluded (q, some failure)).stepCount : Int) ≤ r.limit := by
    have allowed := allowance_eq r.limit
    rw [counted]
    omega
  have within : r.limit ≤ max 0 (r.limit + 1) := by omega
  refine course_of_stopped .failed ?_ counted (Int.le_trans count within) rfl ?_
  · rw [unchanged]
    exact course.walks
  · refine ⟨failure, rfl, Progress.step_failure ran, ?_, count⟩
    refine ⟨start, node, p, q, begins, ?_, ?_, unchanged.symm, ran⟩
    · rw [unchanged]
      exact coming
    · rw [steps]
      exact reached

theorem course_finished (course : p.Coursed r.flow k) (early : k < allowance r.limit)
    (branching : Progress.Branching r.flow) (known : p.Known r.flow)
    (present : r.flow.node? node.id = some node)
    (coming : upcoming? r.flow p.trace.toList = some node)
    (ran : p.step r.flow r.listener node = (q, .ok none)) :
    (r.concluded (q.record node.id, none)).Course payload bindings := by
  have after := course.step branching known present coming ran
  have ends : upcoming? r.flow (q.record node.id).trace.toList = none :=
    known.upcoming?_step present ran
  have count : ((r.concluded (q.record node.id, none)).stepCount : Int) = k + 1 := by
    have steps := after.balanced.trans after.steps
    change ((q.record node.id).steps : Int) = k + 1
    rw [steps]
    rfl
  have allowed := allowance_eq r.limit
  refine course_of_stopped .finished after.walks after.balanced ?_ rfl ?_
  · change _ ≤ max 0 (r.limit + 1)
    omega
  · refine ⟨rfl, ?_⟩
    change ∃ s, (q.record node.id).trace.toList.getLast? = some s ∧ _
    cases last : (q.record node.id).trace.toList.getLast? with
    | none =>
      have empty := congrArg List.length (List.getLast?_eq_none_iff.mp last)
      rw [Array.length_toList, after.steps] at empty
      cases empty
    | some s =>
      have leads : Progress.onward r.flow s.next = none := by
        unfold upcoming? at ends
        rw [last] at ends
        exact ends
      unfold Progress.onward at leads
      refine ⟨s, rfl, ?_⟩
      split at leads
      · exact Or.inl ‹_›
      · exact Or.inr leads

end Ending

/-- **The trace of a run is a path through the flow, and the run stops for exactly one reason**: the
start is missing, the limit is used up, the node that is to run fails, or no node is to run. The
limit has to be one that the host can write. -/
theorem execute_course (r : Run) (payload : List Value) (bindings : Bindings)
    (fits : ∀ n ∈ r.flow.nodes, n.Fits) (builtin : ∀ n ∈ r.flow.nodes, n.type ∈ Catalog.standard)
    (brief : Brief r.limit) : (r.execute payload bindings).1.Course payload bindings := by
  have branching : Progress.Branching r.flow :=
    ⟨fits, fun n hn => NodeType.branches_of_builtin (builtin n hn)⟩
  rw [execute_concluded]
  cases begins : r.flow.startNode? with
  | none =>
    rw [outcome_missing begins]
    exact course_missing begins
  | some start =>
    obtain ⟨k, node, p, reached, ended⟩ :=
      outcome_ends begins r.limit r.listener payload bindings
    obtain ⟨known, present, coming⟩ := Progress.reaches_known begins reached
    have course := Progress.reaches_coursed branching begins reached
    generalize outcome r.flow r.limit r.listener payload bindings = out at ended
    cases ended with
    | cutOff used =>
      rw [Failure.showing_brief brief]
      exact course_cutOff (used ▸ course) coming
    | failed early ran => exact course_failed course early begins reached coming ran
    | finished early ran => exact course_finished course early branching known present coming ran

/-- A flow that goes round for as long as its variable is set. -/
def roundFlow : Flow where
  name := "round"
  nodes := [⟨1, .trigger, "start", [], [2]⟩,
    ⟨2, .getVariable, "read", [.constant (.text "again")], [3]⟩,
    ⟨3, .condition, "if", [.output 2 0], [2, -1]⟩]
  start := 1
  counter := 3

theorem execute_course_roundFlow :
    (∀ n ∈ roundFlow.nodes, n.Fits) ∧ (∀ n ∈ roundFlow.nodes, n.type ∈ Catalog.standard) ∧
      Brief 7 ∧ ((pending roundFlow 7 .absent).execute [] [("again", .bool true)]).1.Course []
        [("again", .bool true)] := by
  have fits : ∀ n ∈ roundFlow.nodes, n.Fits := by
    simp only [roundFlow, List.forall_mem_cons]
    exact ⟨⟨rfl, rfl⟩, ⟨rfl, rfl⟩, ⟨rfl, rfl⟩, by simp⟩
  have builtin : ∀ n ∈ roundFlow.nodes, n.type ∈ Catalog.standard := by decide
  have brief : Brief 7 := brief_of_natAbs_le (by decide)
  exact ⟨fits, builtin, brief,
    execute_course (pending roundFlow 7 .absent) _ _ fits builtin brief⟩

/-- A run whose limit allows no step is cut off; if the limit is too long to be said, it fails for
that. -/
theorem execute_unsaid {flow : Flow} {start : Node} (begins : flow.startNode? = some start)
    {limit : Int} (negative : limit < 0) (long : ¬Brief limit) (listener : Listener)
    (payload : List Value) (bindings : Bindings) :
    ((pending flow limit listener).execute payload bindings).1.failure = some .unsaid ∧
      ((pending flow limit listener).execute payload bindings).1.stepCount = 0 := by
  have none : allowance limit = 0 := Int.toNat_of_nonpos (by omega)
  have ended : outcome flow limit listener payload bindings =
      (Progress.initial flow payload bindings, some .unsaid) := by
    unfold outcome
    rw [begins, none]
    exact Prod.ext rfl (congrArg some (Failure.showing_long long _))
  rw [execute_concluded]
  change (outcome flow limit listener payload bindings).2 = _ ∧
    (outcome flow limit listener payload bindings).1.steps = 0
  rw [ended]
  exact ⟨rfl, rfl⟩

/-- A run under a limit that cannot be said stops for none of the reasons. -/
theorem execute_unreasoned :
    (∀ n ∈ roundFlow.nodes, n.Fits) ∧ (∀ n ∈ roundFlow.nodes, n.type ∈ Catalog.standard) ∧
      roundFlow.has roundFlow.start ∧
      ∀ reason, ¬((pending roundFlow (-10 ^ Text.digitLimit) .absent).execute [] []).1.Stopped [] []
        reason := by
  have fits : ∀ n ∈ roundFlow.nodes, n.Fits := by
    simp only [roundFlow, List.forall_mem_cons]
    exact ⟨⟨rfl, rfl⟩, ⟨rfl, rfl⟩, ⟨rfl, rfl⟩, by simp⟩
  refine ⟨fits, by decide, by decide, ?_⟩
  obtain ⟨long, negative⟩ := long_neg_limit
  generalize (-10 ^ Text.digitLimit : Int) = limit at long negative
  obtain ⟨unsaid, none⟩ :=
    execute_unsaid (rfl : roundFlow.startNode? = some _) negative long .absent
    [] []
  intro reason stopped
  cases reason with
  | missingStart => exact absurd (unsaid.symm.trans stopped.2.2) (by simp [Failure.unsaid])
  | cutOff => exact absurd (unsaid.symm.trans stopped.1) (by simp [Failure.unsaid])
  | failed =>
    obtain ⟨_, -, -, -, few⟩ := stopped
    rw [none] at few
    exact absurd few (Int.not_le.mpr negative)
  | finished => exact absurd (unsaid.symm.trans stopped.1) (by simp)

end Run

end EventFlow
