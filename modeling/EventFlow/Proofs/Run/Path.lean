import EventFlow.Proofs.Flow.Path
import EventFlow.Proofs.Run.Course

/-!
What the paths through a flow say of its runs.

* `reaches_path`: the nodes that ran and the one that is about to run are a path;
* `execute_wellScoped`: where every reference is to a node that all paths visit first, no run fails
  at an input;
* `execute_paced`: where no cycle can be reached, every node runs at most once, and a limit that has
  room for all nodes that can be reached cuts nothing off.
-/

namespace EventFlow

/-- The ids of the nodes that ran, in order. -/
def visits (trace : List Status) : List Int :=
  trace.map Status.node

namespace Progress

section Steps

variable {flow : Flow} {listener : Listener} {node : Node} {p q : Progress}

/-- A step goes to a node that a branch of the last one leads to. -/
theorem Known.link {next : Node} (known : p.Known flow) (there : flow.node? node.id = some node)
    (ran : p.step flow listener node = (q, .ok (some next))) : flow.Link node.id next.id := by
  obtain ⟨s, status⟩ := known.status there
  obtain ⟨inputs, taken, id, -, -, goes, onwards, -, -⟩ := step_records status ran
  have found := known.present_next there ran
  unfold onward at onwards
  split at onwards
  · cases onwards
  · rename_i nonneg
    obtain ⟨-, rfl⟩ := Flow.mem_of_node? onwards.symm
    refine ⟨by omega, ?_, node, there, mem_next_of_successor goes (by omega)⟩
    rw [Flow.has, found]
    rfl

theorem Known.visits_step {next? : Option Node} (known : p.Known flow)
    (there : flow.node? node.id = some node)
    (ran : p.step flow listener node = (q, .ok next?)) :
    visits (q.record node.id).trace.toList = visits p.trace.toList ++ [node.id] := by
  obtain ⟨s, status⟩ := known.status there
  obtain ⟨inputs, taken, id, -, -, -, -, trace, -⟩ := step_records status ran
  have own : s.node = node.id := status?_node status
  rw [trace, visits, visits, List.map_append, ← own]
  rfl

/-- The nodes that ran and the one that is about to run are a path through the flow. -/
theorem reaches_path {start : Node} {payload : List Value} {bindings : Bindings} {k : Nat}
    (begins : flow.startNode? = some start)
    (reached : Reaches flow listener start (initial flow payload bindings) k node p) :
    flow.IsPath (visits p.trace.toList ++ [node.id]) := by
  induction reached with
  | start =>
    obtain ⟨-, same⟩ := Flow.mem_of_node? begins
    rw [same]
    exact flow.isPath_start
  | step before ran ih =>
    obtain ⟨known, present, -⟩ := reaches_known begins before
    rw [known.visits_step present ran]
    exact ih.concat (known.link present ran)

theorem reaches_counts {start : Node} {payload : List Value} {bindings : Bindings} {k : Nat}
    (begins : flow.startNode? = some start)
    (reached : Reaches flow listener start (initial flow payload bindings) k node p) :
    p.trace.size = k := by
  induction reached with
  | start => rfl
  | step before ran ih =>
    obtain ⟨known, present, -⟩ := reaches_known begins before
    rw [known.counts present ran, ih]

/-- At the end of a walk no other node has run than those before and the one that was about to. -/
theorem ends_visits {limit : Int} {allowed k : Nat} {out : Progress × Option Failure}
    (ended : p.Ends flow listener limit allowed k node out) (known : p.Known flow)
    (there : flow.node? node.id = some node) :
    visits out.1.trace.toList <+: visits p.trace.toList ++ [node.id] := by
  cases ended with
  | cutOff used => exact List.prefix_append _ _
  | failed early ran =>
    obtain ⟨trace, -⟩ := step_error ran
    rw [trace]
    exact List.prefix_append _ _
  | finished early ran => rw [known.visits_step there ran]

end Steps

section WellScoped

variable {flow : Flow} {node : Node} (wellScoped : flow.WellScoped)
  (there : flow.node? node.id = some node)

include wellScoped there

/-- No input fails at the end of a path through a well-scoped flow. -/
theorem reads_wellScoped {trace : List Status} (path : flow.IsPath (visits trace ++ [node.id]))
    {source : Reference} (input : source ∈ node.inputs) {failure : Failure} :
    ¬Reads flow trace source (.error failure) := by
  intro fails
  cases fails with
  | danglingNode missing | unsaidNode missing =>
    obtain ⟨target, found, -⟩ := wellScoped node.id node there _ _ input
    rw [missing] at found
    cases found
  | notExecuted found never =>
    obtain ⟨-, -, -, precedes⟩ := wellScoped node.id node there _ _ input
    have visited := precedes _ path List.getLast?_concat
    rw [List.dropLast_concat] at visited
    obtain ⟨s, entry, same⟩ := List.mem_map.mp visited
    exact never s entry same
  | danglingOutput found ran outside | unsaidOutput found ran outside =>
    obtain ⟨target, found', inside, -⟩ := wellScoped node.id node there _ _ input
    rw [found] at found'
    cases found'
    exact outside inside

theorem step_wellScoped {listener : Listener} {p q : Progress} {failure : Failure}
    (known : p.Known flow) (path : flow.IsPath (visits p.trace.toList ++ [node.id]))
    (ran : p.step flow listener node = (q, .error failure)) : ¬failure.OfInput := by
  obtain ⟨-, unread | ⟨-, computed⟩⟩ := step_error ran
  · obtain ⟨good, bad, rest, split, -, fails⟩ := (known.firstFails_iff _ _).mpr unread
    have input : bad ∈ node.inputs := by
      rw [split]
      simp
    exact absurd fails (reads_wellScoped wellScoped there path input)
  · exact computed.notOfInput

end WellScoped

end Progress

namespace Run

/-- **In a well-scoped flow no run fails at an input.** -/
theorem execute_wellScoped (r : Run) (payload : List Value) (bindings : Bindings)
    (wellScoped : r.flow.WellScoped) :
    ¬∃ failure, (r.execute payload bindings).1.failure = some failure ∧ failure.OfInput := by
  rintro ⟨failure, failed, ofInput⟩
  rw [execute_concluded] at failed
  change (outcome r.flow r.limit r.listener payload bindings).2 = some failure at failed
  cases begins : r.flow.startNode? with
  | none =>
    rw [outcome_missing begins] at failed
    cases failed
    exact ofInput
  | some start =>
    obtain ⟨k, node, p, reached, ended⟩ :=
      outcome_ends begins r.limit r.listener payload bindings
    obtain ⟨known, present, -⟩ := Progress.reaches_known begins reached
    have path := Progress.reaches_path begins reached
    generalize outcome r.flow r.limit r.listener payload bindings = out at ended failed
    cases ended with
    | cutOff used =>
      cases failed
      exact Failure.showing_deadLoop ofInput
    | failed early ran =>
      cases failed
      exact Progress.step_wellScoped wellScoped present known path ran ofInput
    | finished early ran => cases failed

theorem wellScoped_roundFlow : roundFlow.WellScoped := by
  intro x node there m j input
  obtain ⟨mem, rfl⟩ := Flow.mem_of_node? there
  have before : roundFlow.Precedes 2 3 := by
    refine Flow.precedes_of_links (by decide) ?_
    intro a link
    exact link.of_nodes (R := fun a b => b = 3 → a = 2) (by decide) rfl
  simp only [roundFlow, List.mem_cons, List.not_mem_nil, or_false] at mem
  rcases mem with rfl | rfl | rfl
  · cases input
  · simp at input
  · obtain ⟨rfl, rfl⟩ := by simpa using input
    exact ⟨_, rfl, by decide, before⟩

theorem execute_wellScoped_roundFlow :
    roundFlow.WellScoped ∧
      ¬∃ failure, ((pending roundFlow 7 .absent).execute [] [("again", .bool true)]).1.failure =
        some failure ∧ failure.OfInput :=
  ⟨wellScoped_roundFlow, execute_wellScoped (pending roundFlow 7 .absent) _ _ wellScoped_roundFlow⟩

/-- A flow in which a node reads an output of the start below its first one. -/
def strayFlow : Flow where
  name := "stray"
  nodes := [⟨1, .trigger, "start", [], [2]⟩,
    ⟨2, .setVariable, "keep", [.constant (.text "x"), .output 1 (-1)], [-1]⟩]
  start := 1
  counter := 2

/-- An index below the number of outputs is not enough: it may be negative. -/
theorem stray_output_fails :
    strayFlow.Distinct ∧ (∀ n ∈ strayFlow.nodes, n.Fits) ∧
      (∀ n ∈ strayFlow.nodes, n.type ∈ Catalog.standard) ∧
      (∀ x node, strayFlow.node? x = some node → ∀ m j : Int, .output m j ∈ node.inputs →
        ∃ source, strayFlow.node? m = some source ∧ j < source.outputCount ∧
          strayFlow.Precedes m x) ∧
      ((pending strayFlow 10 .absent).execute [] []).1.failure =
        some (.danglingOutput "start" (-1)) := by
  refine ⟨by decide, ?_, by decide, ?_, by decide +kernel⟩
  · simp only [strayFlow, List.forall_mem_cons]
    exact ⟨⟨rfl, rfl⟩, ⟨rfl, rfl⟩, by simp⟩
  · intro x node there m j input
    obtain ⟨mem, rfl⟩ := Flow.mem_of_node? there
    have before : strayFlow.Precedes 1 2 := by
      refine Flow.precedes_of_links (by decide) ?_
      intro a link
      exact link.of_nodes (R := fun a b => b = 2 → a = 1) (by decide) rfl
    simp only [strayFlow, List.mem_cons, List.not_mem_nil, or_false] at mem
    rcases mem with rfl | rfl
    · cases input
    · obtain ⟨rfl, rfl⟩ := by simpa using input
      exact ⟨_, rfl, by decide, before⟩

/-- The nodes that a run visits, and the limit that it needs, as the branches of its flow have
it. -/
structure Paced (r : Run) : Prop where
  /-- Where no cycle can be reached, every node runs at most once. -/
  once : r.flow.Acyclic → (visits r.trace).Nodup
  /-- Then a limit is never too low that is one less than the number of nodes that can be
  reached. -/
  enough : r.flow.Acyclic → (r.flow.reachable.ncard : Int) - 1 ≤ r.limit →
    ending r.failure ≠ .cutOff
  /-- In any flow, a run that such a limit and one more cuts off has visited a node twice. -/
  again : ending r.failure = .cutOff → (r.flow.reachable.ncard : Int) ≤ r.limit →
    ∃ id, 2 ≤ (visits r.trace).count id

theorem paced_missing (r : Run) :
    (r.concluded (⟨r.flow.nodes.map Status.fresh, [], #[], 0, #[], #[]⟩,
      some (.missingStart r.flow.name))).Paced := by
  refine ⟨fun _ => .nil, ?_, ?_⟩
  · intro _ _ cut
    cases cut
  · intro cut
    cases cut

section Ending

variable {r : Run} {node : Node} {k : Nat} {p : Progress} {out : Progress × Option Failure}

theorem cutOff_of_ends (ended : p.Ends r.flow r.listener r.limit (allowance r.limit) k node out)
    (cut : ending out.2 = .cutOff) : k = allowance r.limit ∧ out.1 = p := by
  cases ended with
  | cutOff used => exact ⟨used, rfl⟩
  | failed early ran =>
    rw [ending_failed (Progress.step_failure ran)] at cut
    cases cut
  | finished early ran => cases cut

theorem paced_ended (begins : r.flow.has r.flow.start)
    (path : r.flow.IsPath (visits p.trace.toList ++ [node.id])) (count : p.trace.size = k)
    (ended : p.Ends r.flow r.listener r.limit (allowance r.limit) k node out)
    (visited : visits out.1.trace.toList <+: visits p.trace.toList ++ [node.id]) :
    (r.concluded out).Paced := by
  have reached := path.mem_reachable begins
  have length : (visits p.trace.toList).length = k := by
    rw [visits, List.length_map, Array.length_toList, count]
  have allowed := allowance_eq r.limit
  refine ⟨?_, ?_, ?_⟩
  · intro acyclic
    exact (path.nodup begins acyclic).sublist visited.sublist
  · intro acyclic (room : (r.flow.reachable.ncard : Int) - 1 ≤ r.limit) cut
    obtain ⟨used, -⟩ := cutOff_of_ends ended cut
    -- The node that was about to run can be reached as well, and it is not in the trace.
    have few := Flow.length_le_reachable (path.nodup begins acyclic) reached
    rw [List.length_append, length, List.length_singleton] at few
    omega
  · intro cut (room : (r.flow.reachable.ncard : Int) ≤ r.limit)
    obtain ⟨used, rfl⟩ := cutOff_of_ends ended cut
    by_contra! single
    have distinct : (visits out.1.trace.toList).Nodup :=
      List.nodup_iff_count_le_one.mpr fun id => Nat.le_of_lt_succ (single id)
    have few := Flow.length_le_reachable distinct fun id mem =>
      reached id (List.mem_append_left _ mem)
    omega

end Ending

/-- **In an acyclic flow every node runs at most once and no run is cut off that has a limit with
room for all nodes**; a run that is cut off in spite of one has gone round a cycle. -/
theorem execute_paced (r : Run) (payload : List Value) (bindings : Bindings) :
    (r.execute payload bindings).1.Paced := by
  rw [execute_concluded]
  cases begins : r.flow.startNode? with
  | none =>
    rw [outcome_missing begins]
    exact paced_missing r
  | some start =>
    obtain ⟨k, node, p, reached, ended⟩ :=
      outcome_ends begins r.limit r.listener payload bindings
    obtain ⟨known, present, -⟩ := Progress.reaches_known begins reached
    have there : r.flow.has r.flow.start := Option.isSome_iff_exists.mpr ⟨start, begins⟩
    exact paced_ended there (Progress.reaches_path begins reached)
      (Progress.reaches_counts begins reached) ended (Progress.ends_visits ended known present)

/-- A flow whose two branches meet again. -/
def forkFlow : Flow where
  name := "fork"
  nodes := [⟨1, .trigger, "start", [], [2]⟩,
    ⟨2, .condition, "if", [.output 1 1], [3, 4]⟩,
    ⟨3, .getVariable, "read", [.constant (.text "x")], [4]⟩,
    ⟨4, .broadcast, "send", [.empty, .empty, .constant (.text "done")], [-1]⟩]
  start := 1
  counter := 4

theorem execute_paced_forkFlow :
    (forkFlow.Acyclic ∧ (forkFlow.reachable.ncard : Int) - 1 ≤ 3 ∧
        (visits ((pending forkFlow 3 .absent).execute [.absent, .bool true] []).1.trace).Nodup ∧
        ending ((pending forkFlow 3 .absent).execute [.absent, .bool true] []).1.failure ≠
          .cutOff) ∧
      (ending ((pending roundFlow 7 .absent).execute [] [("again", .bool true)]).1.failure =
          .cutOff ∧
        (roundFlow.reachable.ncard : Int) ≤ 7 ∧
        ∃ id, 2 ≤ (visits
          ((pending roundFlow 7 .absent).execute []
            [("again", .bool true)]).1.trace).count id) := by
  have acyclic : forkFlow.Acyclic :=
    Flow.acyclic_of_lt fun a b link => link.of_nodes (R := (· < ·)) (by decide)
  have room : (forkFlow.reachable.ncard : Int) - 1 ≤ 3 := by
    have few := Flow.ncard_reachable_le forkFlow
    have four : forkFlow.nodes.length = 4 := rfl
    omega
  have cut : ending ((pending roundFlow 7 .absent).execute [] [("again", .bool true)]).1.failure =
      .cutOff := by decide +kernel
  have wide : (roundFlow.reachable.ncard : Int) ≤ 7 := by
    have few := Flow.ncard_reachable_le roundFlow
    have three : roundFlow.nodes.length = 3 := rfl
    omega
  have straight := execute_paced (pending forkFlow 3 .absent) [.absent, .bool true] []
  have round := execute_paced (pending roundFlow 7 .absent) [] [("again", .bool true)]
  exact ⟨⟨acyclic, room, straight.once acyclic, straight.enough acyclic room⟩,
    ⟨cut, wide, round.again cut wide⟩⟩

end Run

end EventFlow
