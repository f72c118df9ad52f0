import EventFlow.Document.Writing
import EventFlow.Flow.Description
import EventFlow.Node.Standard
import EventFlow.Proofs.Flow.Listing
import Mathlib.Data.List.Permutation

/-!
The listing of a flow as a recursive preorder. `Visits` says without a stack what a visit of one id
after another does to the nodes visited so far; the listing visits the start, then the ids that no
branch points at, then the rest.

* `walk_visits`: the loop over a stack of ids visits them in this sense;
* `Visits.unique`, `IsPreorder.unique`: there is no more than one order of the kind;
* `ordered_preorder`: the listing is that order, holds every node once, and what is derived from it
  does not show how the nodes came into the flow.
-/

namespace EventFlow

/-- The ids that the branches of a node lead to. -/
def Node.links (n : Node) : List Int :=
  n.next.filter (0 ≤ ·)

namespace Flow

/-- A visit of ids in turn, from the nodes visited before to the nodes visited after, in the order
of their visits. A node is visited before all that its branches lead to. -/
inductive Visits (f : Flow) : List Node → List Int → List Node → Prop where
  | done {visited : List Node} : Visits f visited [] visited
  | skip {visited after : List Node} {id : Int} {rest : List Int}
      (skipped : f.node? id = none ∨ id ∈ visited.map Node.id)
      (onward : Visits f visited rest after) : Visits f visited (id :: rest) after
  | enter {visited below after : List Node} {id : Int} {rest : List Int} {node : Node}
      (found : f.node? id = some node) (new : id ∉ visited.map Node.id)
      (inner : Visits f (visited ++ [node]) node.links below)
      (onward : Visits f below rest after) : Visits f visited (id :: rest) after

/-- The ids of a flow that no branch points at, ascending. -/
def roots (f : Flow) : List Int :=
  f.ids.filter fun id => ∀ n ∈ f.nodes, id ∉ n.next

/-- The ids of a flow that are still to be visited, ascending. -/
def remaining (f : Flow) (visited : List Node) : List Int :=
  f.ids.filter fun id => id ∉ visited.map Node.id

/-- The nodes in preorder: from the start, from the roots, and from whatever remains. -/
def IsPreorder (f : Flow) (nodes : List Node) : Prop :=
  ∃ fromStart fromRoots, f.Visits [] [f.start] fromStart ∧ f.Visits fromStart f.roots fromRoots ∧
    f.Visits fromRoots (f.remaining fromRoots) nodes

variable {f : Flow}

namespace Visits

/-- What was visited before stays in its place. -/
theorem grows {visited after : List Node} {ids : List Int} (h : f.Visits visited ids after) :
    visited <+: after := by
  induction h with
  | done => exact List.prefix_rfl
  | skip _ _ ih => exact ih
  | enter _ _ _ _ inner onward => exact (List.prefix_append _ _).trans (inner.trans onward)

theorem unique {visited after other : List Node} {ids : List Int} (h : f.Visits visited ids after)
    (h' : f.Visits visited ids other) : after = other := by
  induction h generalizing other with
  | done =>
    cases h'
    rfl
  | skip skipped _ ih =>
    cases h' with
    | skip _ onward => exact ih onward
    | enter found new _ _ =>
      rcases skipped with missing | known
      · rw [missing] at found
        cases found
      · exact absurd known new
  | enter found new _ _ inner onward =>
    cases h' with
    | skip skipped _ =>
      rcases skipped with missing | known
      · rw [missing] at found
        cases found
      · exact absurd known new
    | enter found' _ inner' onward' =>
      obtain rfl := Option.some.inj (found.symm.trans found')
      obtain rfl := inner inner'
      exact onward onward'

/-- To visit two lists of ids is to visit the one and then the other. -/
theorem split {first second : List Int} {visited after : List Node}
    (h : f.Visits visited (first ++ second) after) :
    ∃ between, f.Visits visited first between ∧ f.Visits between second after := by
  generalize all : first ++ second = ids at h
  induction h generalizing first with
  | done =>
    obtain ⟨rfl, rfl⟩ := List.append_eq_nil_iff.mp all
    exact ⟨_, .done, .done⟩
  | @skip visited after id rest skipped onward ih =>
    cases first with
    | nil =>
      obtain rfl : second = id :: rest := all
      exact ⟨_, .done, .skip skipped onward⟩
    | cons i first =>
      obtain ⟨rfl, rest⟩ := List.cons.inj all
      obtain ⟨between, before, behind⟩ := ih rest
      exact ⟨between, .skip skipped before, behind⟩
  | @enter visited below after id rest node found new inner onward _ ih =>
    cases first with
    | nil =>
      obtain rfl : second = id :: rest := all
      exact ⟨_, .done, .enter found new inner onward⟩
    | cons i first =>
      obtain ⟨rfl, rest⟩ := List.cons.inj all
      obtain ⟨between, before, behind⟩ := ih rest
      exact ⟨between, .enter found new inner before, behind⟩

/-- After the first id the visit goes on from nodes that include all visited before. -/
theorem tail {id : Int} {rest other : List Int} {visited after : List Node}
    (same : ∀ later : List Node, visited.map Node.id ⊆ later.map Node.id →
      f.Visits later rest after → f.Visits later other after)
    (h : f.Visits visited (id :: rest) after) : f.Visits visited (id :: other) after := by
  cases h with
  | skip skipped onward => exact .skip skipped (same _ (List.Subset.refl _) onward)
  | @enter _ below _ _ _ node found new inner onward =>
    have before : visited <+: below := (List.prefix_append visited [node]).trans inner.grows
    exact .enter found new inner (same _ (List.map_subset _ before.subset) onward)

/-- Ids that were visited before need not be visited. -/
theorem filter {skipped ids : List Int} {visited after : List Node}
    (old : skipped ⊆ visited.map Node.id) :
    f.Visits visited (ids.filter (· ∉ skipped)) after ↔ f.Visits visited ids after := by
  induction ids generalizing visited with
  | nil => rfl
  | cons id ids ih =>
    by_cases known : id ∈ skipped
    · rw [List.filter_cons_of_neg (by simpa using known), ih old]
      refine ⟨.skip (.inr (old known)), ?_⟩
      rintro (_ | ⟨_, onward⟩ | ⟨_, new, _, _⟩)
      · exact onward
      · exact absurd (old known) new
    · rw [List.filter_cons_of_pos (by simpa using known)]
      exact ⟨tail fun _ grown => (ih (List.Subset.trans old grown)).mp,
        tail fun _ grown => (ih (List.Subset.trans old grown)).mpr⟩

end Visits

theorem IsPreorder.unique {nodes other : List Node} (h : f.IsPreorder nodes)
    (h' : f.IsPreorder other) : nodes = other := by
  obtain ⟨fromStart, fromRoots, start, roots, rest⟩ := h
  obtain ⟨fromStart', fromRoots', start', roots', rest'⟩ := h'
  obtain rfl := start.unique start'
  obtain rfl := roots.unique roots'
  exact rest.unique rest'

/-- The loop over a stack of ids visits them. That it leaves out links to nodes listed before makes
no difference, and what a node puts on the stack is done before the rest of the stack is. -/
theorem walk_visits (f : Flow) (listed : List Node) (stack : List Int) :
    f.Visits listed.reverse stack (f.walk listed stack).reverse := by
  fun_induction walk f listed stack with
  | case1 listed => exact .done
  | case2 listed id stack new missing ih => exact .skip (.inl missing) ih
  | case3 listed id stack new node found listed' ih =>
    have links : node.next.filter (fun i => 0 ≤ i && !listed'.any fun m => m.id == i) =
        node.links.filter (· ∉ listed'.reverse.map Node.id) := by
      rw [Node.links, List.filter_filter]
      refine List.filter_congr fun i _ => ?_
      rw [Bool.eq_iff_iff]
      simp [and_comm, imp_not_comm]
    obtain ⟨below, inner, onward⟩ := ih.split
    rw [links, Visits.filter (List.Subset.refl _), List.reverse_cons] at inner
    exact .enter found (by simpa using new) inner onward
  | case4 listed id stack known ih => exact .skip (.inr (by simpa using known)) ih

theorem isPreorder_ordered (f : Flow) : f.IsPreorder f.ordered := by
  have roots : (f.ids.filter fun id => !f.isTarget id) = f.roots := by
    refine List.filter_congr fun id _ => ?_
    rw [Bool.eq_iff_iff]
    simp [isTarget]
  have visits := f.walk_visits [] (f.start :: (f.ids.filter fun id => !f.isTarget id) ++ f.ids)
  obtain ⟨fromRoots, visits, rest⟩ := visits.split
  rw [roots, ← List.singleton_append] at visits
  obtain ⟨fromStart, start, roots'⟩ := visits.split
  exact ⟨fromStart, fromRoots, start, roots', (Visits.filter (List.Subset.refl _)).mpr rest⟩

/-! ## What is derived from the listing -/

theorem nodeLabel_congr {g : Flow} (same : ∀ id, g.node? id = f.node? id) (id : Int) :
    g.nodeLabel id = f.nodeLabel id := by
  unfold nodeLabel
  rw [same]

theorem describe_congr {g : Flow} (same : ∀ id, g.node? id = f.node? id) (r : Reference) :
    r.describe (some g) = r.describe (some f) := by
  cases r with
  | constant value => rfl
  | output id index => simp only [Reference.describe, Option.bind_some, same]

theorem node_describe_congr {g : Flow} (same : ∀ id, g.node? id = f.node? id) (n : Node) :
    n.describe g = n.describe f := by
  have inputs : n.inputLine g = n.inputLine f := by
    funext position source
    rw [Node.inputLine, Node.inputLine, describe_congr same]
  have branches : n.branchLine g = n.branchLine f := by
    funext position next
    rw [Node.branchLine, Node.branchLine, nodeLabel_congr same]
  rw [Node.describe, Node.describe, inputs, branches]

theorem isWorded_ordered (distinct : f.Distinct) :
    (f.ordered.all fun n => n.inputs.all Reference.isWorded) = f.isWorded :=
  (ordered_perm distinct).all_eq

/-- **The listing of a flow is its recursive preorder**, whatever links its nodes have. It holds
every node once, and neither it nor the snapshot, the description and the document of the flow
depend on more than the start, the name and the node under each id. -/
theorem ordered_preorder (f : Flow) (distinct : f.Distinct) :
    (f.IsPreorder f.ordered ∧ ∀ nodes, f.IsPreorder nodes → nodes = f.ordered) ∧
      (f.ordered.Perm f.nodes ∧ (f.ordered.map Node.id).Nodup) ∧
      ∀ g : Flow, g.Distinct → g.start = f.start → (∀ id, g.node? id = f.node? id) →
        g.ordered = f.ordered ∧
          (g.name = f.name →
            g.snapshot = f.snapshot ∧ g.describe = f.describe ∧ g.write = f.write ∧
              g.dump = f.dump) := by
  refine ⟨⟨f.isPreorder_ordered, fun _ h => h.unique f.isPreorder_ordered⟩,
    ⟨ordered_perm distinct, (ordered_lists f).nodup⟩, fun g distinct' start same => ?_⟩
  have ordered : g.ordered = f.ordered := ordered_congr distinct' distinct start same
  have json (name : g.name = f.name) : Document.flowJson g = Document.flowJson f := by
    simp only [Document.flowJson, ordered, name, start]
  have written (name : g.name = f.name) : g.write = f.write := by
    simp only [write, document, ordered, json name]
  refine ⟨ordered, fun name => ⟨?_, ?_, written name, ?_⟩⟩
  · rw [snapshot, snapshot, ← isWorded_ordered distinct', ← isWorded_ordered distinct, name, start,
      ordered]
  · have length : g.nodes.length = f.nodes.length := by
      rw [← (ordered_perm distinct').length_eq, ordered, (ordered_perm distinct).length_eq]
    simp only [describe, name, length, ordered, node_describe_congr same]
  · rw [dump, dump, written name, json name]

theorem Distinct.perm {g : Flow} (distinct : f.Distinct) (perm : g.nodes.Perm f.nodes) :
    g.Distinct :=
  (perm.map Node.id).nodup_iff.mpr distinct

/-- The order in which the nodes came in does not show in the look-up. -/
theorem node?_perm {g : Flow} (distinct : f.Distinct) (perm : g.nodes.Perm f.nodes) (id : Int) :
    g.node? id = f.node? id := by
  refine Option.ext fun n => ?_
  rw [node?_eq_some_iff (distinct.perm perm), node?_eq_some_iff distinct, perm.mem_iff]

/-- A flow with its nodes out of order: one of them links to itself, one twice to the same node, two
close a cycle, one links to no node and one to the node of a negative id. -/
def tangledFlow : Flow where
  name := "tangled"
  nodes := [⟨4, .condition, "loop", [.constant (.bool true)], [4, 2]⟩,
    ⟨2, .condition, "if", [.constant (.bool false)], [3, 3]⟩,
    ⟨-5, .condition, "below", [.constant .absent], [9, 1]⟩,
    ⟨1, .trigger, "start", [], [2]⟩,
    ⟨3, .condition, "back", [.constant .absent], [-5, 1]⟩,
    ⟨0, .trigger, "root", [], [4]⟩]
  start := 1
  counter := 4

theorem ordered_preorder_tangledFlow :
    tangledFlow.Distinct ∧ tangledFlow.IsPreorder tangledFlow.ordered ∧
      tangledFlow.ordered.map Node.id = [1, 2, 3, 0, 4, -5] ∧
      { tangledFlow with nodes := tangledFlow.nodes.reverse }.ordered = tangledFlow.ordered := by
  have distinct : tangledFlow.Distinct := by decide
  have perm : tangledFlow.nodes.reverse.Perm tangledFlow.nodes := List.reverse_perm _
  obtain ⟨⟨preorder, -⟩, -, congr⟩ := ordered_preorder tangledFlow distinct
  exact ⟨distinct, preorder, by cbv,
    (congr { tangledFlow with nodes := tangledFlow.nodes.reverse } (distinct.perm perm) rfl
      (node?_perm distinct perm)).1⟩

end Flow

end EventFlow
