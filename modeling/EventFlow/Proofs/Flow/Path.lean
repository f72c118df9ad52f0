import EventFlow.Proofs.Flow.Nodes
import Mathlib.Data.List.Chain
import Mathlib.Data.Set.Card
import Mathlib.Logic.Relation

/-!
Paths through a flow, from its start along the branches of its nodes.

* `IsPath`, `reachable`: the paths, and the ids that they lead to;
* `WellScoped`: every reference is to an output of a node that all paths visit first;
* `IsPath.nodup`: where no cycle can be reached, a path visits no node twice;
* `length_le_reachable`: ids that can be reached and that are distinct are no more than the
  reachable ones.
-/

namespace EventFlow.Flow

/-- A branch of the node of an id leads to a node of the flow. -/
def Link (f : Flow) (a b : Int) : Prop :=
  0 ≤ b ∧ f.has b ∧ ∃ node, f.node? a = some node ∧ b ∈ node.next

/-- The ids that are visited from the start on along branches. -/
structure IsPath (f : Flow) (path : List Int) : Prop where
  start : path.head? = some f.start
  linked : path.IsChain f.Link

/-- Every path that ends at `x` visits `m` before. -/
def Precedes (f : Flow) (m x : Int) : Prop :=
  ∀ path, f.IsPath path → path.getLast? = some x → m ∈ path.dropLast

/-- Every reference of a node is to an output of a node that precedes it. -/
def WellScoped (f : Flow) : Prop :=
  ∀ x node, f.node? x = some node → ∀ m j : Int, .output m j ∈ node.inputs →
    ∃ source, f.node? m = some source ∧ (0 ≤ j ∧ j < source.outputCount) ∧ f.Precedes m x

/-- The nodes that the branches lead to from the start, the start among them. -/
def reachable (f : Flow) : Set Int :=
  {id | f.has id ∧ Relation.ReflTransGen f.Link f.start id}

/-- No cycle of branches can be reached from the start. -/
def Acyclic (f : Flow) : Prop :=
  ∀ id ∈ f.reachable, ¬Relation.TransGen f.Link id id

variable {f : Flow}

/-- What holds of all branches of all nodes holds of the links between them. -/
theorem Link.of_nodes {R : Int → Int → Prop}
    (all : ∀ n ∈ f.nodes, ∀ b ∈ n.next, 0 ≤ b → R n.id b) {a b : Int} (link : f.Link a b) :
    R a b := by
  obtain ⟨nonneg, -, node, there, branch⟩ := link
  obtain ⟨mem, rfl⟩ := mem_of_node? there
  exact all node mem b branch nonneg

theorem isPath_start (f : Flow) : f.IsPath [f.start] :=
  ⟨rfl, .singleton _⟩

theorem IsPath.concat {path : List Int} {a b : Int} (h : f.IsPath (path ++ [a]))
    (link : f.Link a b) : f.IsPath (path ++ [a] ++ [b]) := by
  constructor
  · rw [List.head?_append_of_ne_nil _ (by simp)]
    exact h.start
  · refine h.linked.append (.singleton b) ?_
    intro last isLast next isNext
    obtain rfl : a = last := by simpa using isLast
    obtain rfl : b = next := by simpa using isNext
    exact link

/-- A node that only one other leads to is preceded by that one. -/
theorem precedes_of_links {m x : Int} (later : x ≠ f.start) (only : ∀ a, f.Link a x → a = m) :
    f.Precedes m x := by
  intro path isPath ends
  obtain ⟨before, rfl⟩ := List.getLast?_eq_some_iff.mp ends
  rw [List.dropLast_concat]
  rcases List.eq_nil_or_concat before with rfl | ⟨earlier, a, rfl⟩
  · have start := isPath.start
    simp only [List.nil_append, List.head?_cons, Option.some.injEq] at start
    exact absurd start later
  · rw [List.concat_eq_append] at isPath ⊢
    have link := (List.isChain_append.mp isPath.linked).2.2 a (by simp) x (by simp)
    rw [only a link]
    simp

/-- A path visits nothing but what can be reached. -/
theorem IsPath.mem_reachable {path : List Int} (h : f.IsPath path) (begins : f.has f.start) :
    ∀ id ∈ path, id ∈ f.reachable := by
  apply h.linked.induction (· ∈ f.reachable)
  · intro a b link reached
    exact ⟨link.2.1, reached.2.tail link⟩
  · intro nonempty
    have first := h.start
    rw [List.head?_eq_some_head nonempty, Option.some.injEq] at first
    rw [first]
    exact ⟨begins, .refl⟩

/-- Where no cycle can be reached, a path visits no node twice. -/
theorem IsPath.nodup {path : List Int} (h : f.IsPath path) (begins : f.has f.start)
    (acyclic : f.Acyclic) : path.Nodup := by
  have reached := h.mem_reachable begins
  -- Along a chain of a transitive relation any two ids are related, not only neighbours.
  have later : path.IsChain (Relation.TransGen f.Link) :=
    h.linked.imp fun _ _ link => .single link
  refine (List.isChain_iff_pairwise.mp later).imp_of_mem ?_
  rintro a b visited - leads rfl
  exact acyclic a (reached a visited) leads

theorem reachable_subset (f : Flow) :
    f.reachable ⊆ ((f.nodes.map Node.id).toFinset : Set Int) := by
  intro id reached
  obtain ⟨node, there⟩ := Option.isSome_iff_exists.mp reached.1
  obtain ⟨mem, rfl⟩ := mem_of_node? there
  exact List.mem_toFinset.mpr (List.mem_map_of_mem mem)

/-- Distinct ids that can be reached are no more than all that can be. -/
theorem length_le_reachable {ids : List Int} (distinct : ids.Nodup)
    (reached : ∀ id ∈ ids, id ∈ f.reachable) : ids.length ≤ f.reachable.ncard := by
  rw [← List.toFinset_card_of_nodup distinct, ← Set.ncard_coe_finset]
  apply Set.ncard_le_ncard _ ((Finset.finite_toSet _).subset f.reachable_subset)
  intro id mem
  exact reached id (List.mem_toFinset.mp mem)

theorem ncard_reachable_le (f : Flow) : f.reachable.ncard ≤ f.nodes.length := by
  calc f.reachable.ncard
    _ ≤ ((f.nodes.map Node.id).toFinset : Set Int).ncard :=
      Set.ncard_le_ncard f.reachable_subset (Finset.finite_toSet _)
    _ = (f.nodes.map Node.id).toFinset.card := Set.ncard_coe_finset _
    _ ≤ (f.nodes.map Node.id).length := List.toFinset_card_le _
    _ = f.nodes.length := List.length_map _

/-- Branches that lead to greater ids only make no cycle. -/
theorem acyclic_of_lt (forward : ∀ a b, f.Link a b → a < b) : f.Acyclic := by
  intro id _ cycle
  have less {b : Int} (leads : Relation.TransGen f.Link id b) : id < b := by
    induction leads with
    | single link => exact forward _ _ link
    | tail _ link ih => exact ih.trans (forward _ _ link)
  exact lt_irrefl id (less cycle)

end EventFlow.Flow
