import EventFlow.Flow.Order
import EventFlow.Proofs.Flow.Nodes
import Mathlib.Data.List.Sort

/-!
The listing of a flow: every node comes once, and the order depends on nothing but the start and the
node under each id.

* `ordered_perm`: the listing is the nodes of the flow in another order;
* `ordered_congr`: flows with the same start and the same node under each id have the same listing.
-/

namespace EventFlow.Flow

/-- The nodes listed so far are nodes of the flow, each under its own id and only once. -/
structure Lists (f : Flow) (listed : List Node) : Prop where
  nodup : (listed.map Node.id).Nodup
  found : ∀ m ∈ listed, f.node? m.id = some m

theorem Lists.nil (f : Flow) : f.Lists [] :=
  ⟨List.nodup_nil, by simp⟩

theorem Lists.cons {f : Flow} {listed : List Node} (h : f.Lists listed) {id : Int} {node : Node}
    (found : f.node? id = some node) (new : listed.any (fun m => m.id == id) = false) :
    f.Lists (node :: listed) := by
  obtain ⟨-, same⟩ := mem_of_node? found
  constructor
  · rw [List.map_cons, List.nodup_cons]
    refine ⟨?_, h.nodup⟩
    intro known
    obtain ⟨m, hm, other⟩ := List.mem_map.mp known
    have absent := List.any_eq_false.mp new m hm
    exact absent (by simp [other, same])
  · intro m hm
    rcases List.mem_cons.mp hm with rfl | hm
    · rw [same, found]
    · exact h.found m hm

theorem walk_lists {f : Flow} {listed : List Node} (h : f.Lists listed) (stack : List Int) :
    f.Lists (f.walk listed stack) := by
  fun_induction walk f listed stack with
  | case1 listed => exact h
  | case2 listed id stack new missing ih => exact ih h
  | case3 listed id stack new node found listed' ih => exact ih (h.cons found new)
  | case4 listed id stack known ih => exact ih h

/-- What was listed before stays listed. -/
theorem mem_walk {f : Flow} {m : Node} {listed : List Node} (h : m ∈ listed) (stack : List Int) :
    m ∈ f.walk listed stack := by
  fun_induction walk f listed stack with
  | case1 listed => exact h
  | case2 listed id stack new missing ih => exact ih h
  | case3 listed id stack new node found listed' ih => exact ih (List.mem_cons_of_mem _ h)
  | case4 listed id stack known ih => exact ih h

/-- Every node that the stack leads to at once is listed. -/
theorem walk_covers {f : Flow} {n : Node} {wanted : Int} (there : f.node? wanted = some n)
    (listed : List Node) {stack : List Int} (h : wanted ∈ stack) :
    ∃ m ∈ f.walk listed stack, m.id = wanted := by
  obtain ⟨-, own⟩ := mem_of_node? there
  fun_induction walk f listed stack with
  | case1 listed => simp at h
  | case2 listed id stack new missing ih =>
    rcases List.mem_cons.mp h with rfl | h
    · rw [missing] at there
      cases there
    · exact ih h
  | case3 listed id stack new node found listed' ih =>
    rcases List.mem_cons.mp h with rfl | h
    · exact ⟨node, mem_walk List.mem_cons_self _, (mem_of_node? found).2⟩
    · exact ih (List.mem_append_right _ h)
  | case4 listed id stack known ih =>
    rcases List.mem_cons.mp h with rfl | h
    · rw [Bool.not_eq_false, List.any_eq_true] at known
      obtain ⟨m, hm, same⟩ := known
      exact ⟨m, mem_walk hm _, by simpa using same⟩
    · exact ih h

theorem mem_ids {f : Flow} {id : Int} : id ∈ f.ids ↔ ∃ n ∈ f.nodes, n.id = id := by
  simp [ids]

theorem ordered_lists (f : Flow) : f.Lists f.ordered := by
  have lists := walk_lists (Lists.nil f)
    (f.start :: (f.ids.filter fun id => !f.isTarget id) ++ f.ids)
  constructor
  · rw [ordered, List.map_reverse, List.nodup_reverse]
    exact lists.nodup
  · intro m hm
    exact lists.found m (List.mem_reverse.mp hm)

theorem mem_ordered {f : Flow} (distinct : f.Distinct) {n : Node} :
    n ∈ f.ordered ↔ n ∈ f.nodes := by
  constructor
  · intro h
    exact (mem_of_node? ((ordered_lists f).found n h)).1
  · intro h
    have there := node?_of_mem distinct h
    have onStack : n.id ∈ f.start :: (f.ids.filter fun id => !f.isTarget id) ++ f.ids :=
      List.mem_append_right _ (mem_ids.mpr ⟨n, h, rfl⟩)
    obtain ⟨m, hm, same⟩ := walk_covers there [] onStack
    have listed : m ∈ f.ordered := List.mem_reverse.mpr hm
    have found := (ordered_lists f).found m listed
    rw [same, there] at found
    rw [Option.some.inj found]
    exact listed

/-- The listing is the nodes of the flow in another order. -/
theorem ordered_perm {f : Flow} (distinct : f.Distinct) : f.ordered.Perm f.nodes :=
  (List.perm_ext_iff_of_nodup (List.Nodup.of_map _ (ordered_lists f).nodup)
    (List.Nodup.of_map _ distinct)).mpr fun _ => mem_ordered distinct

/-- The walk depends on the flow only through the look-up of nodes. -/
theorem walk_congr {f g : Flow} (same : ∀ id, f.node? id = g.node? id) (listed : List Node)
    (stack : List Int) : f.walk listed stack = g.walk listed stack := by
  fun_induction walk f listed stack with
  | case1 listed => rw [walk]
  | case2 listed id stack new missing ih =>
    rw [same] at missing
    conv_rhs => unfold walk
    rw [dif_pos new]
    split
    · exact ih
    · rename_i found
      rw [missing] at found
      cases found
  | case3 listed id stack new node found listed' ih =>
    rw [same] at found
    conv_rhs => unfold walk
    rw [dif_pos new]
    split
    · rename_i missing
      rw [missing] at found
      cases found
    · rename_i other found'
      obtain rfl : node = other := Option.some.inj (found.symm.trans found')
      exact ih
  | case4 listed id stack known ih =>
    conv_rhs => unfold walk
    rw [dif_neg known]
    exact ih

theorem mem_nodes_congr {f g : Flow} (distinct : f.Distinct) (distinct' : g.Distinct)
    (same : ∀ id, f.node? id = g.node? id) {n : Node} : n ∈ f.nodes ↔ n ∈ g.nodes := by
  have left : f.node? n.id = some n ↔ n ∈ f.nodes ∧ n.id = n.id := node?_eq_some_iff distinct
  have right : g.node? n.id = some n ↔ n ∈ g.nodes ∧ n.id = n.id := node?_eq_some_iff distinct'
  rw [same] at left
  simpa using left.symm.trans right

theorem ids_congr {f g : Flow} (distinct : f.Distinct) (distinct' : g.Distinct)
    (same : ∀ id, f.node? id = g.node? id) : f.ids = g.ids := by
  have perm : (f.nodes.map Node.id).Perm (g.nodes.map Node.id) := by
    rw [List.perm_ext_iff_of_nodup distinct distinct']
    intro id
    simp only [List.mem_map, mem_nodes_congr distinct distinct' same]
  exact ((List.mergeSort_perm _ _).trans (perm.trans (List.mergeSort_perm _ _).symm)).eq_of_sortedLE
    List.sortedLE_mergeSort List.sortedLE_mergeSort

/-- Flows with the same start and the same node under each id have the same listing. -/
theorem ordered_congr {f g : Flow} (distinct : f.Distinct) (distinct' : g.Distinct)
    (start : f.start = g.start) (same : ∀ id, f.node? id = g.node? id) :
    f.ordered = g.ordered := by
  have targets (id : Int) : f.isTarget id = g.isTarget id := by
    rw [Bool.eq_iff_iff]
    simp only [isTarget, List.any_eq_true, mem_nodes_congr distinct distinct' same]
  unfold ordered
  simp only [ids_congr distinct distinct' same, targets, start, walk_congr same]

end EventFlow.Flow
