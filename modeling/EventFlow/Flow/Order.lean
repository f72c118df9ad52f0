import EventFlow.Flow.Basic

/-!
The order in which the nodes of a flow are listed: depth first from the start node along its
branches, then from every node that no branch points at, then whatever is left, by ascending id.
-/

namespace EventFlow.Flow

/-- The nodes of a flow that are not among those listed so far. -/
def unlisted (f : Flow) (listed : List Node) : List Node :=
  f.nodes.filter fun n => !listed.any fun m => m.id == n.id

theorem unlisted_lt (f : Flow) (listed : List Node) (id : Int) (node : Node)
    (found : f.node? id = some node) (new : listed.any (fun m => m.id == id) = false) :
    (f.unlisted (node :: listed)).length < (f.unlisted listed).length := by
  have hid : node.id = id := by simpa using List.find?_some found
  have hmem : node ∈ f.nodes := List.mem_of_find?_eq_some found
  have split : f.unlisted (node :: listed) =
      (f.unlisted listed).filter fun n => !(node.id == n.id) := by
    simp only [unlisted, List.any_cons, Bool.not_or, List.filter_filter]
  rw [split]
  refine List.length_filter_lt_length_iff_exists.2 ⟨node, ?_, by simp⟩
  simp only [unlisted, List.mem_filter, hmem, true_and, hid, new, Bool.not_false]

/-- Lists the nodes that a stack of ids leads to, depth first; `listed` holds the nodes listed
before, the last one first. -/
def walk (f : Flow) (listed : List Node) (stack : List Int) : List Node :=
  match stack with
  | [] => listed
  | id :: stack =>
    if _new : listed.any (fun m => m.id == id) = false then
      match _found : f.node? id with
      | none => walk f listed stack
      | some node =>
        let listed' := node :: listed
        walk f listed' (node.next.filter (fun i => 0 ≤ i && !listed'.any (fun m => m.id == i))
          ++ stack)
    else walk f listed stack
termination_by ((f.unlisted listed).length, stack.length)
decreasing_by
  · exact Prod.Lex.right _ (by simp)
  · exact Prod.Lex.left _ _ (unlisted_lt f listed id node _found _new)
  · exact Prod.Lex.right _ (by simp)

/-- The ids of a flow, ascending. -/
def ids (f : Flow) : List Int :=
  (f.nodes.map Node.id).mergeSort

/-- Whether a branch of some node points at an id. -/
def isTarget (f : Flow) (id : Int) : Bool :=
  f.nodes.any fun n => n.next.contains id

/-- All nodes of a flow in listing order. -/
def ordered (f : Flow) : List Node :=
  let roots := f.ids.filter fun id => !f.isTarget id
  (walk f [] (f.start :: roots ++ f.ids)).reverse

end EventFlow.Flow
