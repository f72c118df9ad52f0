import EventFlow.Flow.Description
import EventFlow.Proofs.Flow.Listing
import EventFlow.Proofs.Text.Wording
import Mathlib.Data.Set.List

/-!
When flows can be put into words. What is in the way is never more than the ids of nodes, if the
rest of each node can be said.

* `Node.Sayable`: the constants, output indices and successors of a node can be said;
* `Node.exists_describe`, `Flow.exists_describe`: a flow of such nodes can be described if and only
  if the ids can be said that the description shows.
-/

namespace EventFlow

section Text

variable {n : Int}

theorem Text.exists_ofInt_iff : (∃ s, ofInt n = .ok s) ↔ Brief n := by
  simp only [ofInt_eq_ok_iff, exists_and_left, exists_eq, and_true]

theorem Worded.exists_all_iff {texts : List (Worded String)} :
    (∃ shown, Worded.all texts = .ok shown) ↔ ∀ text ∈ texts, ∃ s, text = .ok s := by
  have all := Set.ext_iff.mp (Set.range_list_map (Except.ok : String → Worded String)) texts
  simp only [Worded.all_eq_ok_iff]
  simpa only [Set.mem_range, Set.mem_ofPred_eq, eq_comm] using all

/-- An index is named by its port, and by itself if it can be said. -/
theorem Port.exists_label (ports : List Port) (brief : Brief n) :
    ∃ s, Port.label ports n = .ok s := by
  unfold Port.label
  split
  · split
    · exact ⟨_, rfl⟩
    · exact Text.exists_ofInt_iff.mpr brief
  · exact Text.exists_ofInt_iff.mpr brief

end Text

/-- The constant or the output index of an input can be said. -/
def Reference.Sayable : Reference → Prop
  | .constant value => value.isBrief = true
  | .output _ index => Brief index

/-- All integers that a node holds besides ids of other nodes can be said, and those of its
successors too. -/
structure Node.Sayable (n : Node) : Prop where
  inputs : ∀ source ∈ n.inputs, source.Sayable
  next : ∀ id ∈ n.next, Brief id

/-- The node that an input reads has a name, or an id that can be said. -/
def Reference.Placed (f : Flow) : Reference → Prop
  | .constant _ => True
  | .output id _ => (f.node? id).isSome = true ∨ Brief id

/-- The ids that the description of a node shows can be said. -/
structure Node.Placed (f : Flow) (n : Node) : Prop where
  id : Brief n.id
  inputs : ∀ source ∈ n.inputs, source.Placed f

variable {f : Flow} {n : Node} {source : Reference}

theorem Reference.Sayable.isWorded (sayable : source.Sayable) : source.isWorded = true := by
  cases source with
  | constant value => exact sayable
  | output => rfl

theorem Flow.exists_nodeLabel {id : Int} (brief : Brief id) : ∃ s, f.nodeLabel id = .ok s := by
  unfold nodeLabel
  split
  · exact ⟨_, rfl⟩
  · exact Except.exists_map_eq_ok_iff.mpr (Text.exists_ofInt_iff.mpr brief)

theorem Reference.exists_describe (sayable : source.Sayable) :
    (∃ s, source.describe (some f) = .ok s) ↔ source.Placed f := by
  cases source with
  | constant value => exact iff_of_true ⟨_, Value.format_brief sayable⟩ trivial
  | output id index =>
    simp only [describe, Option.bind_some, Placed]
    cases f.node? id with
    | some node =>
      refine iff_of_true ?_ (.inl rfl)
      exact Except.exists_map_eq_ok_iff.mpr (Port.exists_label _ sayable)
    | none =>
      simp [Except.bind_eq_ok_iff, Text.ofInt_eq_ok_iff, pure, Except.pure]
      exact fun _ => sayable

namespace Node

theorem exists_inputLine (sayable : source.Sayable) (position : Nat) :
    (∃ s, n.inputLine f position source = .ok s) ↔ source.Placed f :=
  Except.exists_map_eq_ok_iff.trans (Reference.exists_describe sayable)

theorem exists_branchLine {id : Int} (brief : Brief id) (position : Nat) :
    ∃ s, n.branchLine f position id = .ok s := by
  refine Except.exists_map_eq_ok_iff.mpr ?_
  split
  · exact ⟨_, rfl⟩
  · exact Flow.exists_nodeLabel brief

/-- The node itself is described by its id; other nodes show in its lines. -/
theorem exists_describe (sayable : n.Sayable) : (∃ s, n.describe f = .ok s) ↔ n.Placed f := by
  have inputs : (∃ shown, Worded.all (n.inputs.mapIdx (n.inputLine f)) = .ok shown) ↔
      ∀ source ∈ n.inputs, source.Placed f := by
    rw [Worded.exists_all_iff]
    constructor
    · intro lines source member
      obtain ⟨i, slot, rfl⟩ := List.mem_iff_getElem.mp member
      have line := lines _ (List.mem_mapIdx.mpr ⟨i, slot, rfl⟩)
      exact (exists_inputLine (sayable.inputs _ member) i).mp line
    · intro placed line member
      obtain ⟨i, slot, rfl⟩ := List.mem_mapIdx.mp member
      have there := List.getElem_mem slot
      exact (exists_inputLine (sayable.inputs _ there) i).mpr (placed _ there)
  have branches : ∃ shown, Worded.all (n.next.mapIdx (n.branchLine f)) = .ok shown := by
    refine Worded.exists_all_iff.mpr fun line member => ?_
    obtain ⟨i, slot, rfl⟩ := List.mem_mapIdx.mp member
    exact exists_branchLine (sayable.next _ (List.getElem_mem slot)) i
  have parts : (∃ s, n.describe f = .ok s) ↔ (∃ shown, Text.ofInt n.id = .ok shown) ∧
      (∃ shown, Worded.all (n.inputs.mapIdx (n.inputLine f)) = .ok shown) ∧
      ∃ shown, Worded.all (n.next.mapIdx (n.branchLine f)) = .ok shown := by
    unfold describe
    constructor
    · rintro ⟨s, described⟩
      obtain ⟨id, shown, described⟩ := Except.exists_of_bind_eq_ok described
      obtain ⟨ins, lines, described⟩ := Except.exists_of_bind_eq_ok described
      obtain ⟨outs, ends, -⟩ := Except.exists_of_bind_eq_ok described
      exact ⟨⟨id, shown⟩, ⟨ins, lines⟩, ⟨outs, ends⟩⟩
    · rintro ⟨⟨id, shown⟩, ⟨ins, lines⟩, ⟨outs, ends⟩⟩
      rw [shown, lines, ends]
      exact ⟨_, rfl⟩
  rw [parts, Text.exists_ofInt_iff, inputs]
  exact ⟨fun ⟨id, placed, _⟩ => ⟨id, placed⟩, fun placed => ⟨placed.id, placed.inputs, branches⟩⟩

end Node

/-- A flow of nodes that can be said is described if the ids that its description shows can be
said. -/
theorem Flow.exists_describe (distinct : f.Distinct) (sayable : ∀ n ∈ f.nodes, n.Sayable) :
    (∃ s, f.describe = .ok s) ↔ ∀ n ∈ f.nodes, n.Placed f := by
  unfold describe
  rw [Except.exists_map_eq_ok_iff, Worded.exists_all_iff, List.forall_mem_map]
  simp only [mem_ordered distinct]
  exact forall₂_congr fun n hn => Node.exists_describe (sayable n hn)

end EventFlow
