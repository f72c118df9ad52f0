import EventFlow.Flow.Basic
import EventFlow.Proofs.Text.Wording
import Mathlib.Data.List.Nodup

/-!
The nodes of a flow as a map from ids: what each change of the list of nodes does to the look-up,
and the conditions on flows that editing, running and storing keep.
-/

namespace EventFlow

/-- A node whose lists of inputs and successors have the lengths that its type asks for. -/
structure Node.Fits (n : Node) : Prop where
  inputs : n.inputs.length = n.inputCount
  next : n.next.length = n.branchCount

/-- The catalog has no other type under the key of a node's type. -/
def Node.Current (c : Catalog) (n : Node) : Prop :=
  ∀ type, c.find? n.type.key = some type → type = n.type

/-- The catalog has the type of a node. -/
def Node.Registered (c : Catalog) (n : Node) : Prop :=
  c.find? n.type.key = some n.type

instance (c : Catalog) (n : Node) : Decidable (n.Registered c) :=
  inferInstanceAs (Decidable (_ = _))

theorem Node.Registered.current {c : Catalog} {n : Node} (h : n.Registered c) : n.Current c := by
  intro type found
  rw [h] at found
  exact (Option.some.inj found).symm

theorem Node.fits_fresh (type : NodeType) (id : Int) (name : String) :
    (Node.fresh type id name).Fits :=
  ⟨by simp [Node.fresh, Node.inputCount], by simp [Node.fresh, Node.branchCount]⟩

theorem Catalog.find?_key {c : Catalog} {key : String} {type : NodeType}
    (h : c.find? key = some type) : type.key = key := by
  simpa using List.find?_some h

theorem Catalog.find?_self {c : Catalog} {key : String} {type : NodeType}
    (h : c.find? key = some type) : c.find? type.key = some type := by
  rw [Catalog.find?_key h, h]

theorem Catalog.copy_registered {c : Catalog} {n : Node} (h : n.Registered c) :
    c.copy n = .ok n := by
  unfold Catalog.copy
  rw [h]

/-- A copy of a node that is current is the node itself, if it can be made at all. -/
theorem Catalog.copy_current {c : Catalog} {n m : Node} (h : n.Current c)
    (copied : c.copy n = .ok m) :
    m = n ∧ n.Registered c := by
  unfold Catalog.copy at copied
  cases found : c.find? n.type.key with
  | none => rw [found] at copied; cases copied
  | some type =>
    rw [found] at copied
    have same := h type found
    subst same
    exact ⟨(Except.ok.inj copied).symm, found⟩

theorem Catalog.registered_of_copy {c : Catalog} {n m : Node} (copied : c.copy n = .ok m) :
    m.Registered c ∧ m.id = n.id := by
  unfold Catalog.copy at copied
  cases found : c.find? n.type.key with
  | none => rw [found] at copied; cases copied
  | some type =>
    rw [found] at copied
    cases copied
    exact ⟨Catalog.find?_self found, rfl⟩

namespace Flow

/-- No two nodes have the same id. -/
def Distinct (f : Flow) : Prop :=
  (f.nodes.map Node.id).Nodup

/-- The next id is beyond all ids in use. -/
def Bounded (f : Flow) : Prop :=
  ∀ n ∈ f.nodes, n.id ≤ f.counter

/-- Every node sits under an id of its own, and has the slots of its type. -/
structure WellFormed (f : Flow) : Prop where
  distinct : f.Distinct
  fits : ∀ n ∈ f.nodes, n.Fits

instance (f : Flow) : Decidable f.Distinct := inferInstanceAs (Decidable (List.Nodup _))

instance (f : Flow) : Decidable f.Bounded :=
  inferInstanceAs (Decidable (∀ n ∈ f.nodes, n.id ≤ f.counter))

theorem mem_of_node? {f : Flow} {id : Int} {n : Node} (h : f.node? id = some n) :
    n ∈ f.nodes ∧ n.id = id :=
  ⟨List.mem_of_find?_eq_some h, by simpa using List.find?_some h⟩

theorem node?_eq_none {f : Flow} {id : Int} : f.node? id = none ↔ ∀ n ∈ f.nodes, n.id ≠ id := by
  simp [node?]

/-- With distinct ids the look-up finds every node. -/
theorem node?_of_mem {f : Flow} (distinct : f.Distinct) {n : Node} (h : n ∈ f.nodes) :
    f.node? n.id = some n := by
  cases found : f.node? n.id with
  | none => exact absurd rfl (node?_eq_none.mp found n h)
  | some m =>
    obtain ⟨hm, same⟩ := mem_of_node? found
    rw [List.inj_on_of_nodup_map distinct hm h same]

theorem node?_eq_some_iff {f : Flow} (distinct : f.Distinct) {id : Int} {n : Node} :
    f.node? id = some n ↔ n ∈ f.nodes ∧ n.id = id := by
  constructor
  · exact mem_of_node?
  · rintro ⟨h, rfl⟩
    exact node?_of_mem distinct h

theorem find?_insert (nodes : List Node) (node : Node) (id : Int) :
    (insert nodes node).find? (fun n => n.id == id) =
      if id = node.id then some node else nodes.find? (fun n => n.id == id) := by
  induction nodes with
  | nil =>
    by_cases h : id = node.id
    · simp [insert, h]
    · simp [insert, h, Ne.symm h]
  | cons n rest ih =>
    by_cases hn : n.id = node.id
    · by_cases h : id = node.id
      · simp [insert, hn, h]
      · simp [insert, hn, h, Ne.symm h]
    · by_cases h : n.id = id
      · have other : id ≠ node.id := h ▸ hn
        simp [insert, h, other]
      · simp [insert, hn, h, ih]

@[simp] theorem node?_addNode (f : Flow) (node : Node) (id : Int) :
    (f.addNode node).node? id = if id = node.id then some node else f.node? id :=
  find?_insert f.nodes node id

@[simp] theorem node?_removeNode (f : Flow) (removed id : Int) :
    (f.removeNode removed).node? id = if id = removed then none else f.node? id := by
  unfold node? removeNode
  rw [List.find?_filter]
  by_cases h : id = removed
  · simp [h]
  · rw [if_neg h]
    congr 1
    funext n
    by_cases hn : n.id = id
    · simp [hn, h]
    · simp [hn]

theorem node?_modifyNode (f : Flow) (changed id : Int) (change : Node → Node)
    (keeps : ∀ n, (change n).id = n.id) :
    (f.modifyNode changed change).node? id =
      if id = changed then (f.node? id).map change else f.node? id := by
  unfold node? modifyNode
  rw [List.find?_map]
  have looks : ((fun n : Node => n.id == id) ∘ fun n => if n.id = changed then change n else n) =
      fun n => n.id == id := by
    funext n
    simp only [Function.comp_apply]
    split <;> simp [keeps]
  rw [looks]
  cases found : f.nodes.find? (fun n => n.id == id) with
  | none => simp
  | some n =>
    have same : n.id = id := by simpa using List.find?_some found
    by_cases h : id = changed <;> simp [same, h]

/-- The start can be set to a node of the flow, and to any id that can be put into words. -/
theorem exists_setStartLog {f : Flow} {id : Int} (sayable : (f.node? id).isSome = true ∨ Brief id) :
    ∃ log, f.setStartLog id = .ok log := by
  unfold setStartLog
  split
  · exact ⟨_, rfl⟩
  · rename_i absent
    obtain present | brief := sayable
    · exact absurd present absent
    · exact ⟨_, by rw [Text.ofInt_brief brief]; rfl⟩

@[simp] theorem node?_setStart (f : Flow) (start id : Int) :
    (f.setStart start).node? id = f.node? id :=
  rfl

@[simp] theorem node?_reserveId (f : Flow) (id : Int) : f.reserveId.node? id = f.node? id :=
  rfl

theorem map_id_insert (nodes : List Node) (node : Node) :
    (insert nodes node).map Node.id =
      if node.id ∈ nodes.map Node.id then nodes.map Node.id
      else nodes.map Node.id ++ [node.id] := by
  induction nodes with
  | nil => simp [insert]
  | cons n rest ih =>
    by_cases h : n.id = node.id
    · simp [insert, h]
    · have h' := Ne.symm h
      simp only [insert, h, ↓reduceIte, List.map_cons, ih, List.mem_cons, h', false_or]
      split <;> simp

theorem mem_insert {nodes : List Node} {node n : Node} (h : n ∈ insert nodes node) :
    n = node ∨ n ∈ nodes := by
  induction nodes with
  | nil => simpa [insert] using h
  | cons m rest ih =>
    by_cases hm : m.id = node.id
    · simp only [insert, hm, ↓reduceIte, List.mem_cons] at h ⊢
      exact h.imp_right Or.inr
    · simp only [insert, hm, ↓reduceIte, List.mem_cons] at h ⊢
      rcases h with h | h
      · exact Or.inr (Or.inl h)
      · exact (ih h).imp_right Or.inr

theorem distinct_addNode {f : Flow} (distinct : f.Distinct) (node : Node) :
    (f.addNode node).Distinct := by
  unfold Distinct addNode
  rw [map_id_insert]
  split
  · exact distinct
  · rename_i new
    exact List.nodup_append.mpr ⟨distinct, by simp, by
      intro id hid other hother same
      rw [List.mem_singleton.mp hother] at same
      exact new (same ▸ hid)⟩

theorem distinct_removeNode {f : Flow} (distinct : f.Distinct) (id : Int) :
    (f.removeNode id).Distinct :=
  distinct.sublist (List.filter_sublist.map _)

theorem distinct_modifyNode {f : Flow} (distinct : f.Distinct) (id : Int) {change : Node → Node}
    (keeps : ∀ n, (change n).id = n.id) : (f.modifyNode id change).Distinct := by
  unfold Distinct modifyNode
  have same : (f.nodes.map fun n => if n.id = id then change n else n).map Node.id =
      f.nodes.map Node.id := by
    rw [List.map_map]
    apply List.map_congr_left
    intro n _
    simp only [Function.comp_apply]
    split <;> simp [keeps]
  rw [same]
  exact distinct

theorem bounded_addNode {f : Flow} (bounded : f.Bounded) (node : Node) :
    (f.addNode node).Bounded := by
  intro n hn
  rcases mem_insert hn with rfl | hn
  · exact Int.le_max_right _ _
  · exact Int.le_trans (bounded n hn) (Int.le_max_left _ _)

theorem mem_modifyNode {f : Flow} {id : Int} {change : Node → Node} {n : Node}
    (h : n ∈ (f.modifyNode id change).nodes) : n ∈ f.nodes ∨ ∃ m ∈ f.nodes, n = change m := by
  obtain ⟨m, hm, rfl⟩ := List.mem_map.mp h
  by_cases same : m.id = id
  · exact Or.inr ⟨m, hm, by simp [same]⟩
  · exact Or.inl (by simpa [same] using hm)

theorem bounded_modifyNode {f : Flow} (bounded : f.Bounded) (id : Int) {change : Node → Node}
    (keeps : ∀ n, (change n).id = n.id) : (f.modifyNode id change).Bounded := by
  intro n hn
  rcases mem_modifyNode hn with hn | ⟨m, hm, rfl⟩
  · exact bounded n hn
  · rw [keeps]
    exact bounded m hm

theorem foldl_lower {nodes : List Node} {a : Option Node} {n : Node}
    (h : nodes.foldl lower a = some n) : n ∈ nodes ∨ a = some n := by
  induction nodes generalizing a with
  | nil => exact Or.inr h
  | cons m rest ih =>
    rcases ih h with hn | chosen
    · exact Or.inl (List.mem_cons_of_mem _ hn)
    · cases a with
      | none => exact Or.inl (by simp [Option.some.inj chosen])
      | some b =>
        simp only [lower] at chosen
        split at chosen
        · exact Or.inl (by simp [Option.some.inj chosen])
        · exact Or.inr chosen

/-- A node that is found by its name is a node of the flow and has the name. -/
theorem mem_of_nodeNamed? {f : Flow} {name : String} {n : Node} (h : f.nodeNamed? name = some n) :
    n ∈ f.nodes ∧ n.name = name := by
  rcases foldl_lower h with hn | impossible
  · simpa using List.mem_filter.mp hn
  · cases impossible

theorem foldl_lower_isSome (nodes : List Node) (a : Node) :
    (nodes.foldl lower (some a)).isSome := by
  induction nodes generalizing a with
  | nil => rfl
  | cons n rest ih =>
    simp only [List.foldl_cons, lower]
    split <;> exact ih _

/-- A name is not found if and only if no node has it. -/
theorem nodeNamed?_eq_none {f : Flow} {name : String} :
    f.nodeNamed? name = none ↔ ∀ n ∈ f.nodes, n.name ≠ name := by
  have named : f.nodeNamed? name = none ↔ (f.nodes.filter fun n => n.name == name) = [] := by
    unfold nodeNamed?
    cases f.nodes.filter fun n => n.name == name with
    | nil => simp
    | cons n rest =>
      have found := foldl_lower_isSome rest n
      rw [Option.isSome_iff_ne_none] at found
      simpa [lower] using found
  rw [named, List.filter_eq_nil_iff]
  simp

/-- A name stands for a node: of the nodes that have it, the one with the lowest id. -/
structure Addresses (f : Flow) (name : String) (n : Node) : Prop where
  present : n ∈ f.nodes
  named : n.name = name
  lowest : ∀ m ∈ f.nodes, m.name = name → n.id ≤ m.id

theorem foldl_lower_le {nodes : List Node} {a : Option Node} {n : Node}
    (h : nodes.foldl lower a = some n) : ∀ m ∈ a.toList ++ nodes, n.id ≤ m.id := by
  induction nodes generalizing a with
  | nil =>
    obtain rfl : a = some n := h
    simp
  | cons first rest ih =>
    have least := ih h
    cases a with
    | none => exact least
    | some b =>
      have chosen : ∀ m ∈ (lower (some b) first).toList, n.id ≤ m.id :=
        fun m hm => least m (List.mem_append_left _ hm)
      have both : n.id ≤ b.id ∧ n.id ≤ first.id := by
        simp only [lower] at chosen
        split at chosen <;> simp at chosen <;> omega
      simp only [Option.toList_some, List.singleton_append, List.forall_mem_cons]
      exact ⟨both.1, both.2, fun m hm => least m (List.mem_append_right _ hm)⟩

theorem addresses_of_nodeNamed? {f : Flow} {name : String} {n : Node}
    (h : f.nodeNamed? name = some n) : f.Addresses name n := by
  obtain ⟨present, named⟩ := mem_of_nodeNamed? h
  refine ⟨present, named, fun m hm same => foldl_lower_le h m ?_⟩
  simpa using And.intro hm same

/-- The look-up by name finds the node that the name stands for. -/
theorem nodeNamed?_eq_some_iff {f : Flow} (distinct : f.Distinct) {name : String} {n : Node} :
    f.nodeNamed? name = some n ↔ f.Addresses name n := by
  refine ⟨addresses_of_nodeNamed?, fun h => ?_⟩
  cases found : f.nodeNamed? name with
  | none => exact absurd h.named (nodeNamed?_eq_none.mp found n h.present)
  | some m =>
    obtain ⟨present, named, lowest⟩ := addresses_of_nodeNamed? found
    have same := Int.le_antisymm (lowest n h.present h.named) (h.lowest m present named)
    rw [List.inj_on_of_nodup_map distinct present h.present same]

end Flow

end EventFlow
