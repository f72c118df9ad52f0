import EventFlow.Edit.Editor
import EventFlow.Proofs.Flow.Nodes

/-!
What changes do to the structure of a flow. The structure leaves out the order in which the nodes
were inserted and the counter, neither of which undo restores.

* `Leads`: changes take every flow of one structure to another, and none of them breaks off;
* `applyAll_leads`: the changes of an edit do what `Leads` says;
* `applyAll_editable`: no change, not even one that breaks off, spoils the conditions for editing.
-/

namespace EventFlow

/-- The structure of a flow: its name, its start, and the node under each id. -/
@[ext] structure Shape where
  name : String
  start : Int
  node? : Int → Option Node

namespace Shape

def put (s : Shape) (n : Node) : Shape :=
  { s with node? := fun id => if id = n.id then some n else s.node? id }

def erase (s : Shape) (removed : Int) : Shape :=
  { s with node? := fun id => if id = removed then none else s.node? id }

def modify (s : Shape) (changed : Int) (change : Node → Node) : Shape :=
  { s with node? := fun id => if id = changed then (s.node? id).map change else s.node? id }

def setStart (s : Shape) (id : Int) : Shape := { s with start := id }

/-- The start is a node, or an id that can be put into words, so that it can be set again. -/
def Startable (s : Shape) : Prop :=
  (s.node? s.start).isSome = true ∨ Brief s.start

/-- What a change makes of a structure. -/
def after (s : Shape) : Change → Shape
  | .addNode n => s.put n
  | .removeNode id => s.erase id
  | .rename id name => s.modify id fun n => { n with name := name }
  | .setInput id index source => s.modify id fun n => { n with inputs := n.inputs.set index source }
  | .setNext id index next => s.modify id fun n => { n with next := n.next.set index next }
  | .setStart id => s.setStart id

theorem erase_put {s : Shape} {n : Node} (absent : s.node? n.id = none) :
    (s.put n).erase n.id = s := by
  ext id m
  · rfl
  · rfl
  · by_cases h : id = n.id
    · simp [put, erase, h, absent]
    · simp [put, erase, h]

/-- A new start is taken back by setting the old start and taking out the node. -/
theorem erase_start {s : Shape} {n : Node} (absent : s.node? n.id = none) :
    (((s.put n).setStart n.id).setStart s.start).erase n.id = s := by
  ext id m
  · rfl
  · rfl
  · by_cases h : id = n.id
    · simp [put, erase, setStart, h, absent]
    · simp [put, erase, setStart, h]

theorem put_erase {s : Shape} {n : Node} (present : s.node? n.id = some n) :
    (s.erase n.id).put n = s := by
  ext id m
  · rfl
  · rfl
  · by_cases h : id = n.id
    · simp [put, erase, h, present]
    · simp [put, erase, h]

theorem modify_absent {s : Shape} {id : Int} {change : Node → Node} (absent : s.node? id = none) :
    s.modify id change = s := by
  ext i m
  · rfl
  · rfl
  · by_cases h : i = id <;> simp [modify, h, absent]

/-- A change of one node is taken back by a change that takes it back on that node. -/
theorem modify_modify {s : Shape} {n : Node} {id : Int} {change back : Node → Node}
    (present : s.node? id = some n) (inverse : back (change n) = n) :
    (s.modify id change).modify id back = s := by
  ext i m
  · rfl
  · rfl
  · by_cases h : i = id
    · simp [modify, h, present, inverse]
    · simp [modify, h]

end Shape

namespace Flow

def shape (f : Flow) : Shape := ⟨f.name, f.start, f.node?⟩

@[simp] theorem shape_addNode (f : Flow) (n : Node) : (f.addNode n).shape = f.shape.put n := by
  ext id m
  · rfl
  · rfl
  · simp [shape, Shape.put]

@[simp] theorem shape_removeNode (f : Flow) (id : Int) :
    (f.removeNode id).shape = f.shape.erase id := by
  ext i m
  · rfl
  · rfl
  · simp [shape, Shape.erase]

theorem shape_modifyNode (f : Flow) (id : Int) (change : Node → Node)
    (keeps : ∀ n, (change n).id = n.id) :
    (f.modifyNode id change).shape = f.shape.modify id change := by
  ext i m
  · rfl
  · rfl
  · simp [shape, Shape.modify, node?_modifyNode f id i change keeps]

@[simp] theorem shape_setStart (f : Flow) (id : Int) :
    (f.setStart id).shape = f.shape.setStart id :=
  rfl

@[simp] theorem shape_reserveId (f : Flow) : f.reserveId.shape = f.shape := rfl

/-- The conditions for editing: ids are distinct and not beyond the counter, and each node is of the
type that its key stands for, if it still stands for one. -/
structure Editable (c : Catalog) (f : Flow) : Prop where
  distinct : f.Distinct
  bounded : f.Bounded
  current : ∀ n ∈ f.nodes, n.Current c

theorem editable_reserveId {c : Catalog} {f : Flow} (h : f.Editable c) :
    f.reserveId.Editable c where
  distinct := h.distinct
  bounded n hn := by
    have := h.bounded n hn
    simp only [reserveId]
    omega
  current := h.current

/-- The next id belongs to no node. -/
theorem node?_fresh {f : Flow} (bounded : f.Bounded) : f.node? (f.counter + 1) = none := by
  rw [node?_eq_none]
  intro n hn same
  have := bounded n hn
  omega

theorem editable_modifyNode {c : Catalog} {f : Flow} (h : f.Editable c) (id : Int)
    {change : Node → Node} (keeps : ∀ n, (change n).id = n.id)
    (types : ∀ n, (change n).type = n.type) : (f.modifyNode id change).Editable c where
  distinct := distinct_modifyNode h.distinct id keeps
  bounded := bounded_modifyNode h.bounded id keeps
  current n hn := by
    rcases mem_modifyNode hn with hn | ⟨m, hm, rfl⟩
    · exact h.current n hn
    · intro type found
      rw [types] at found ⊢
      exact h.current m hm type found

end Flow

namespace Change

/-- Whether a change can be applied to flows of a structure. -/
def Ready (c : Catalog) (s : Shape) : Change → Prop
  | addNode n => n.Registered c
  | setInput id index _ => ∀ n, s.node? id = some n → index < n.inputs.length
  | setNext id index _ => ∀ n, s.node? id = some n → index < n.next.length
  | setStart id => (s.node? id).isSome = true ∨ Brief id
  | _ => True

theorem setStart_of_apply {c : Catalog} {f g : Flow} {id : Int}
    (applied : (setStart id).apply c f = .ok g) : g = f.setStart id := by
  simp only [apply] at applied
  split at applied
  · exact (Except.ok.inj applied).symm
  · cases applied

theorem apply_ready {c : Catalog} {f : Flow} {change : Change} (ready : change.Ready c f.shape) :
    ∃ g, change.apply c f = .ok g ∧ g.shape = f.shape.after change := by
  cases change with
  | addNode n =>
    refine ⟨f.addNode n, ?_, Flow.shape_addNode f n⟩
    simp only [apply, Catalog.copy_registered ready]
  | removeNode id => exact ⟨_, rfl, Flow.shape_removeNode f id⟩
  | rename id name => exact ⟨_, rfl, Flow.shape_modifyNode f id _ fun _ => rfl⟩
  | setInput id index source =>
    cases found : f.node? id with
    | none =>
      exact ⟨f, by simp only [apply, found], (Shape.modify_absent found).symm⟩
    | some n =>
      refine ⟨_, by simp only [apply, found, ready n found, ↓reduceIte]; rfl, ?_⟩
      exact Flow.shape_modifyNode f id _ fun _ => rfl
  | setNext id index next =>
    cases found : f.node? id with
    | none =>
      exact ⟨f, by simp only [apply, found], (Shape.modify_absent found).symm⟩
    | some n =>
      refine ⟨_, by simp only [apply, found, ready n found, ↓reduceIte]; rfl, ?_⟩
      exact Flow.shape_modifyNode f id _ fun _ => rfl
  | setStart id =>
    obtain ⟨log, said⟩ := Flow.exists_setStartLog ready
    exact ⟨f.setStart id, by simp only [apply, said], rfl⟩

theorem apply_editable {c : Catalog} {f g : Flow} {change : Change} (h : f.Editable c)
    (applied : change.apply c f = .ok g) : g.Editable c := by
  cases change with
  | addNode n =>
    simp only [apply] at applied
    cases copied : c.copy n with
    | error error => rw [copied] at applied; cases applied
    | ok m =>
      rw [copied] at applied
      cases applied
      refine ⟨Flow.distinct_addNode h.distinct m, Flow.bounded_addNode h.bounded m, ?_⟩
      intro k hk
      rcases Flow.mem_insert hk with rfl | hk
      · exact (Catalog.registered_of_copy copied).1.current
      · exact h.current k hk
  | removeNode id =>
    cases applied
    have kept : ∀ n ∈ (f.removeNode id).nodes, n ∈ f.nodes := fun n hn => (List.mem_filter.mp hn).1
    exact ⟨Flow.distinct_removeNode h.distinct id, fun n hn => h.bounded n (kept n hn),
      fun n hn => h.current n (kept n hn)⟩
  | rename id name =>
    cases applied
    exact Flow.editable_modifyNode h id (fun _ => rfl) fun _ => rfl
  | setInput id index source =>
    simp only [apply] at applied
    split at applied
    · cases applied; exact h
    · split at applied
      · cases applied; exact Flow.editable_modifyNode h id (fun _ => rfl) fun _ => rfl
      · cases applied
  | setNext id index next =>
    simp only [apply] at applied
    split at applied
    · cases applied; exact h
    · split at applied
      · cases applied; exact Flow.editable_modifyNode h id (fun _ => rfl) fun _ => rfl
      · cases applied
  | setStart id =>
    rw [setStart_of_apply applied]
    exact ⟨h.distinct, h.bounded, h.current⟩

end Change

/-- From every flow of structure `s` the changes lead to structure `t`, and none breaks off. -/
def Leads (c : Catalog) : List Change → Shape → Shape → Prop
  | [], s, t => s = t
  | change :: rest, s, t => change.Ready c s ∧ Leads c rest (s.after change) t

theorem Leads.eq_foldl {c : Catalog} {changes : List Change} {s t : Shape}
    (h : Leads c changes s t) : t = changes.foldl Shape.after s := by
  induction changes generalizing s with
  | nil => exact h.symm
  | cons change rest ih => exact ih h.2

theorem applyAll_leads {c : Catalog} {changes : List Change} {f : Flow} {t : Shape}
    (h : Leads c changes f.shape t) :
    (applyAll c f changes).error = none ∧ (applyAll c f changes).flow.shape = t := by
  induction changes generalizing f with
  | nil => exact ⟨rfl, h⟩
  | cons change rest ih =>
    obtain ⟨g, applied, shape⟩ := Change.apply_ready h.1
    simp only [applyAll, applied]
    exact ih (shape ▸ h.2)

/-- What no change spoils, changes do not spoil, also if they break off. -/
theorem applyAll_keeps {c : Catalog} {P : Flow → Prop} {changes : List Change} {f : Flow} (h : P f)
    (keeps : ∀ change ∈ changes, ∀ f g, P f → change.apply c f = .ok g → P g) :
    P (applyAll c f changes).flow := by
  induction changes generalizing f with
  | nil => exact h
  | cons change rest ih =>
    obtain ⟨first, others⟩ := List.forall_mem_cons.mp keeps
    cases applied : change.apply c f with
    | error error => simpa only [applyAll, applied] using h
    | ok g =>
      simp only [applyAll, applied]
      exact ih (first f g h applied) others

theorem applyAll_editable {c : Catalog} {changes : List Change} {f : Flow} (h : f.Editable c) :
    (applyAll c f changes).flow.Editable c :=
  applyAll_keeps h fun _ _ _ _ h applied => Change.apply_editable h applied

theorem Change.apply_counter {c : Catalog} {f g : Flow} {change : Change}
    (applied : change.apply c f = .ok g) : f.counter ≤ g.counter := by
  cases change with
  | addNode n =>
    simp only [apply] at applied
    split at applied
    · cases applied; exact Int.le_max_left _ _
    · cases applied
  | removeNode | rename => cases applied; exact Int.le_refl _
  | setStart => rw [setStart_of_apply applied]; exact Int.le_refl _
  | setInput | setNext =>
    simp only [apply] at applied
    split at applied
    · cases applied; exact Int.le_refl _
    · split at applied
      · cases applied; exact Int.le_refl _
      · cases applied

/-- No changes take ids back. -/
theorem applyAll_counter (c : Catalog) (f : Flow) (changes : List Change) :
    f.counter ≤ (applyAll c f changes).flow.counter :=
  applyAll_keeps (Int.le_refl f.counter) fun _ _ _ _ below applied =>
    Int.le_trans below (Change.apply_counter applied)

theorem Change.apply_name {c : Catalog} {f g : Flow} {change : Change}
    (applied : change.apply c f = .ok g) : g.name = f.name := by
  cases change with
  | addNode n =>
    simp only [apply] at applied
    split at applied
    · cases applied; rfl
    · cases applied
  | removeNode | rename => cases applied; rfl
  | setStart => rw [setStart_of_apply applied]; rfl
  | setInput | setNext =>
    simp only [apply] at applied
    split at applied
    · cases applied; rfl
    · split at applied
      · cases applied; rfl
      · cases applied

/-- No changes rename a flow. -/
theorem applyAll_name (c : Catalog) (f : Flow) (changes : List Change) :
    (applyAll c f changes).flow.name = f.name :=
  applyAll_keeps (P := fun g => g.name = f.name) rfl fun _ _ _ _ same applied =>
    (Change.apply_name applied).trans same

/-- An edit that leads from one structure to another, and back. -/
structure Edit.Links (c : Catalog) (edit : Edit) (s t : Shape) : Prop where
  forward : Leads c edit.forward s t
  inverse : Leads c edit.inverse t s

end EventFlow
