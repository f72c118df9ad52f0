import EventFlow.Proofs.Flow.Nodes
import EventFlow.Proofs.Traverse

/-!
Copies of flows. A copy has the nodes of its original in their order, each under the type that its
key stands for in the catalog; it is the original itself where the catalog has all the types.

* `Outline`: what every copy has in common with its original, whatever the catalog;
* `copy_outline`, `exists_copy`: a copy keeps it, and there is a copy if the catalog has all the
  keys;
* `copy_registered`, `copy_current`: when a copy is the original.
-/

namespace EventFlow

/-- What a node is apart from what the catalog says of its type. -/
structure Node.Outline where
  id : Int
  key : String
  name : String
  inputs : List Reference
  next : List Int
  deriving DecidableEq, Repr

def Node.outline (n : Node) : Node.Outline := ⟨n.id, n.type.key, n.name, n.inputs, n.next⟩

theorem Catalog.copy_outline {c : Catalog} {n m : Node} (copied : c.copy n = .ok m) :
    m.outline = n.outline := by
  unfold Catalog.copy at copied
  cases found : c.find? n.type.key with
  | none => rw [found] at copied; cases copied
  | some type =>
    rw [found] at copied
    cases copied
    simp only [Node.outline, Catalog.find?_key found]

namespace Flow

/-- What a flow is apart from the order of its nodes, its counter and what the catalog says of its
types. -/
structure Outline where
  name : String
  start : Int
  node? : Int → Option Node.Outline

def outline (f : Flow) : Outline := ⟨f.name, f.start, fun id => (f.node? id).map Node.outline⟩

variable {c : Catalog} {f g : Flow}

theorem copy_eq_ok_iff :
    f.copy c = .ok g ↔
      List.Forall₂ (fun n m => c.copy n = .ok m) f.nodes g.nodes ∧
        g = { f with nodes := g.nodes } := by
  rw [← List.mapM_eq_ok_iff]
  unfold copy
  cases copied : f.nodes.mapM c.copy with
  | error e => simp [bind, Except.bind]
  | ok nodes =>
    simp only [bind, Except.bind, pure, Except.pure, Except.ok.injEq]
    constructor
    · rintro rfl
      exact ⟨rfl, rfl⟩
    · rintro ⟨rfl, same⟩
      exact same.symm

/-- A flow of types that the catalog has is its own copy. -/
theorem copy_registered (registered : ∀ n ∈ f.nodes, n.Registered c) : f.copy c = .ok f := by
  refine copy_eq_ok_iff.mpr ⟨?_, rfl⟩
  rw [List.forall₂_same]
  intro n mem
  exact Catalog.copy_registered (registered n mem)

/-- A copy of a flow whose types are those of the catalog is the flow itself. -/
theorem copy_current (current : ∀ n ∈ f.nodes, n.Current c) (copied : f.copy c = .ok g) :
    g = f := by
  obtain ⟨each, rebuilt⟩ := copy_eq_ok_iff.mp copied
  have same : List.Forall₂ Eq f.nodes g.nodes :=
    ((List.forall₂_and_left _ _).mpr ⟨current, each⟩).imp fun _ _ h =>
      (Catalog.copy_current h.1 h.2).1.symm
  rw [List.forall₂_eq_eq_eq] at same
  rw [rebuilt, ← same]

/-- There is a copy if the catalog has the keys of all nodes. -/
theorem exists_copy (known : ∀ n ∈ f.nodes, c.has n.type.key) : ∃ g, f.copy c = .ok g := by
  cases copied : f.copy c with
  | ok g => exact ⟨g, rfl⟩
  | error error =>
    unfold copy at copied
    cases each : f.nodes.mapM c.copy with
    | ok nodes => rw [each] at copied; cases copied
    | error error =>
      obtain ⟨_, n, _, parts, -, fails⟩ := (List.mapM_eq_error_iff _ _ _).mp each
      have found := known n (by rw [parts]; simp)
      unfold Catalog.has at found
      unfold Catalog.copy at fails
      split at fails
      · cases fails
      · rename_i none
        rw [none] at found
        cases found

/-- A copy keeps the outline of the original. -/
theorem copy_outline (copied : f.copy c = .ok g) : g.outline = f.outline := by
  obtain ⟨each, rebuilt⟩ := copy_eq_ok_iff.mp copied
  have nodes (id : Int) : (g.node? id).map Node.outline = (f.node? id).map Node.outline := by
    unfold node?
    clear copied rebuilt
    generalize f.nodes = old at each
    generalize g.nodes = new at each
    induction each with
    | nil => rfl
    | @cons n m old new first others ih =>
      have same := Catalog.copy_outline first
      have sameId : m.id = n.id := congrArg Node.Outline.id same
      simp only [List.find?_cons, sameId]
      split
      · simp only [Option.map_some, same]
      · exact ih
  have sameName : g.name = f.name := by rw [rebuilt]
  have sameStart : g.start = f.start := by rw [rebuilt]
  simp only [outline, Outline.mk.injEq]
  exact ⟨sameName, sameStart, funext nodes⟩

end Flow

end EventFlow
