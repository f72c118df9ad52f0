import EventFlow.Proofs.Edit.Upkeep

/-!
A request that changes a flow switches it off.

* `Atomic`: of the changes of an edit only the first can break off, so one that breaks off changes
  nothing, whatever the flow and the catalog are by then;
* `atomic_kept`: every request leaves only such edits on the stacks;
* `handle_gate`: after a request the flow is off, or it is on as before and has its structure still.
-/

namespace EventFlow

/-- A change that cannot break off. -/
def Change.Plain : Change → Prop
  | removeNode _ => True
  | rename _ _ => True
  | _ => False

/-- Changes of which only the first can break off. A start can be set once its node is put in. -/
def Atomic : List Change → Prop
  | .addNode n :: .setStart id :: rest => n.id = id ∧ ∀ change ∈ rest, change.Plain
  | _ :: rest => ∀ change ∈ rest, change.Plain
  | [] => True

structure Edit.Atomic (edit : Edit) : Prop where
  forward : EventFlow.Atomic edit.forward
  inverse : EventFlow.Atomic edit.inverse

theorem Change.apply_plain {change : Change} (plain : change.Plain) (c : Catalog) (f : Flow) :
    ∃ g, change.apply c f = .ok g := by
  cases change with
  | removeNode | rename => exact ⟨_, rfl⟩
  | addNode | setInput | setNext | setStart => exact plain.elim

theorem applyAll_plain {changes : List Change} (plain : ∀ change ∈ changes, change.Plain)
    (c : Catalog) (f : Flow) : (applyAll c f changes).error = none := by
  induction changes generalizing f with
  | nil => rfl
  | cons change rest ih =>
    obtain ⟨first, others⟩ := List.forall_mem_cons.mp plain
    obtain ⟨g, applied⟩ := Change.apply_plain first c f
    simp only [applyAll, applied]
    exact ih others g

/-- What follows the first of atomic changes goes through. -/
theorem Atomic.tail {change : Change} {rest : List Change} (atomic : Atomic (change :: rest))
    {c : Catalog} {f g : Flow} (applied : change.apply c f = .ok g) :
    (applyAll c g rest).error = none := by
  unfold Atomic at atomic
  split at atomic
  · rename_i n id others shape
    obtain ⟨rfl, rfl⟩ := List.cons.inj shape
    obtain ⟨rfl, plain⟩ := atomic
    simp only [Change.apply] at applied
    cases copied : c.copy n with
    | error error => rw [copied] at applied; cases applied
    | ok m =>
      rw [copied] at applied
      cases applied
      have present : ((f.addNode m).node? n.id).isSome = true := by
        simp [(Catalog.registered_of_copy copied).2]
      obtain ⟨log, said⟩ := Flow.exists_setStartLog (.inl present)
      simp only [applyAll, Change.apply, said]
      exact applyAll_plain plain c _
  · rename_i shape
    obtain ⟨-, rfl⟩ := List.cons.inj shape
    exact applyAll_plain atomic c g
  · rename_i shape
    cases shape

/-- Atomic changes that break off leave the flow as it was. -/
theorem applyAll_atomic {changes : List Change} (atomic : Atomic changes) {c : Catalog} {f : Flow}
    {error : EditError} (broke : (applyAll c f changes).error = some error) :
    (applyAll c f changes).flow = f := by
  cases changes with
  | nil => rfl
  | cons change rest =>
    unfold applyAll at broke ⊢
    cases applied : change.apply c f with
    | error error => rfl
    | ok g =>
      simp only [applied, atomic.tail applied] at broke
      cases broke

namespace Editor

variable {c : Catalog} {e : Editor}

/-- The edits of an editor are atomic. -/
def Atomic (e : Editor) : Prop := e.Holds (fun _ => True) Edit.Atomic

theorem atomic_ofFlow (f : Flow) : (ofFlow f).Atomic :=
  holds_ofFlow trivial

theorem atomic_kept (c : Catalog) : Kept c (fun _ => True) Edit.Atomic where
  reserve _ _ := trivial
  alters _ _ _ alters := by cases alters <;> constructor <;> simp [EventFlow.Atomic]
  adds _ _ _ adds := by
    cases adds with
    | created | started => constructor <;> simp [EventFlow.Atomic, Change.Plain, Node.fresh]
    | restarted found event starts free inherits copied =>
      have same := (Catalog.registered_of_copy copied).2
      constructor <;> simp [EventFlow.Atomic, Change.Plain, same]
  forward _ _ _ _ := trivial
  inverse _ _ _ _ := trivial

/-- A request leaves a flow off, or it leaves on and off alone and the structure too. -/
def Gated (before after : Editor) : Prop :=
  after.enabled = false ∨
    after.enabled = before.enabled ∧ after.flow.shape = before.flow.shape

theorem perform_gate {edit : Edit} (atomic : edit.Atomic) (outcome : Outcome) :
    e.Gated (e.perform c outcome edit).editor := by
  unfold perform
  dsimp only
  split
  · rename_i broke
    exact Or.inr ⟨rfl, congrArg Flow.shape (applyAll_atomic atomic.forward broke)⟩
  · exact Or.inl rfl

theorem Does.gate {d : Edited} (does : Does c e d) : e.Gated d.editor := by
  have atomic := atomic_kept c
  cases does with
  | refused reason => exact Or.inr (by rw [refuse_editor]; exact ⟨rfl, rfl⟩)
  | failed | failedReserved => exact Or.inr ⟨rfl, rfl⟩
  | performed _ alters => exact perform_gate (atomic.alters _ _ trivial alters) _
  | performedReserved _ adds =>
    exact perform_gate (e := e.reserve) (atomic.adds _ _ trivial adds) _

theorem undo_gate (h : e.Atomic) : e.Gated (e.undo c).editor := by
  unfold undo
  cases stack : e.undoable with
  | nil => exact Or.inr ⟨rfl, rfl⟩
  | cons edit rest =>
    have latest := h.undoable edit (stack ▸ List.mem_cons_self)
    dsimp only
    split
    · rename_i broke
      exact Or.inr ⟨rfl, congrArg Flow.shape (applyAll_atomic latest.inverse broke)⟩
    · exact Or.inl rfl

theorem redo_gate (h : e.Atomic) : e.Gated (e.redo c).editor := by
  unfold redo
  cases stack : e.redoable with
  | nil => exact Or.inr ⟨rfl, rfl⟩
  | cons edit rest =>
    have latest := h.redoable edit (stack ▸ List.mem_cons_self)
    dsimp only
    split
    · rename_i broke
      exact Or.inr ⟨rfl, congrArg Flow.shape (applyAll_atomic latest.forward broke)⟩
    · exact Or.inl rfl

/-- **A request that changes a flow switches it off**, also one that breaks off halfway. -/
theorem handle_gate (h : e.Atomic) (request : Request) : e.Gated (handle c e request) := by
  cases request with
  | edit command => exact (edit_does command).gate
  | undo => exact undo_gate h
  | redo => exact redo_gate h

end Editor

end EventFlow
