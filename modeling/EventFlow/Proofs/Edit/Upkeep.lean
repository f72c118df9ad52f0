import EventFlow.Proofs.Edit.History
import EventFlow.Proofs.Flow.Copy

/-!
What editing keeps. Edits stay on the stacks, so a condition on flows goes with one on edits, which
undo and redo need.

* `Kept`: conditions that editing keeps; `Kept.handle`: so does every request;
* `Node.Whole`: a node has the slots of its type, which is the one that the catalog has;
* `Change.apply_lasting`: a change keeps a condition that holds of all nodes and of its snapshot;
* `whole_kept`: the snapshots that edits hold are no worse than the nodes of the flow;
* `whole_after`: a flow of whole nodes stays one under any requests.
-/

namespace EventFlow

namespace Editor

/-- The flow of an editor and the edits on its stacks meet conditions. -/
structure Holds (P : Flow → Prop) (Q : Edit → Prop) (e : Editor) : Prop where
  flow : P e.flow
  undoable : ∀ edit ∈ e.undoable, Q edit
  redoable : ∀ edit ∈ e.redoable, Q edit

/-- The stacks of a new editor are empty. -/
theorem holds_ofFlow {P : Flow → Prop} {Q : Edit → Prop} {f : Flow} (h : P f) :
    (ofFlow f).Holds P Q :=
  ⟨h, by simp [ofFlow], by simp [ofFlow]⟩

/-- Conditions that editing keeps: the edits of commands meet theirs on a flow that meets its own,
and either way such edits lead to flows that meet it. -/
structure Kept (c : Catalog) (P : Flow → Prop) (Q : Edit → Prop) : Prop where
  reserve : ∀ f, P f → P f.reserveId
  alters : ∀ f edit, P f → Alters c f edit → Q edit
  adds : ∀ f edit, P f → Adds c f edit → Q edit
  forward : ∀ f edit, P f → Q edit → P (applyAll c f edit.forward).flow
  inverse : ∀ f edit, P f → Q edit → P (applyAll c f edit.inverse).flow

namespace Kept

variable {c : Catalog} {e : Editor} {P : Flow → Prop} {Q : Edit → Prop}
variable (kept : Kept c P Q) (h : e.Holds P Q)
include kept h

theorem perform {edit : Edit} (met : Q edit) (outcome : Outcome) :
    (e.perform c outcome edit).editor.Holds P Q := by
  have flow := kept.forward e.flow edit h.flow met
  unfold Editor.perform
  dsimp only
  split
  · exact ⟨flow, h.undoable, h.redoable⟩
  · exact ⟨flow, List.forall_mem_cons.mpr ⟨met, h.undoable⟩, by simp⟩

theorem does {d : Edited} (does : Does c e d) : d.editor.Holds P Q := by
  have reserved : e.reserve.Holds P Q := ⟨kept.reserve e.flow h.flow, h.undoable, h.redoable⟩
  cases does with
  | refused => rwa [refuse_editor]
  | failed => exact h
  | failedReserved => exact reserved
  | performed _ alters => exact kept.perform h (kept.alters _ _ h.flow alters) _
  | performedReserved _ adds => exact kept.perform reserved (kept.adds _ _ h.flow adds) _

theorem undo : (e.undo c).editor.Holds P Q := by
  unfold Editor.undo
  cases stack : e.undoable with
  | nil => exact h
  | cons edit rest =>
    obtain ⟨latest, others⟩ := List.forall_mem_cons.mp (stack ▸ h.undoable)
    have flow := kept.inverse e.flow edit h.flow latest
    dsimp only
    split
    · exact ⟨flow, others, h.redoable⟩
    · exact ⟨flow, others, List.forall_mem_cons.mpr ⟨latest, h.redoable⟩⟩

theorem redo : (e.redo c).editor.Holds P Q := by
  unfold Editor.redo
  cases stack : e.redoable with
  | nil => exact h
  | cons edit rest =>
    obtain ⟨latest, others⟩ := List.forall_mem_cons.mp (stack ▸ h.redoable)
    have flow := kept.forward e.flow edit h.flow latest
    dsimp only
    split
    · exact ⟨flow, h.undoable, others⟩
    · exact ⟨flow, List.forall_mem_cons.mpr ⟨latest, h.undoable⟩, others⟩

/-- Every request leaves an editor of which the conditions hold. -/
theorem handle (request : Request) : (e.handle c request).Holds P Q := by
  cases request with
  | edit command => exact kept.does h (edit_does command)
  | undo => exact kept.undo h
  | redo => exact kept.redo h

end Kept

end Editor

/-- A node that a copy through the catalog neither changes nor leaves with too many or too few
slots. -/
structure Node.Whole (c : Catalog) (n : Node) : Prop where
  fits : n.Fits
  current : n.Current c

/-- A flow of whole nodes under ids of their own. -/
structure Flow.Whole (c : Catalog) (f : Flow) : Prop where
  distinct : f.Distinct
  nodes : ∀ n ∈ f.nodes, n.Whole c

/-- The snapshot of a change, if it has one, is whole. -/
def Change.Whole (c : Catalog) : Change → Prop
  | addNode snapshot => snapshot.Whole c
  | _ => True

/-- The snapshots of an edit are whole. -/
structure Edit.Whole (c : Catalog) (edit : Edit) : Prop where
  forward : ∀ change ∈ edit.forward, change.Whole c
  inverse : ∀ change ∈ edit.inverse, change.Whole c

theorem Flow.Whole.wellFormed {c : Catalog} {f : Flow} (h : f.Whole c) : f.WellFormed :=
  ⟨h.distinct, fun n hn => (h.nodes n hn).fits⟩

theorem Catalog.copy_whole {c : Catalog} {n m : Node} (h : n.Whole c) (copied : c.copy n = .ok m) :
    m.Whole c :=
  (Catalog.copy_current h.current copied).1 ▸ h

theorem Node.whole_fresh {c : Catalog} {type : NodeType} (found : c.find? type.key = some type)
    (id : Int) (name : String) : (Node.fresh type id name).Whole c where
  fits := Node.fits_fresh type id name
  current := Registered.current (n := Node.fresh type id name) found

section Change
variable {c : Catalog} {f g : Flow}

/-- A condition on nodes that copying, renaming and rewiring a node keep, if what it is wired to
meets conditions too. -/
structure Node.Lasting (c : Catalog) (R : Node → Prop) (S : Reference → Prop) (T : Int → Prop) :
    Prop where
  copied : ∀ n m, R n → c.copy n = .ok m → R m
  renamed : ∀ n name, R n → R { n with name := name }
  inputSet : ∀ n index source, R n → S source → R { n with inputs := n.inputs.set index source }
  nextSet : ∀ n index next, R n → T next → R { n with next := n.next.set index next }

/-- The snapshot of a change, or what it wires a node to, meets a condition. -/
def Change.Meets (R : Node → Prop) (S : Reference → Prop) (T : Int → Prop) : Change → Prop
  | addNode snapshot => R snapshot
  | setInput _ _ source => S source
  | setNext _ _ next => T next
  | _ => True

/-- A lasting condition holds of all nodes after a change that meets it. -/
theorem Change.apply_lasting {R : Node → Prop} {S : Reference → Prop} {T : Int → Prop}
    (lasting : Node.Lasting c R S T) {change : Change} (h : ∀ n ∈ f.nodes, R n)
    (meets : change.Meets R S T) (applied : change.apply c f = .ok g) : ∀ n ∈ g.nodes, R n := by
  have modified {id : Int} {alter : Node → Node} (keeps : ∀ n, R n → R (alter n)) :
      ∀ n ∈ (f.modifyNode id alter).nodes, R n := by
    intro n hn
    rcases Flow.mem_modifyNode hn with hn | ⟨m, hm, rfl⟩
    · exact h n hn
    · exact keeps m (h m hm)
  cases change with
  | addNode snapshot =>
    simp only [apply] at applied
    cases copied : c.copy snapshot with
    | error error => rw [copied] at applied; cases applied
    | ok m =>
      rw [copied] at applied
      cases applied
      intro n hn
      rcases Flow.mem_insert hn with rfl | hn
      · exact lasting.copied snapshot n meets copied
      · exact h n hn
  | removeNode id =>
    cases applied
    exact fun n hn => h n (List.mem_filter.mp hn).1
  | rename id name =>
    cases applied
    exact modified fun n => lasting.renamed n name
  | setInput id index source =>
    simp only [apply] at applied
    split at applied
    · cases applied; exact h
    · split at applied
      · cases applied
        exact modified fun n held => lasting.inputSet n index source held meets
      · cases applied
  | setNext id index next =>
    simp only [apply] at applied
    split at applied
    · cases applied; exact h
    · split at applied
      · cases applied
        exact modified fun n held => lasting.nextSet n index next held meets
      · cases applied
  | setStart id => rwa [setStart_of_apply applied]

theorem Change.apply_distinct {change : Change} (distinct : f.Distinct)
    (applied : change.apply c f = .ok g) : g.Distinct := by
  cases change with
  | addNode snapshot =>
    simp only [apply] at applied
    split at applied
    · cases applied; exact Flow.distinct_addNode distinct _
    · cases applied
  | removeNode id => cases applied; exact Flow.distinct_removeNode distinct id
  | rename => cases applied; exact Flow.distinct_modifyNode distinct _ fun _ => rfl
  | setInput | setNext =>
    simp only [apply] at applied
    split at applied
    · cases applied; exact distinct
    · split at applied
      · cases applied; exact Flow.distinct_modifyNode distinct _ fun _ => rfl
      · cases applied
  | setStart => rwa [setStart_of_apply applied]

theorem Node.whole_lasting (c : Catalog) :
    Node.Lasting c (Node.Whole c) (fun _ => True) (fun _ => True) where
  copied _ _ whole copied := Catalog.copy_whole whole copied
  renamed _ _ whole := ⟨⟨whole.fits.inputs, whole.fits.next⟩, whole.current⟩
  inputSet _ _ _ whole _ :=
    ⟨⟨(List.length_set).trans whole.fits.inputs, whole.fits.next⟩, whole.current⟩
  nextSet _ _ _ whole _ :=
    ⟨⟨whole.fits.inputs, (List.length_set).trans whole.fits.next⟩, whole.current⟩

theorem Change.apply_whole {change : Change} (h : f.Whole c) (whole : change.Whole c)
    (applied : change.apply c f = .ok g) : g.Whole c where
  distinct := Change.apply_distinct h.distinct applied
  nodes :=
    Change.apply_lasting (Node.whole_lasting c) h.nodes (by cases change <;> exact whole) applied

theorem applyAll_whole {changes : List Change} (h : f.Whole c)
    (whole : ∀ change ∈ changes, change.Whole c) : (applyAll c f changes).flow.Whole c :=
  applyAll_keeps h fun change mem _ _ h applied => Change.apply_whole h (whole change mem) applied

end Change

namespace Editor

variable {c : Catalog} {e : Editor}

/-- All that an editor holds is whole: the nodes of its flow, and the snapshots of its edits. -/
def Whole (c : Catalog) (e : Editor) : Prop := e.Holds (Flow.Whole c) (Edit.Whole c)

theorem whole_ofFlow {f : Flow} (h : f.Whole c) : (ofFlow f).Whole c :=
  holds_ofFlow h

theorem Alters.whole {f : Flow} {edit : Edit} (alters : Alters c f edit) (h : f.Whole c) :
    edit.Whole c := by
  cases alters with
  | removed hn other copied =>
    have snapshot := Catalog.copy_whole (h.nodes _ hn) copied
    exact ⟨by simp [Change.Whole], by simpa [Change.Whole] using snapshot⟩
  | renamed | inputSet | nextSet => constructor <;> simp [Change.Whole]

theorem Adds.whole {f : Flow} {edit : Edit} (adds : Adds c f edit) (h : f.Whole c) :
    edit.Whole c := by
  cases adds with
  | created found free =>
    have fresh := Node.whole_fresh found (f.counter + 1)
    constructor <;> simp [Change.Whole, fresh]
  | started found missing =>
    have fresh := Node.whole_fresh found (f.counter + 1)
    constructor <;> simp [Change.Whole, fresh]
  | restarted found event starts free inherits copied =>
    have fresh := Node.whole_fresh found (f.counter + 1)
    obtain ⟨-, newType, -⟩ := inheritNext_keeps inherits
    have new : Node.Whole c _ := ⟨fits_inheritNext (fresh _).fits inherits, by
      unfold Node.Current
      rw [newType]
      exact (fresh _).current⟩
    have snapshot := Catalog.copy_whole (h.nodes _ (Flow.mem_of_node? starts).1) copied
    constructor
    · simpa [Change.Whole] using new
    · simpa [Change.Whole] using snapshot

theorem whole_kept (c : Catalog) : Kept c (Flow.Whole c) (Edit.Whole c) where
  reserve _ h := ⟨h.distinct, h.nodes⟩
  alters _ _ h alters := alters.whole h
  adds _ _ h adds := adds.whole h
  forward _ _ h edit := applyAll_whole h edit.forward
  inverse _ _ h edit := applyAll_whole h edit.inverse

theorem whole_after {f : Flow} (h : f.Whole c) (requests : List Request) :
    (after c f requests).Whole c := by
  induction requests using List.reverseRecOn with
  | nil => exact whole_ofFlow h
  | append_singleton requests request ih =>
    rw [after_append]
    exact (whole_kept c).handle ih request

end Editor

end EventFlow
