import EventFlow.Node.Standard
import EventFlow.Proofs.Edit.Command
import Mathlib.Data.List.Induction

/-!
Undo and redo as an exact linear history.

* `Stands`: the stacks of an editor link its structure with the structures before and after it;
* `stands_next`: every request keeps that so, and moves along the structures as it should;
* `edits_form_linear_history`: the editor is always at one place of a list of structures, undo and
  redo move it by one place, and an edit drops what lies ahead.
-/

namespace EventFlow

/-- The structures that an editor goes back and forth through: those behind it with the latest
first, where it is, and those ahead of it with the next one first. -/
structure Timeline where
  past : List Shape
  present : Shape
  future : List Shape

namespace Timeline

/-- All structures of a timeline in order. -/
def states (t : Timeline) : List Shape := t.past.reverse ++ t.present :: t.future

def record (t : Timeline) (s : Shape) : Timeline := ⟨t.present :: t.past, s, []⟩

def back (t : Timeline) : Timeline :=
  match t.past with
  | [] => t
  | s :: past => ⟨past, s, t.present :: t.future⟩

def forth (t : Timeline) : Timeline :=
  match t.future with
  | [] => t
  | s :: future => ⟨t.present :: t.past, s, future⟩

theorem states_back (t : Timeline) : t.back.states = t.states := by
  unfold back states
  cases past : t.past <;> simp [past]

theorem states_forth (t : Timeline) : t.forth.states = t.states := by
  unfold forth states
  cases future : t.future <;> simp [future]

theorem states_record (t : Timeline) (s : Shape) :
    (t.record s).states = t.states.take (t.past.length + 1) ++ [s] := by
  have behind : t.past.reverse.take (t.past.length + 1) = t.past.reverse :=
    List.take_of_length_le (by simp)
  simp [states, record, List.take_append, behind]

theorem states_length (t : Timeline) : t.states.length = t.past.length + t.future.length + 1 := by
  simp only [states, List.length_append, List.length_reverse, List.length_cons]
  omega

theorem states_first (t : Timeline) (s : Shape) :
    (t.record s).states[0]? = t.states[0]? := by
  rw [states_record, List.getElem?_append_left, List.getElem?_take_of_lt (Nat.succ_pos _)]
  rw [List.length_take, states_length]
  omega

theorem past_back (t : Timeline) : t.back.past.length = t.past.length - 1 := by
  unfold back
  cases past : t.past with
  | nil => simp [past]
  | cons s past => rfl

theorem future_forth (t : Timeline) : t.forth.future.length = t.future.length - 1 := by
  unfold forth
  cases future : t.future with
  | nil => simp [future]
  | cons s future => rfl

theorem states_present (t : Timeline) : t.states[t.past.length]? = some t.present := by
  simp [states]

end Timeline

namespace Editor

/-- What can be asked of an editor. -/
inductive Request where
  | edit (command : Command)
  | undo
  | redo
  deriving DecidableEq, Repr

/-- The editor after a request. -/
def handle (c : Catalog) (e : Editor) : Request → Editor
  | .edit command => (e.edit c command).editor
  | .undo => (e.undo c).editor
  | .redo => (e.redo c).editor

/-- The editor of a flow after some requests. -/
def after (c : Catalog) (f : Flow) (requests : List Request) : Editor :=
  requests.foldl (handle c) (ofFlow f)

theorem after_append (c : Catalog) (f : Flow) (requests : List Request) (request : Request) :
    after c f (requests ++ [request]) = handle c (after c f requests) request := by
  simp [after]

/-- A request does nothing to a flow but use up an id and apply changes. -/
theorem handle_flow (c : Catalog) (e : Editor) (request : Request) :
    ∃ f changes, (f = e.flow ∨ f = e.flow.reserveId) ∧
      (handle c e request).flow = (applyAll c f changes).flow := by
  cases request with
  | edit command => exact (edit_does command).flow
  | undo =>
    rw [handle, undo]
    split
    · exact ⟨e.flow, [], Or.inl rfl, rfl⟩
    · rename_i edit rest _
      refine ⟨e.flow, edit.inverse, Or.inl rfl, ?_⟩
      dsimp only
      split <;> rfl
  | redo =>
    rw [handle, redo]
    split
    · exact ⟨e.flow, [], Or.inl rfl, rfl⟩
    · rename_i edit rest _
      refine ⟨e.flow, edit.forward, Or.inl rfl, ?_⟩
      dsimp only
      split <;> rfl

/-- No request renames a flow. -/
theorem handle_name (c : Catalog) (e : Editor) (request : Request) :
    (handle c e request).flow.name = e.flow.name := by
  obtain ⟨f, changes, first, after⟩ := handle_flow c e request
  rw [after, applyAll_name]
  rcases first with rfl | rfl <;> rfl

/-- The edits of an undo stack lead to a structure from those before it. -/
def Past (c : Catalog) : Shape → List Edit → List Shape → Prop
  | _, [], [] => True
  | s, edit :: edits, t :: past => edit.Links c t s ∧ Past c t edits past
  | _, _, _ => False

/-- The edits of a redo stack lead from a structure to those after it. -/
def Future (c : Catalog) : Shape → List Edit → List Shape → Prop
  | _, [], [] => True
  | s, edit :: edits, t :: future => edit.Links c s t ∧ Future c t edits future
  | _, _, _ => False

/-- An editor stands where a timeline stands, and its stacks link the structures of the timeline. -/
structure Stands (c : Catalog) (e : Editor) (t : Timeline) : Prop where
  editable : e.flow.Editable c
  present : e.flow.shape = t.present
  past : Past c t.present e.undoable t.past
  future : Future c t.present e.redoable t.future
  startable : ∀ s ∈ t.states, s.Startable

/-- The timeline after a request. -/
def moveAlong (c : Catalog) (e : Editor) (t : Timeline) : Request → Timeline
  | .edit command =>
    let d := e.edit c command
    if d.outcome.took then t.record d.editor.flow.shape else t
  | .undo => t.back
  | .redo => t.forth

section
variable {c : Catalog} {e : Editor} {t : Timeline}

theorem past_length {s : Shape} {edits : List Edit} {past : List Shape} (h : Past c s edits past) :
    edits.length = past.length := by
  induction edits generalizing s past with
  | nil => cases past with
    | nil => rfl
    | cons => exact h.elim
  | cons edit edits ih => cases past with
    | nil => exact h.elim
    | cons s past => simp [ih h.2]

theorem future_length {s : Shape} {edits : List Edit} {future : List Shape}
    (h : Future c s edits future) : edits.length = future.length := by
  induction edits generalizing s future with
  | nil => cases future with
    | nil => rfl
    | cons => exact h.elim
  | cons edit edits ih => cases future with
    | nil => exact h.elim
    | cons s future => simp [ih h.2]

/-- Undo takes an editor back to the structure before, unless there is none. -/
theorem stands_undo (h : Stands c e t) :
    Stands c (e.undo c).editor t.back ∧ (e.undo c).error = none ∧
    ((e.undo c).moved = true ↔ e.undoable ≠ []) ∧
    ((e.undo c).moved = false → (e.undo c).editor = e) := by
  obtain ⟨editable, present, past, future, startable⟩ := h
  have startable' : ∀ s ∈ t.back.states, s.Startable := by rwa [Timeline.states_back]
  cases stack : e.undoable with
  | nil =>
    rw [stack] at past
    cases before : t.past with
    | cons s rest => rw [before] at past; exact past.elim
    | nil =>
      have still : t.back = t := by simp only [Timeline.back, before]
      have same : e.undo c = ⟨e, false, none, []⟩ := by simp only [undo, stack]
      rw [same, still]
      exact ⟨⟨editable, present, stack ▸ before ▸ past, future, startable⟩, rfl, by simp,
        fun _ => rfl⟩
  | cons edit edits =>
    rw [stack] at past
    cases before : t.past with
    | nil => rw [before] at past; exact past.elim
    | cons s rest =>
      rw [before] at past
      have goes : t.back = ⟨rest, s, t.present :: t.future⟩ := by simp only [Timeline.back, before]
      obtain ⟨fine, shape⟩ := applyAll_leads (present ▸ past.1.inverse)
      have done : e.undo c = ⟨⟨(applyAll c e.flow edit.inverse).flow, false, edits,
          edit :: e.redoable⟩, true, none, (applyAll c e.flow edit.inverse).log⟩ := by
        simp only [undo, stack, fine]
      rw [goes] at startable'
      rw [done, goes]
      refine ⟨⟨applyAll_editable editable, shape, past.2, ⟨past.1, future⟩, startable'⟩, rfl,
        by simp, ?_⟩
      intro impossible
      cases impossible

/-- Redo takes an editor to the structure after, unless there is none. -/
theorem stands_redo (h : Stands c e t) :
    Stands c (e.redo c).editor t.forth ∧ (e.redo c).error = none ∧
    ((e.redo c).moved = true ↔ e.redoable ≠ []) ∧
    ((e.redo c).moved = false → (e.redo c).editor = e) := by
  obtain ⟨editable, present, past, future, startable⟩ := h
  have startable' : ∀ s ∈ t.forth.states, s.Startable := by rwa [Timeline.states_forth]
  cases stack : e.redoable with
  | nil =>
    rw [stack] at future
    cases ahead : t.future with
    | cons s rest => rw [ahead] at future; exact future.elim
    | nil =>
      have still : t.forth = t := by simp only [Timeline.forth, ahead]
      have same : e.redo c = ⟨e, false, none, []⟩ := by simp only [redo, stack]
      rw [same, still]
      exact ⟨⟨editable, present, past, stack ▸ ahead ▸ future, startable⟩, rfl, by simp,
        fun _ => rfl⟩
  | cons edit edits =>
    rw [stack] at future
    cases ahead : t.future with
    | nil => rw [ahead] at future; exact future.elim
    | cons s rest =>
      rw [ahead] at future
      have goes : t.forth = ⟨t.present :: t.past, s, rest⟩ := by simp only [Timeline.forth, ahead]
      obtain ⟨fine, shape⟩ := applyAll_leads (present ▸ future.1.forward)
      have done : e.redo c = ⟨⟨(applyAll c e.flow edit.forward).flow, false, edit :: e.undoable,
          edits⟩, true, none, (applyAll c e.flow edit.forward).log⟩ := by
        simp only [redo, stack, fine]
      rw [goes] at startable'
      rw [done, goes]
      refine ⟨⟨applyAll_editable editable, shape, ⟨future.1, past⟩, future.2, startable'⟩, rfl,
        by simp, ?_⟩
      intro impossible
      cases impossible

theorem Stands.startable_flow (h : Stands c e t) : e.flow.shape.Startable :=
  h.present ▸ h.startable t.present (by simp [Timeline.states])

theorem stands_edit (h : Stands c e t) (command : Command) :
    Stands c (e.edit c command).editor (moveAlong c e t (.edit command)) := by
  have does := edit_does (c := c) (e := e) command
  have editable := does.editable h.editable
  unfold moveAlong
  dsimp only
  cases took : (e.edit c command).outcome.took with
  | true =>
    obtain ⟨edit, undoable, redoable, links, startable⟩ :=
      does.took h.editable h.startable_flow took
    refine ⟨editable, rfl, ?_, ?_, ?_⟩
    · rw [undoable]
      exact ⟨h.present ▸ links, h.past⟩
    · rw [redoable]
      trivial
    · intro s hs
      rcases List.mem_append.mp (Timeline.states_record t _ ▸ hs) with old | new
      · exact h.startable s (List.mem_of_mem_take old)
      · exact List.mem_singleton.mp new ▸ startable
  | false =>
    obtain ⟨shape, undoable, redoable⟩ := does.idle h.editable h.startable_flow took
    exact ⟨editable, shape.trans h.present, undoable ▸ h.past, redoable ▸ h.future, h.startable⟩

theorem stands_next (h : Stands c e t) (request : Request) :
    Stands c (handle c e request) (moveAlong c e t request) := by
  cases request with
  | edit command => exact stands_edit h command
  | undo => exact (stands_undo h).1
  | redo => exact (stands_redo h).1

end

/-- The timeline of a flow after some requests. -/
def timeline (c : Catalog) (f : Flow) (requests : List Request) : Timeline :=
  (requests.foldl (fun p request => (handle c p.1 request, moveAlong c p.1 p.2 request))
    (ofFlow f, ⟨[], f.shape, []⟩)).2

theorem timeline_append (c : Catalog) (f : Flow) (requests : List Request) (request : Request) :
    timeline c f (requests ++ [request]) =
      moveAlong c (after c f requests) (timeline c f requests) request := by
  have editors : ∀ (e : Editor) (t : Timeline),
      (requests.foldl (fun p request => (handle c p.1 request, moveAlong c p.1 p.2 request))
        (e, t)).1 = requests.foldl (handle c) e := by
    induction requests with
    | nil => exact fun _ _ => rfl
    | cons request rest ih => exact fun e t => ih _ _
  simp only [timeline, List.foldl_append, List.foldl_cons, List.foldl_nil, editors, after]

theorem stands_after {c : Catalog} {f : Flow} (h : f.Editable c) (startable : f.shape.Startable)
    (requests : List Request) : Stands c (after c f requests) (timeline c f requests) := by
  induction requests using List.reverseRecOn with
  | nil => exact ⟨h, rfl, trivial, trivial, by simpa [timeline, Timeline.states] using startable⟩
  | append_singleton requests request ih =>
    rw [after_append, timeline_append]
    exact stands_next ih request

theorem timeline_first (c : Catalog) (f : Flow) (requests : List Request) :
    (timeline c f requests).states[0]? = some f.shape := by
  induction requests using List.reverseRecOn with
  | nil => rfl
  | append_singleton requests request ih =>
    rw [timeline_append]
    cases request with
    | edit command =>
      unfold moveAlong
      dsimp only
      split
      · rw [Timeline.states_first, ih]
      · exact ih
    | undo => exact (congrArg (·[0]?) (Timeline.states_back _)).trans ih
    | redo => exact (congrArg (·[0]?) (Timeline.states_forth _)).trans ih

/-- For every list of requests, `states` gives the structures S0 to Sm that an editor of `f` can be
at. The editor is at the place that the size of its undo stack says, and the redo stack is as large
as the number of places after it. -/
structure LinearHistory (c : Catalog) (f : Flow) (states : List Request → List Shape) : Prop where
  first : ∀ requests, (states requests)[0]? = some f.shape
  length : ∀ requests, let e := after c f requests
    (states requests).length = e.undoable.length + e.redoable.length + 1
  present : ∀ requests, let e := after c f requests
    (states requests)[e.undoable.length]? = some e.flow.shape
  undo : ∀ requests, let e := after c f requests
    states (requests ++ [.undo]) = states requests ∧ (e.undo c).error = none ∧
    ((e.undo c).moved = true ↔ 0 < e.undoable.length) ∧
    (e.undo c).editor.undoable.length = e.undoable.length - 1 ∧
    ((e.undo c).moved = false → (e.undo c).editor = e)
  redo : ∀ requests, let e := after c f requests
    states (requests ++ [.redo]) = states requests ∧ (e.redo c).error = none ∧
    ((e.redo c).moved = true ↔ 0 < e.redoable.length) ∧
    (e.redo c).editor.redoable.length = e.redoable.length - 1 ∧
    ((e.redo c).moved = false → (e.redo c).editor = e)
  took : ∀ requests command, let e := after c f requests; let d := e.edit c command
    d.outcome.took = true →
      states (requests ++ [.edit command]) =
        (states requests).take (e.undoable.length + 1) ++ [d.editor.flow.shape] ∧
      d.editor.undoable.length = e.undoable.length + 1
  idle : ∀ requests command, let e := after c f requests; let d := e.edit c command
    d.outcome.took = false →
      states (requests ++ [.edit command]) = states requests ∧
      d.editor.flow.shape = e.flow.shape ∧
      d.editor.undoable = e.undoable ∧ d.editor.redoable = e.redoable

theorem timeline_linear {c : Catalog} {f : Flow} (h : f.Editable c)
    (startable : f.shape.Startable) :
    LinearHistory c f fun requests => (timeline c f requests).states where
  first := timeline_first c f
  length requests := by
    have stands := stands_after h startable requests
    dsimp only
    rw [Timeline.states_length, past_length stands.past, future_length stands.future]
  present requests := by
    have stands := stands_after h startable requests
    dsimp only
    rw [past_length stands.past, stands.present]
    exact Timeline.states_present _
  undo requests := by
    have stands := stands_after h startable requests
    obtain ⟨stands', fine, moved, still⟩ := stands_undo stands
    refine ⟨?_, fine, by rw [moved, List.length_pos_iff], ?_, still⟩
    · rw [timeline_append]
      exact Timeline.states_back _
    · rw [past_length stands'.past, past_length stands.past]
      exact Timeline.past_back _
  redo requests := by
    have stands := stands_after h startable requests
    obtain ⟨stands', fine, moved, still⟩ := stands_redo stands
    refine ⟨?_, fine, by rw [moved, List.length_pos_iff], ?_, still⟩
    · rw [timeline_append]
      exact Timeline.states_forth _
    · rw [future_length stands'.future, future_length stands.future]
      exact Timeline.future_forth _
  took requests command took := by
    have stands := stands_after h startable requests
    obtain ⟨edit, undoable, -, -⟩ :=
      (edit_does command).took stands.editable stands.startable_flow took
    have moves : moveAlong c (after c f requests) (timeline c f requests) (.edit command) =
        (timeline c f requests).record ((after c f requests).edit c command).editor.flow.shape := by
      simp only [moveAlong, took, ↓reduceIte]
    refine ⟨?_, by rw [undoable, List.length_cons]⟩
    rw [timeline_append, moves, Timeline.states_record, past_length stands.past]
  idle requests command idle := by
    have stands := stands_after h startable requests
    have stays : moveAlong c (after c f requests) (timeline c f requests) (.edit command) =
        timeline c f requests := by
      simp only [moveAlong, idle, Bool.false_eq_true, ↓reduceIte]
    refine ⟨?_, (edit_does command).idle stands.editable stands.startable_flow idle⟩
    rw [timeline_append, stays]

namespace LinearHistory
variable {c : Catalog} {f : Flow} {states : List Request → List Shape}

/-- Undoing some of the edits that can be undone goes back by as many places. -/
theorem undo_times (h : LinearHistory c f states) (requests : List Request) (n : Nat)
    (enough : n ≤ (after c f requests).undoable.length) :
    states (requests ++ List.replicate n .undo) = states requests ∧
    (after c f (requests ++ List.replicate n .undo)).undoable.length =
      (after c f requests).undoable.length - n := by
  induction n with
  | zero => simp
  | succ n ih =>
    obtain ⟨same, undoable⟩ := ih (by omega)
    obtain ⟨same', -, -, undoable', -⟩ := h.undo (requests ++ List.replicate n .undo)
    rw [List.replicate_succ', ← List.append_assoc, after_append]
    refine ⟨same'.trans same, ?_⟩
    simp only [handle]
    omega

/-- Redoing some of the edits that can be redone goes on by as many places. -/
theorem redo_times (h : LinearHistory c f states) (requests : List Request) (n : Nat)
    (enough : n ≤ (after c f requests).redoable.length) :
    states (requests ++ List.replicate n .redo) = states requests ∧
    (after c f (requests ++ List.replicate n .redo)).redoable.length =
      (after c f requests).redoable.length - n := by
  induction n with
  | zero => simp
  | succ n ih =>
    obtain ⟨same, redoable⟩ := ih (by omega)
    obtain ⟨same', -, -, redoable', -⟩ := h.redo (requests ++ List.replicate n .redo)
    rw [List.replicate_succ', ← List.append_assoc, after_append]
    refine ⟨same'.trans same, ?_⟩
    simp only [handle]
    omega

theorem undo_all (h : LinearHistory c f states) (requests : List Request) :
    let undone := requests ++ List.replicate (after c f requests).undoable.length .undo
    states undone = states requests ∧ (after c f undone).undoable = [] ∧
    (after c f undone).redoable.length =
      (after c f requests).undoable.length + (after c f requests).redoable.length ∧
    (after c f undone).flow.shape = f.shape := by
  intro undone
  obtain ⟨same, left⟩ := h.undo_times requests _ (Nat.le_refl _)
  have none : (after c f undone).undoable.length = 0 := left.trans (Nat.sub_self _)
  have before := h.length requests
  have size := h.length undone
  have present := h.present undone
  dsimp only at before size present
  rw [same, none, h.first] at present
  rw [same] at size
  exact ⟨same, List.length_eq_zero_iff.mp none, by omega, (Option.some.inj present).symm⟩

theorem redo_place (h : LinearHistory c f states) (requests : List Request) (n : Nat)
    (enough : n ≤ (after c f requests).redoable.length) :
    (states requests)[(after c f requests).undoable.length + n]? =
      some (after c f (requests ++ List.replicate n .redo)).flow.shape := by
  obtain ⟨same, redoable⟩ := h.redo_times requests n enough
  have before := h.length requests
  have size := h.length (requests ++ List.replicate n .redo)
  have present := h.present (requests ++ List.replicate n .redo)
  dsimp only at before size present
  rw [same] at size present
  rw [← present]
  congr 1
  omega

end LinearHistory

/-- A linear history that can be gone back and forth as a whole. After undoing everything, redoing
what was undone gives back the structure before, and redoing everything leads to the last one. -/
structure ExactHistory (c : Catalog) (f : Flow) (states : List Request → List Shape) : Prop
    extends LinearHistory c f states where
  undoAll : ∀ requests,
    let undone := requests ++ List.replicate (after c f requests).undoable.length .undo
    (after c f undone).undoable = [] ∧ (after c f undone).flow.shape = f.shape
  redoUndone : ∀ requests, let n := (after c f requests).undoable.length
    (after c f (requests ++ List.replicate n .undo ++ List.replicate n .redo)).flow.shape =
      (after c f requests).flow.shape
  redoAll : ∀ requests,
    let undone := requests ++ List.replicate (after c f requests).undoable.length .undo
    let redone := undone ++ List.replicate (after c f undone).redoable.length .redo
    (after c f redone).redoable = [] ∧
    (states requests).getLast? = some (after c f redone).flow.shape

/-- **Undo and redo form an exact linear history.** Whatever is asked of the editor of a flow, it is
at one place of a list of structures that begins with that of the flow. Undo and redo go back and
forth by one place; at the ends they do nothing and say so. An edit that is carried out drops what
lies ahead and adds its result, and any other leaves everything as it is. The start of the flow has
to be one of its nodes or an id that can be put into words, as undo may have to set it again. -/
theorem edits_form_linear_history (c : Catalog) (f : Flow) (h : f.Editable c)
    (startable : f.shape.Startable) : ∃ states, ExactHistory c f states := by
  have linear := timeline_linear h startable
  refine ⟨_, linear, ?_, ?_, ?_⟩
  · intro requests
    obtain ⟨-, none, -, first⟩ := linear.undo_all requests
    exact ⟨none, first⟩
  · intro requests
    obtain ⟨same, none, redoable, -⟩ := linear.undo_all requests
    have place := linear.redo_place _ (after c f requests).undoable.length
      (redoable ▸ Nat.le_add_right _ _)
    have present := linear.present requests
    dsimp only at same none present place ⊢
    rw [same, none, List.length_nil, Nat.zero_add, present] at place
    exact (Option.some.inj place).symm
  · intro requests undone redone
    obtain ⟨same, none, redoable, -⟩ := linear.undo_all requests
    have size := linear.length requests
    have place := linear.redo_place undone _ (Nat.le_refl _)
    obtain ⟨-, left⟩ := linear.redo_times undone _ (Nat.le_refl _)
    rw [Nat.sub_self] at left
    refine ⟨List.length_eq_zero_iff.mp left, ?_⟩
    dsimp only at same none redoable place size ⊢
    rw [same, none, List.length_nil, Nat.zero_add, redoable] at place
    rw [List.getLast?_eq_getElem?, size, Nat.add_sub_cancel, place]
    exact congrArg (fun n => some (after c f (undone ++ List.replicate n .redo)).flow.shape)
      redoable.symm

/-- A flow with a link to a node that is gone, and with more ids used up than it has nodes. -/
def danglingFlow : Flow where
  name := "greeting"
  nodes := [⟨3, .trigger, "start", [], [2]⟩,
    ⟨1, .addition, "sum", [.output 3 1, .output 2 0], [-1]⟩]
  start := 3
  counter := 4

theorem dangling_flow_history :
    danglingFlow.Editable .standard ∧ danglingFlow.shape.Startable ∧
      ∃ states, ExactHistory .standard danglingFlow states := by
  have registered : ∀ n ∈ danglingFlow.nodes, n.Registered .standard := by decide
  have editable : danglingFlow.Editable .standard :=
    ⟨by decide, by decide, fun n hn => (registered n hn).current⟩
  have startable : danglingFlow.shape.Startable := .inl (by decide)
  exact ⟨editable, startable, edits_form_linear_history _ _ editable startable⟩

/-- An editor with nothing to undo has the structure that its history began with. -/
theorem ExactHistory.undone {c : Catalog} {f : Flow} {states : List Request → List Shape}
    (h : ExactHistory c f states) {requests : List Request}
    (none : (after c f requests).undoable = []) : (after c f requests).flow.shape = f.shape := by
  have present := h.present requests
  dsimp only at present
  rw [none, List.length_nil, h.first] at present
  exact (Option.some.inj present).symm

/-- The type for additions, registered anew. -/
def renewedAddition : NodeType := { NodeType.addition with label := "SumNode" }

/-- A flow with a node that is of another type than its key stands for by then. -/
def renewedFlow : Flow where
  name := "sums"
  nodes := [⟨1, .trigger, "start", [], [2]⟩, ⟨2, .addition, "sum", [.empty, .empty], [-1]⟩]
  start := 1
  counter := 2

/-- An empty flow with a start all the same. -/
def strayFlow (start : Int) : Flow := ⟨"stray", [], start, 0⟩

/-- A start that cannot be put into words is not set again: undo breaks off. -/
theorem undo_stray {start : Int} (long : ¬Brief start) :
    let e := after .standard (strayFlow start)
      [.edit (.replaceStart "TriggerNode" "start"), .undo]
    e.undoable = [] ∧ e.flow.start = 1 := by
  intro e
  let edited :=
    ((ofFlow (strayFlow start)).edit .standard (.replaceStart "TriggerNode" "start")).editor
  have stack : edited.undoable = [⟨"set start node TriggerNode 'start'",
      [.addNode (Node.fresh .trigger 1 "start"), .setStart 1],
      [.setStart start, .removeNode 1]⟩] := rfl
  have absent : edited.flow.node? start = none := by
    refine Flow.node?_eq_none.mpr fun n hn same => ?_
    have first : start = 1 := same ▸ congrArg Node.id (List.mem_singleton.mp hn)
    exact long (first ▸ brief_of_natAbs_le (by decide))
  have broke : (Change.setStart start).apply .standard edited.flow =
      .error (.wording .tooManyDigits) := by
    simp [Change.apply, Flow.setStartLog, Flow.has, absent, Text.ofInt_long long, Except.map]
  have undone : e = { edited with undoable := [] } := by
    change (edited.undo .standard).editor = _
    simp only [undo, stack, applyAll, broke]
  rw [undone]
  exact ⟨rfl, rfl⟩

theorem not_exact_stray {start : Int} (long : ¬Brief start) :
    ¬∃ states, ExactHistory .standard (strayFlow start) states := by
  rintro ⟨states, history⟩
  obtain ⟨none, started⟩ := undo_stray long
  have first : 1 = start := started.symm.trans (congrArg Shape.start (history.undone none))
  exact long (first ▸ brief_of_natAbs_le (by decide))

/-- A node that is taken out and put back gets the type that its key stands for by then, and a start
that belongs to no node and cannot be put into words is lost. -/
theorem histories_break :
    (renewedFlow.WellFormed ∧ renewedFlow.Bounded ∧
      ¬∃ states, ExactHistory (Catalog.standard.add renewedAddition) renewedFlow states) ∧
    let f := strayFlow (10 ^ Text.digitLimit)
    f.WellFormed ∧ f.Bounded ∧ ¬∃ states, ExactHistory .standard f states := by
  refine ⟨⟨⟨by decide, ?_⟩, by decide, ?_⟩, ⟨List.nodup_nil, nofun⟩, nofun, ?_⟩
  · simp only [renewedFlow, List.forall_mem_cons]
    exact ⟨⟨rfl, rfl⟩, ⟨rfl, rfl⟩, by simp⟩
  · rintro ⟨states, history⟩
    have none : (after (Catalog.standard.add renewedAddition) renewedFlow
        [.edit (.removeNode "sum"), .undo]).undoable = [] := by decide
    have same := congrArg (fun s => s.node? 2) (history.undone none)
    revert same
    decide
  · exact not_exact_stray not_brief_limit

end Editor

end EventFlow
