import EventFlow.Proofs.Document.Loading
import EventFlow.Proofs.Edit.Mute
import EventFlow.Proofs.Edit.Upkeep
import EventFlow.Proofs.Flow.Saying

/-!
Editors of which no request breaks off, except for what a command asks for.

* `Node.Known`: a node under a natural id, of a type that the catalog has, that can be said;
  `known_kept`: requests keep all nodes known;
* `Ready`: what an editor needs; `Ready.handle`: every request leaves it so;
* `ready_create`, `ready_settled`: new flows and loaded ones have it;
* `Ready.undo`, `Ready.redo`, `Ready.edit`: so undo and redo never break off, and a command only for
  a type that is unknown or is no event, and for lack of words;
* `Ready.copied`, `Ready.document`, `Ready.written`: a run can start, and a document can be made.
-/

namespace EventFlow

/-- The types of a catalog have no more outputs than an index can name. -/
def Catalog.Compact (c : Catalog) : Prop :=
  ∀ type ∈ c, Brief type.layout.outputs.length

theorem Catalog.compact_standard : Catalog.standard.Compact := by
  have few : ∀ type ∈ Catalog.standard, type.layout.outputs.length ≤ 8 := by decide
  intro type member
  have small := few type member
  exact brief_of_natAbs_le (by omega)

/-- A node under a natural id, of a type that the catalog has, that can be said but for ids. -/
structure Node.Known (c : Catalog) (n : Node) : Prop where
  natural : 0 ≤ n.id
  registered : n.Registered c
  sayable : n.Sayable

structure Flow.Known (c : Catalog) (f : Flow) : Prop where
  counter : 0 ≤ f.counter
  nodes : ∀ n ∈ f.nodes, n.Known c

/-- A change to nodes that are known and can be said. -/
def Change.Known (c : Catalog) (change : Change) : Prop :=
  change.Meets (Node.Known c) Reference.Sayable Brief

structure Edit.Known (c : Catalog) (edit : Edit) : Prop where
  forward : ∀ change ∈ edit.forward, change.Known c
  inverse : ∀ change ∈ edit.inverse, change.Known c

section Known

variable {c : Catalog} {f : Flow} {edit : Edit}

theorem Node.sayable_fresh (type : NodeType) (id : Int) (name : String) :
    (Node.fresh type id name).Sayable where
  inputs source member := by
    obtain ⟨-, -, rfl⟩ := List.mem_map.mp member
    rfl
  next id member := by
    obtain ⟨-, -, rfl⟩ := List.mem_map.mp member
    exact brief_of_natAbs_le (by decide)

theorem Node.known_lasting (c : Catalog) :
    Node.Lasting c (Node.Known c) Reference.Sayable EventFlow.Brief where
  copied n m known copied := by
    rw [Catalog.copy_registered known.registered] at copied
    exact Except.ok.inj copied ▸ known
  renamed _ _ known := ⟨known.natural, known.registered, known.sayable.inputs, known.sayable.next⟩
  inputSet n index source known sayable := by
    refine ⟨known.natural, known.registered, fun other member => ?_, known.sayable.next⟩
    rcases List.mem_or_eq_of_mem_set member with member | rfl
    · exact known.sayable.inputs other member
    · exact sayable
  nextSet n index next known brief := by
    refine ⟨known.natural, known.registered, known.sayable.inputs, fun other member => ?_⟩
    rcases List.mem_or_eq_of_mem_set member with member | rfl
    · exact known.sayable.next other member
    · exact brief

theorem applyAll_known {changes : List Change} (h : f.Known c)
    (known : ∀ change ∈ changes, change.Known c) : (applyAll c f changes).flow.Known c where
  counter := Int.le_trans h.counter (applyAll_counter c f changes)
  nodes := applyAll_keeps (P := fun g => ∀ n ∈ g.nodes, n.Known c) h.nodes
    fun change member _ _ h applied =>
      Change.apply_lasting (Node.known_lasting c) h (known change member) applied

/-- What the nodes of a flow offer can be said. -/
theorem Flow.Known.sayable_of_offers (h : f.Known c) (compact : c.Compact) {source : Reference}
    (offered : f.Offers source) (worded : source.isWorded = true) : source.Sayable := by
  cases source with
  | constant value => exact worded
  | output id index =>
    obtain ⟨m, present, -, lower, upper⟩ := offered
    have few := compact m.type (List.mem_of_find?_eq_some (h.nodes m present).registered)
    rw [brief_iff] at few
    have below : index.natAbs < m.type.layout.outputs.length := by
      rw [Node.outputCount] at upper
      omega
    exact brief_iff.mpr (Nat.lt_trans below few)

namespace Editor

theorem inheritNext_sayable {new old node : Node} (inherits : inheritNext new old = .ok node)
    (first : new.Sayable) (before : old.Sayable) : node.Sayable := by
  unfold inheritNext at inherits
  dsimp only at inherits
  split at inherits
  · cases inherits
  · cases inherits
    refine ⟨first.inputs, fun id member => ?_⟩
    rcases List.mem_append.mp member with taken | own
    · exact before.next id (List.mem_of_mem_take taken)
    · exact first.next id (List.mem_of_mem_drop own)

theorem Alters.known (alters : Alters c f edit) (h : f.Known c) (compact : c.Compact) :
    edit.Known c := by
  cases alters with
  | removed present other copied =>
    have snapshot := (Node.known_lasting c).copied _ _ (h.nodes _ present) copied
    constructor
    · simp [Change.Known, Change.Meets]
    · simpa [Change.Known, Change.Meets] using snapshot
  | renamed => constructor <;> simp [Change.Known, Change.Meets]
  | inputSet present slot offered worded =>
    have before := (h.nodes _ present).sayable.inputs _ (List.mem_of_getElem? slot)
    have after := h.sayable_of_offers compact offered worded
    constructor
    · simpa [Change.Known, Change.Meets] using after
    · simpa [Change.Known, Change.Meets] using before
  | nextSet present slot known brief =>
    have before := (h.nodes _ present).sayable.next _ (List.mem_of_getElem? slot)
    constructor
    · simpa [Change.Known, Change.Meets] using brief
    · simpa [Change.Known, Change.Meets] using before

theorem Adds.known (adds : Adds c f edit) (h : f.Known c) : edit.Known c := by
  have fresh {type : NodeType} (found : c.find? type.key = some type) (name : String) :
      (Node.fresh type (f.counter + 1) name).Known c :=
    ⟨Int.le_add_one h.counter, found, Node.sayable_fresh type _ name⟩
  cases adds with
  | created found free => constructor <;> simp [Change.Known, Change.Meets, fresh found]
  | started found missing => constructor <;> simp [Change.Known, Change.Meets, fresh found]
  | restarted found event starts free inherits copied =>
    obtain ⟨newId, newType, -⟩ := inheritNext_keeps inherits
    have old := h.nodes _ (Flow.mem_of_node? starts).1
    have new : Node.Known c _ := ⟨newId ▸ (fresh found _).natural, by
      unfold Node.Registered
      rw [newType]
      exact found, inheritNext_sayable inherits (fresh found _).sayable old.sayable⟩
    have snapshot := (Node.known_lasting c).copied _ _ old copied
    constructor
    · simpa [Change.Known, Change.Meets] using new
    · simpa [Change.Known, Change.Meets] using snapshot

theorem known_kept (compact : c.Compact) : Kept c (Flow.Known c) (Edit.Known c) where
  reserve _ h := ⟨Int.le_add_one h.counter, h.nodes⟩
  alters _ _ h alters := alters.known h compact
  adds _ _ h adds := adds.known h
  forward _ _ h edit := applyAll_known h edit.forward
  inverse _ _ h edit := applyAll_known h edit.inverse

end Editor

end Known

namespace Editor

/-- An editor whose stacks lead back and forth, with whole and known nodes only. -/
structure Ready (c : Catalog) (e : Editor) : Prop where
  stands : ∃ t, Stands c e t
  whole : e.Whole c
  known : e.Holds (Flow.Known c) (Edit.Known c)

section Ready

variable {c : Catalog} {e : Editor}

theorem Ready.handle (h : e.Ready c) (compact : c.Compact) (request : Request) :
    (e.handle c request).Ready c := by
  obtain ⟨t, stands⟩ := h.stands
  exact ⟨⟨_, stands_next stands request⟩, (whole_kept c).handle h.whole request,
    (known_kept compact).handle h.known request⟩

theorem Ready.handles (h : e.Ready c) (compact : c.Compact) (requests : List Request) :
    (requests.foldl (Editor.handle c) e).Ready c := by
  induction requests generalizing e with
  | nil => exact h
  | cons request rest ih => exact ih (h.handle compact request)

/-- It makes no difference whether the flow runs on events. -/
theorem Ready.switch (h : e.Ready c) (value : Bool) : Ready c { e with enabled := value } := by
  obtain ⟨t, stands⟩ := h.stands
  exact ⟨⟨t, stands.editable, stands.present, stands.past, stands.future, stands.startable⟩,
    ⟨h.whole.flow, h.whole.undoable, h.whole.redoable⟩,
    ⟨h.known.flow, h.known.undoable, h.known.redoable⟩⟩

/-- An editor with nothing to undo yet. -/
theorem ready_ofFlow {f : Flow} (distinct : f.Distinct) (bounded : f.Bounded)
    (fits : ∀ n ∈ f.nodes, n.Fits) (known : f.Known c) (startable : f.shape.Startable) :
    (ofFlow f).Ready c := by
  have current (n : Node) (hn : n ∈ f.nodes) : n.Current c := (known.nodes n hn).registered.current
  have only : ∀ s ∈ (⟨[], f.shape, []⟩ : Timeline).states, s.Startable := by
    simpa [Timeline.states] using startable
  exact ⟨⟨⟨[], f.shape, []⟩, ⟨distinct, bounded, current⟩, rfl, trivial, trivial, only⟩,
    whole_ofFlow ⟨distinct, fun n hn => ⟨fits n hn, current n hn⟩⟩, holds_ofFlow known⟩

theorem ready_create {name type startName : String}
    (created : create c name type startName = .ok e) : e.Ready c := by
  obtain ⟨nodeType, found, rfl⟩ := Except.exists_of_map_eq_ok created
  obtain ⟨found, -⟩ := find?_of_eventType found
  have only {P : Node → Prop} (first : P (Node.fresh nodeType 1 startName)) :
      ∀ n ∈ (startFlow name nodeType startName).nodes, P n := by
    intro n hn
    rw [List.mem_singleton.mp hn]
    exact first
  have known : (Node.fresh nodeType 1 startName).Known c :=
    ⟨Int.le_of_lt Int.one_pos, found, Node.sayable_fresh nodeType 1 startName⟩
  exact ready_ofFlow (List.nodup_singleton _) (only (Int.le_refl _)) (only (Node.fits_fresh ..))
    ⟨Int.le_of_lt Int.one_pos, only known⟩ (.inl rfl)

/-- What a document holds can be said. -/
theorem sayable_settled {n : Node} (settled : n.Settled c) : n.Sayable where
  inputs source member := by
    have same : source.stored = source := by
      have all : n.inputs.map Reference.stored = n.inputs := congrArg Node.inputs settled.stored
      exact List.map_inj_left.mp (all.trans (List.map_id _).symm) source member
    have brief := settled.brief.inputs source member
    cases source with
    | constant value => exact Reference.Settled.worded ⟨brief, same⟩
    | output id index => exact brief.2
  next := settled.brief.next

theorem ready_settled {f : Flow} (settled : f.Settled c) (start : Brief f.start) :
    (ofFlow f).Ready c := by
  have natural (n : Node) (hn : n ∈ f.nodes) : 0 ≤ n.id := (settled.nodes n hn).writable.id
  have counter : 0 ≤ f.counter := by
    obtain ⟨-, zero⟩ | ⟨n, hn, top, -⟩ := settled.counted
    · exact Int.le_of_eq zero.symm
    · exact top ▸ natural n hn
  have bounded : f.Bounded := by
    intro n hn
    obtain ⟨none', -⟩ | ⟨-, -, -, most⟩ := settled.counted
    · rw [none'] at hn
      cases hn
    · exact most n hn
  have known (n : Node) (hn : n ∈ f.nodes) : n.Known c :=
    ⟨natural n hn, (settled.nodes n hn).registered, sayable_settled (settled.nodes n hn)⟩
  exact ready_ofFlow settled.distinct bounded (fun n hn => (settled.nodes n hn).fits)
    ⟨counter, known⟩ (.inr start)

end Ready

section Fine

variable {c : Catalog} {e : Editor}

theorem Ready.undo (h : e.Ready c) : (e.undo c).error = none := by
  obtain ⟨t, stands⟩ := h.stands
  exact (stands_undo stands).2.1

theorem Ready.redo (h : e.Ready c) : (e.redo c).error = none := by
  obtain ⟨t, stands⟩ := h.stands
  exact (stands_redo stands).2.1

theorem Ready.copied (h : e.Ready c) : e.flow.copy c = .ok e.flow :=
  Flow.copy_registered fun n hn => (h.known.flow.nodes n hn).registered

/-- The nodes of a flow under edit can be a part of its document. -/
theorem Ready.writable (h : e.Ready c) (keyed : ∀ type ∈ c, type.key ≠ "" ∧
    ∀ ch ∈ type.key.toList, Text.halfPair? ch = none) {n : Node} (present : n ∈ e.flow.nodes) :
    n.Writable := by
  have known := h.known.flow.nodes n present
  obtain ⟨nonempty, whole⟩ := keyed n.type (List.mem_of_find?_eq_some known.registered)
  exact ⟨known.natural, nonempty, whole,
    fun source member => (known.sayable.inputs source member).isWorded⟩

theorem Ready.document (h : e.Ready c) (keyed : ∀ type ∈ c, type.key ≠ "" ∧
    ∀ ch ∈ type.key.toList, Text.halfPair? ch = none) :
    e.flow.document = .ok (Document.flowJson e.flow) :=
  Flow.document_ok h.whole.flow.distinct fun _ present => h.writable keyed present

theorem Ready.written (h : e.Ready c) (keyed : ∀ type ∈ c, type.key ≠ "" ∧
    ∀ ch ∈ type.key.toList, Text.halfPair? ch = none) :
    e.flow.write = .ok (Json.pretty 0 (Document.flowJson e.flow)) :=
  Flow.write_ok h.whole.flow.distinct fun _ present => h.writable keyed present

/-- A flow under edit is described if the ids that the description shows can be said. -/
theorem Ready.exists_describe (h : e.Ready c) :
    (∃ text, e.flow.describe = .ok text) ↔ ∀ n ∈ e.flow.nodes, n.Placed e.flow :=
  Flow.exists_describe h.whole.flow.distinct fun n hn => (h.known.flow.nodes n hn).sayable

/-- The failures that a command may be answered with: a type that is unknown, or one for a start
that is no event, or a lack of words. -/
def Excused (f : Flow) : Command → EditError → Prop
  | .createNode .., .unknownType _ => True
  | .replaceStart .., .unknownType _ => True
  | .replaceStart .., .notEvent _ => True
  | command, .wording _ => command.Mute f
  | _, _ => False

/-- Every command is carried out, refused, or breaks off for an excused failure. -/
theorem Ready.edit (h : e.Ready c) {command : Command} {error : EditError}
    (failed : (e.edit c command).outcome = .failed error) : Excused e.flow command error := by
  have formed := h.whole.flow.wellFormed
  have blames := blames_of_failed formed failed
  cases error with
  | wording error =>
    have mute := (edit_mute_iff formed c command).mp ⟨error, failed⟩
    cases command <;> exact mute
  | unknownType error =>
    cases command with
    | createNode | replaceStart => trivial
    | removeNode name =>
      -- The node to be removed has a type that the catalog holds.
      obtain ⟨missing, n, present, same⟩ := blames
      have held := has_of_find? (h.known.flow.nodes n present).registered
      rw [same, missing] at held
      cases held
    | _ => exact blames
  | notEvent key =>
    cases command with
    | replaceStart => trivial
    | _ => exact blames
  | noSlotToRead | noSlotToSet => cases command <;> exact blames

end Fine

end Editor

end EventFlow
