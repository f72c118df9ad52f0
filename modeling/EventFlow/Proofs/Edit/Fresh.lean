import EventFlow.Proofs.Document.RoundTrip
import EventFlow.Proofs.Edit.Regular
import Mathlib.Data.Fintype.EquivFin

/-!
Ids of new nodes and links that were left behind. Taking out a node leaves the links to it where
they are, so its id must not be given to another node.

* `RegularHistory.neverCaptures`: editing alone never gives an id to which something leads;
* `captured_later`: an id to which something leads is given out once the counter has come to it;
* `saving_keeps_fresh`: storing and loading a flow keeps new ids apart from old links exactly if no
  link leads beyond the largest id in use, since the counter starts again from there.
-/

namespace EventFlow

namespace Flow

/-- A branch or an input of the flow leads to an id, be there a node of the id or not. -/
def LinksTo (f : Flow) (id : Int) : Prop :=
  ∃ n ∈ f.nodes, id ∈ n.next ∨ ∃ index, .output id index ∈ n.inputs

/-- No link leads beyond the largest id in use. -/
def Grounded (f : Flow) : Prop :=
  ∀ id, f.LinksTo id → ∃ n ∈ f.nodes, id ≤ n.id

section
variable {c : Catalog} {f : Flow}

theorem Regular.sound (h : f.Regular c) : f.Sound c :=
  ⟨h.distinct, fun n hn => (h.nodes n hn).fits, fun n hn => (h.nodes n hn).registered⟩

theorem Regular.links (h : f.Regular c) {id : Int} (link : f.LinksTo id) :
    id = -1 ∨ (1 ≤ id ∧ id ≤ f.counter) := by
  obtain ⟨n, hn, next | ⟨index, input⟩⟩ := link
  · exact (h.nodes n hn).next id next
  · exact Or.inr ((h.nodes n hn).inputs id index input).1

theorem Regular.stored (h : f.Regular c) : StoredAs f f.reloaded :=
  storedAs_reloaded h.distinct fun n hn => Int.le_trans (by decide) (h.nodes n hn).id.1

/-- The counter of a flow that was stored and loaded is the largest id. -/
theorem Regular.counter_reloaded (h : f.Regular c) :
    (∃ n ∈ f.nodes, n.id = f.reloaded.counter) ∧ ∀ n ∈ f.nodes, n.id ≤ f.reloaded.counter := by
  rcases h.stored.counter with ⟨none', -⟩ | ⟨n, hn, largest, most⟩
  · obtain ⟨n, found, -⟩ := h.start
    have hn := (mem_of_node? found).1
    rw [none'] at hn
    cases hn
  · exact ⟨⟨n, hn, largest⟩, most⟩

theorem distinct_reloaded (f : Flow) : f.reloaded.Distinct := by
  have ids : f.reloaded.nodes.map Node.id = f.ordered.map Node.id := by
    unfold reloaded
    rw [List.map_map]
    rfl
  unfold Distinct
  rw [ids]
  exact (ordered_lists f).nodup

theorem linksTo_reloaded (distinct : f.Distinct) {id : Int} (natural : 0 ≤ id)
    (link : f.LinksTo id) : f.reloaded.LinksTo id := by
  obtain ⟨n, hn, link⟩ := link
  refine ⟨n.stored, List.mem_map_of_mem ((mem_ordered distinct).mpr hn), ?_⟩
  rcases link with next | ⟨index, input⟩
  · exact Or.inl (List.mem_map.mpr ⟨id, next, if_pos natural⟩)
  · exact Or.inr ⟨index, List.mem_map_of_mem input⟩

/-- A new node leaves all links in place. -/
theorem linksTo_addNode {node : Node} {id : Int} (link : f.LinksTo id)
    (new : node.id ∉ f.nodes.map Node.id) : (f.addNode node).LinksTo id := by
  obtain ⟨n, hn, link⟩ := link
  have nodes : (f.addNode node).nodes = f.nodes ++ [node] := Document.insert_new new
  exact ⟨n, nodes ▸ List.mem_append_left _ hn, link⟩

theorem output_of_stored {source : Reference} {id index : Int}
    (same : source.stored = .output id index) : source = .output id index := by
  cases source with
  | constant value => cases same
  | output _ _ => exact same

/-- Storing and loading keeps a flow regular if all its links stay below the new counter. -/
theorem regular_reloaded (h : f.Regular c) (grounded : f.Grounded) : f.reloaded.Regular c := by
  obtain ⟨-, most⟩ := h.counter_reloaded
  have below {id : Int} (link : f.LinksTo id) : id ≤ f.reloaded.counter := by
    obtain ⟨n, hn, le⟩ := grounded id link
    exact Int.le_trans le (most n hn)
  have back {id : Int} {m : Node} (found : f.reloaded.node? id = some m) :
      ∃ n, f.node? id = some n ∧ n.stored = m := by
    rwa [node?_reloaded h.distinct, Option.map_eq_some_iff] at found
  refine regular_of_shape (distinct_reloaded f) ⟨?_, ?_, ?_, ?_⟩
  · obtain ⟨n, found, event⟩ := h.start
    refine ⟨n.stored, ?_, event⟩
    exact (node?_reloaded h.distinct f.start).trans (congrArg _ found)
  · intro i j m k first second same
    obtain ⟨m, hi, rfl⟩ := back first
    obtain ⟨k, hj, rfl⟩ := back second
    exact h.shape.names i j m k hi hj same
  · intro id m found
    exact (mem_of_node? found).2
  · intro id m found
    obtain ⟨n, present, rfl⟩ := back found
    obtain ⟨hn, rfl⟩ := mem_of_node? present
    have regular := h.nodes n hn
    refine ⟨regular.registered, ⟨?_, ?_⟩, ⟨regular.id.1, most n hn⟩, ?_, ?_⟩
    · exact (List.length_map _).trans regular.fits.inputs
    · exact (List.length_map _).trans regular.fits.next
    · intro next hnext
      obtain ⟨id, leads, rfl⟩ := List.mem_map.mp hnext
      rcases regular.next id leads with rfl | ⟨lower, -⟩
      · exact Or.inl rfl
      · rw [if_pos (by omega)]
        exact Or.inr ⟨lower, below ⟨n, hn, Or.inl leads⟩⟩
    · intro id index reads
      obtain ⟨source, input, same⟩ := List.mem_map.mp reads
      cases output_of_stored same
      obtain ⟨⟨lower, -⟩, slots⟩ := regular.inputs id index input
      refine ⟨⟨lower, below ⟨n, hn, Or.inr ⟨index, input⟩⟩⟩, ?_⟩
      intro m target
      obtain ⟨k, present, rfl⟩ := back target
      exact slots k present

end

end Flow

namespace Editor

/-- No node that is created, now or after more requests, gets an id to which something leads. -/
def NeverCaptures (c : Catalog) (e : Editor) : Prop :=
  ∀ (requests : List Request) (type name : String) (id : Int),
    let later := requests.foldl (handle c) e
    (later.edit c (.createNode type name)).outcome = .created id → ¬later.flow.LinksTo id

section
variable {c : Catalog} {e : Editor}

theorem created_id {type name : String} {id : Int}
    (created : (e.createNode c type name).outcome = .created id) : id = e.flow.counter + 1 := by
  unfold createNode at created
  split at created
  · cases created
  · dsimp only at created
    split at created
    · cases created
    · unfold perform at created
      dsimp only at created
      split at created
      · cases created
      · exact (Outcome.created.inj created).symm

/-- Editing alone never gives an id to which something leads. -/
theorem RegularHistory.neverCaptures (h : RegularHistory c e) : NeverCaptures c e := by
  intro requests type name id later created link
  have regular : later.flow.Regular c := (regular_requests h requests).flow
  have next : id = later.flow.counter + 1 := created_id created
  have start := regular.shape.start_bounds
  have bounds := regular.links link
  omega

theorem createNode_ok {type : NodeType} {name : String} (found : c.find? type.key = some type)
    (free : e.flow.nodeNamed? name = none) :
    (e.createNode c type.key name).outcome = .created (e.flow.counter + 1) ∧
      (e.createNode c type.key name).editor.flow =
        e.flow.reserveId.addNode (Node.fresh type (e.flow.counter + 1) name) := by
  have registered : (Node.fresh type (e.flow.counter + 1) name).Registered c := found
  have made : c.make type.key (e.flow.counter + 1) name =
      .ok (Node.fresh type (e.flow.counter + 1) name) := by
    unfold Catalog.make
    rw [found]
  unfold createNode
  rw [free]
  simp only [Option.isSome_none, Bool.false_eq_true, ↓reduceIte, reserve, Flow.reserveId, made,
    perform, applyAll, Change.apply, Catalog.copy_registered registered, and_self]

theorem exists_free_name (f : Flow) : ∃ name, f.nodeNamed? name = none := by
  obtain ⟨name, new⟩ := Infinite.exists_notMem_finset (f.nodes.map Node.name).toFinset
  refine ⟨name, Flow.nodeNamed?_eq_none.mpr ?_⟩
  intro n hn same
  exact new (by simpa using ⟨n, hn, same⟩)

/-- An id beyond the counter to which something leads is given out once the counter has come to
it. -/
theorem captured_later {type : NodeType} {target : Int} (found : c.find? type.key = some type)
    (bounded : e.flow.Bounded) (link : e.flow.LinksTo target)
    (beyond : e.flow.counter < target) : ¬NeverCaptures c e := by
  -- the number of ids between the counter and the target goes down with every node
  obtain ⟨k, gap⟩ : ∃ k : Nat, target = e.flow.counter + 1 + k :=
    ⟨(target - e.flow.counter - 1).toNat, by omega⟩
  intro never
  induction k generalizing e with
  | zero =>
    obtain ⟨name, free⟩ := exists_free_name e.flow
    have created := (createNode_ok found free).1
    refine never [] type.key name _ created ?_
    have same : e.flow.counter + 1 = target := by omega
    exact same ▸ link
  | succ k ih =>
    obtain ⟨name, free⟩ := exists_free_name e.flow
    have flow := (createNode_ok found free).2
    have counter : (e.createNode c type.key name).editor.flow.counter = e.flow.counter + 1 := by
      rw [flow]
      exact Int.max_self _
    refine ih (e := (e.createNode c type.key name).editor) ?_ ?_ (by omega) (by omega) ?_
    · rw [flow]
      have reserved : e.flow.reserveId.Bounded :=
        fun n hn => Int.le_trans (bounded n hn) (Int.le_add_one (Int.le_refl _))
      exact Flow.bounded_addNode reserved _
    · rw [flow]
      refine Flow.linksTo_addNode link ?_
      intro taken
      obtain ⟨n, hn, same⟩ := List.mem_map.mp taken
      have upper : n.id ≤ e.flow.counter := bounded n hn
      have next : n.id = e.flow.counter + 1 := same
      omega
    · exact fun requests => never (.edit (.createNode type.key name) :: requests)

end

/-- What an editor can become from its creation on: by requests, and by storing and loading its flow
where the flow meets a condition. -/
inductive Reached (c : Catalog) (saved : Flow → Prop) : Editor → Prop
  | created {name type startName : String} {e : Editor}
      (created : create c name type startName = .ok e) : Reached c saved e
  | handled {e : Editor} (before : Reached c saved e) (request : Request) :
      Reached c saved (handle c e request)
  | reloaded {e : Editor} {g : Flow} (before : Reached c saved e) (allowed : saved e.flow)
      (reloads : e.flow.Reloads c g) : Reached c saved (ofFlow g)

theorem Reached.requests {c : Catalog} {saved : Flow → Prop} {e : Editor} (h : Reached c saved e)
    (requests : List Request) : Reached c saved (requests.foldl (handle c) e) := by
  induction requests generalizing e with
  | nil => exact h
  | cons request requests ih => exact ih (h.handled request)

section
variable {c : Catalog} {e : Editor}

/-- If only grounded flows are stored and loaded, every flow that is reached is regular. -/
theorem Reached.regular (h : Reached c Flow.Grounded e) : RegularHistory c e := by
  induction h with
  | created created => exact regular_create created
  | handled before request ih => exact regular_next ih request
  | reloaded before grounded reloads ih =>
    rw [reloads.eq ih.flow.sound]
    exact regularHistory_ofFlow (Flow.regular_reloaded ih.flow grounded)

/-- A link beyond the largest id is captured some time after storing and loading. -/
theorem captured_reloaded {f : Flow} (h : f.Regular c) (loose : ¬f.Grounded) :
    ¬NeverCaptures c (ofFlow f.reloaded) := by
  obtain ⟨target, link, above⟩ : ∃ target, f.LinksTo target ∧ ∀ n ∈ f.nodes, n.id < target := by
    simpa [Flow.Grounded] using loose
  obtain ⟨n, found, -⟩ := h.start
  obtain ⟨hn, -⟩ := Flow.mem_of_node? found
  obtain ⟨⟨top, htop, largest⟩, -⟩ := h.counter_reloaded
  have bounded : f.reloaded.Bounded := by
    intro m hm
    obtain ⟨k, hk, rfl⟩ := List.mem_map.mp hm
    exact h.counter_reloaded.2 k ((Flow.mem_ordered h.distinct).mp hk)
  have positive : 0 ≤ target := by
    have lower := (h.nodes n hn).id.1
    have upper := above n hn
    omega
  exact captured_later (h.nodes n hn).registered bounded
    (Flow.linksTo_reloaded h.distinct positive link) (largest ▸ above top htop)

end

/-- **New ids are kept apart from old links exactly as long as only grounded flows are stored and
loaded**: then a node that is created never gets an id to which something leads. Storing and loading
one more flow keeps it so if that flow is grounded, and otherwise some later node is captured. -/
theorem saving_keeps_fresh (c : Catalog) (e : Editor) (reached : Reached c Flow.Grounded e) :
    NeverCaptures c e ∧
      ∀ g, e.flow.Reloads c g → (NeverCaptures c (ofFlow g) ↔ e.flow.Grounded) := by
  have regular := reached.regular.flow
  refine ⟨reached.regular.neverCaptures, ?_⟩
  intro g reloads
  rw [reloads.eq regular.sound]
  constructor
  · intro never
    by_contra loose
    exact captured_reloaded regular loose never
  · intro grounded
    exact (regularHistory_ofFlow (Flow.regular_reloaded regular grounded)).neverCaptures

/-- A node to which the start leads is created and taken out again. -/
def leaving : List Request :=
  [.edit (.createNode "AdditionNode" "sum"), .edit (.setNext "start" 0 "sum"),
    .edit (.removeNode "sum")]

/-- What is left: the start still leads to the node. -/
def looseFlow : Flow where
  name := "greeting"
  nodes := [⟨1, .trigger, "start", [], [2]⟩]
  start := 1
  counter := 2

theorem created_greeting : create .standard "greeting" "TriggerNode" "start" =
    .ok (ofFlow (startFlow "greeting" .trigger "start")) :=
  rfl

theorem leaving_flow : (leaving.foldl (handle .standard)
    (ofFlow (startFlow "greeting" .trigger "start"))).flow = looseFlow := by
  decide +kernel

theorem saving_keeps_fresh_leaving :
    let left := leaving.foldl (handle .standard) (ofFlow (startFlow "greeting" .trigger "start"))
    Reached .standard Flow.Grounded left ∧ NeverCaptures .standard left ∧
      ∀ g, left.flow.Reloads .standard g →
        (NeverCaptures .standard (ofFlow g) ↔ left.flow.Grounded) := by
  intro left
  have reached : Reached .standard Flow.Grounded left :=
    (Reached.created created_greeting).requests leaving
  exact ⟨reached, saving_keeps_fresh .standard left reached⟩

/-- Storing a flow of one node gives it back, with that node's id as the counter. -/
theorem reloaded_looseFlow : looseFlow.reloaded = { looseFlow with counter := 1 } := by
  have ordered : looseFlow.ordered = looseFlow.nodes :=
    List.perm_singleton.mp (Flow.ordered_perm (by decide))
  unfold Flow.reloaded
  rw [ordered]
  rfl

theorem reloads_looseFlow : looseFlow.Reloads .standard { looseFlow with counter := 1 } := by
  have regular := (regular_requests (regular_create created_greeting) leaving).flow
  rw [leaving_flow] at regular
  have writable : ∀ n ∈ looseFlow.nodes, n.Writable := by
    simp only [looseFlow, List.forall_mem_cons]
    exact ⟨Flow.writable_of_nodeDocument rfl, by simp⟩
  have brief : looseFlow.Brief := by
    refine ⟨by decide +kernel, ?_⟩
    simp only [looseFlow, List.forall_mem_cons]
    refine ⟨⟨by decide +kernel, by simp, ?_⟩, by simp⟩
    simp only [List.forall_mem_cons]
    exact ⟨by decide +kernel, by simp⟩
  have encodable : looseFlow.Encodable := by
    refine ⟨Text.halfPair?_ascii rfl, ?_⟩
    simp only [looseFlow, List.forall_mem_cons]
    exact ⟨⟨Text.halfPair?_ascii rfl, Text.halfPair?_ascii rfl, by simp⟩, by simp⟩
  obtain ⟨text, g, dumped, loaded⟩ :=
    (Flow.readable_iff regular.sound "1").mpr ⟨writable, encodable, brief⟩
  have reloads : looseFlow.Reloads .standard g :=
    ⟨"1", text, (Flow.dump_eq_ok_iff.mp dumped).1, loaded⟩
  rwa [reloads.eq regular.sound, reloaded_looseFlow] at reloads

/-- The id of the node that was taken out goes to another one once the flow was stored and loaded,
and the start leads to that. -/
theorem reload_captures :
    let left := leaving.foldl (handle .standard) (ofFlow (startFlow "greeting" .trigger "start"))
    create .standard "greeting" "TriggerNode" "start" =
        .ok (ofFlow (startFlow "greeting" .trigger "start")) ∧
      ∃ g, left.flow.Reloads .standard g ∧ Reached .standard (fun _ => True) (ofFlow g) ∧
        g.LinksTo 2 ∧
        ((ofFlow g).edit .standard (.createNode "DummyNode" "other")).outcome = .created 2 := by
  intro left
  have reloads : left.flow.Reloads .standard { looseFlow with counter := 1 } := by
    rw [leaving_flow]
    exact reloads_looseFlow
  have reached : Reached .standard (fun _ => True) left :=
    (Reached.created created_greeting).requests leaving
  refine ⟨created_greeting, _, reloads, reached.reloaded trivial reloads, ?_, by decide⟩
  exact ⟨_, List.mem_cons_self, Or.inl (by decide)⟩

end Editor

end EventFlow
