import EventFlow.Document.Reading
import EventFlow.Document.Writing
import EventFlow.Proofs.Flow.Listing
import EventFlow.Proofs.Schema.Field

/-!
What the entries of a written document give when they are checked and made into nodes again.

* `check_flowJson`: a written document passes the check, and each node has its entry in it;
* `addNodes_entries`: the entries become the nodes as they are stored, in the order of the document.
-/

namespace EventFlow

/-- A source as storing and loading leave it: the text of a constant decides what it is. -/
def Reference.stored : Reference → Reference
  | constant value => constant (Value.autoCast value.wire)
  | output id index => output id index

/-- A node as storing and loading leave it. -/
def Node.stored (n : Node) : Node :=
  { n with
    inputs := n.inputs.map Reference.stored
    next := n.next.map fun id => if 0 ≤ id then id else -1 }

/-- A node that a document can hold: neither its id is negative nor its type key empty, the key has
no half pair in it, and the constants can be put into words. -/
structure Node.Writable (n : Node) : Prop where
  id : 0 ≤ n.id
  key : n.type.key ≠ ""
  whole : ∀ c ∈ n.type.key.toList, Text.halfPair? c = none
  worded : ∀ source ∈ n.inputs, source.isWorded = true

namespace Document

open Schema

/-- The entry of a source in a written document. -/
def sourceEntry : Reference → InputEntry
  | .constant value => ⟨"const", .text value.wire, none, none⟩
  | .output id index => ⟨"reference", .null, some id, some index⟩

/-- The entry of a node in a written document. -/
def nodeEntry (n : Node) : NodeEntry where
  id := n.id
  type := n.type.key
  name := n.name
  named := true
  inputs := n.inputs.map sourceEntry
  next := n.next

theorem check_referenceJson (source : Reference) :
    InputEntry.check (referenceJson source) = .ok (sourceEntry source) := by
  cases source <;> rfl

/-- A list of written items passes the check that each of them passes. -/
theorem list_map {α β : Type} {check : Json → Check β} {source : α → Json} {target : α → β}
    {xs : List α} (each : ∀ x ∈ xs, check (source x) = .ok (target x)) :
    list check (.array (xs.map source)) = .ok (xs.map target) := by
  rw [list_eq_ok]
  refine ⟨_, rfl, ?_⟩
  rw [List.forall₂_map_left_iff, List.forall₂_map_right_iff, List.forall₂_same]
  exact each

theorem check_nodeJson {n : Node} (writable : n.Writable) :
    NodeEntry.check (nodeJson n) = .ok (nodeEntry n) := by
  have id : natural (.int n.id) = .ok n.id := natural_eq_ok.mpr ⟨rfl, writable.id⟩
  have key : nonEmptyString (.text n.type.key) = .ok n.type.key :=
    nonEmptyString_eq_ok.mpr ⟨rfl, writable.key, writable.whole⟩
  have inputs : list InputEntry.check (.array (n.inputs.map referenceJson)) =
      .ok (n.inputs.map sourceEntry) :=
    list_map fun source _ => check_referenceJson source
  have next : list integer (.array (n.next.map .int)) = .ok n.next := by
    have each (i : Int) (_ : i ∈ n.next) : integer (.int i) = .ok i := rfl
    have all := list_map each
    rwa [List.map_id'] at all
  change (Check.both (Check.under (.field "id") (natural (.int n.id)))
    (Check.both (Check.under (.field "type") (nonEmptyString (.text n.type.key)))
      (Check.both (.ok n.name)
        (Check.both (Check.under (.field "inputs") (list InputEntry.check
            (.array (n.inputs.map referenceJson))))
          (Check.under (.field "nextNodes") (list integer (.array (n.next.map .int)))))))).map _ = _
  rw [id, key, inputs, next]
  rfl

/-- The document of a flow, as it comes back from its text. -/
def ofFlow (f : Flow) : Document where
  name := f.name
  version := writtenVersion
  engine := engineVersion
  start := f.start
  startGiven := true
  nodes := f.ordered.map nodeEntry

theorem check_flowJson {f : Flow} (writable : ∀ n ∈ f.ordered, n.Writable) :
    check (flowJson f) = .ok (ofFlow f) := by
  have nodes : list NodeEntry.check (.array (f.ordered.map nodeJson)) =
      .ok (f.ordered.map nodeEntry) :=
    list_map fun n hn => check_nodeJson (writable n hn)
  change (Check.both (.ok f.name) (Check.both (.ok writtenVersion) (Check.both (.ok engineVersion)
    (Check.both (.ok f.start) (Check.under (.field "nodes")
      (list NodeEntry.check (.array (f.ordered.map nodeJson)))))))).map _ = _
  rw [nodes]
  rfl

theorem reference_sourceEntry (source : Reference) :
    (sourceEntry source).reference = source.stored := by
  cases source <;> rfl

theorem fill_all {α : Type} {slots entries : List α} (same : slots.length = entries.length) :
    fill slots entries = entries := by
  simp [fill, same]

/-- The entry of a node that fits its type gives the node as it is stored. -/
theorem node_nodeEntry {n : Node} (fits : n.Fits) : (nodeEntry n).node n.type = n.stored := by
  have inputs : (Node.fresh n.type n.id n.name).inputs.length =
      ((n.inputs.map sourceEntry).map InputEntry.reference).length := by
    simp [Node.fresh, fits.inputs, Node.inputCount]
  have next : (Node.fresh n.type n.id n.name).next.length =
      (n.next.map fun id => if 0 ≤ id then id else -1).length := by
    simp [Node.fresh, fits.next, Node.branchCount]
  simp only [NodeEntry.node, nodeEntry]
  rw [fill_all inputs, fill_all next, List.map_map]
  have sources : InputEntry.reference ∘ sourceEntry = Reference.stored :=
    funext reference_sourceEntry
  rw [sources]
  rfl

theorem insert_new {nodes : List Node} {node : Node} (new : node.id ∉ nodes.map Node.id) :
    Flow.insert nodes node = nodes ++ [node] := by
  induction nodes with
  | nil => rfl
  | cons n nodes ih =>
    rw [List.map_cons, List.mem_cons, not_or] at new
    simp [Flow.insert, Ne.symm new.1, ih new.2]

theorem has_eq_false {f : Flow} {id : Int} (new : id ∉ f.nodes.map Node.id) : f.has id = false := by
  have none' : f.node? id = none := by
    rw [Flow.node?_eq_none]
    intro n hn same
    exact new (List.mem_map.mpr ⟨n, hn, same⟩)
  simp [Flow.has, none']

/-- A written entry has nothing in it that cannot be put into words. -/
theorem isWorded_nodeEntry (n : Node) (type : NodeType) : (nodeEntry n).isWorded type = true := by
  have inputs : ∀ entry ∈ (n.inputs.map sourceEntry).take type.layout.inputs.length,
      entry.isWorded = true := by
    intro entry taken
    obtain ⟨source, -, rfl⟩ := List.mem_map.mp (List.mem_of_mem_take taken)
    cases source <;> rfl
  rw [NodeEntry.isWorded, Bool.and_eq_true, List.all_eq_true]
  exact ⟨rfl, inputs⟩

/-- The entries of nodes with ids of their own become the nodes as they are stored, in order. -/
theorem addNodes_entries {c : Catalog} {f : Flow} {ns : List Node}
    (nodup : (f.nodes.map Node.id ++ ns.map Node.id).Nodup) (fits : ∀ n ∈ ns, n.Fits)
    (registered : ∀ n ∈ ns, n.Registered c) :
    (addNodes c f (ns.map nodeEntry)).result = .ok { f with
      nodes := f.nodes ++ ns.map Node.stored
      counter := ns.foldl (fun k n => max k n.id) f.counter } := by
  induction ns generalizing f with
  | nil => simp [addNodes]
  | cons n ns ih =>
    have new : n.id ∉ f.nodes.map Node.id := by
      intro known
      exact (List.nodup_append.mp nodup).2.2 n.id known n.id (by simp) rfl
    have found : c.find? (nodeEntry n).type = some n.type := registered n List.mem_cons_self
    have added : f.addNode n.stored = { f with
        nodes := f.nodes ++ [n.stored]
        counter := max f.counter n.id } := by
      have new' : n.stored.id ∉ f.nodes.map Node.id := new
      simp only [Flow.addNode, insert_new new']
      rfl
    have others := ih (f := f.addNode n.stored)
      (by rw [added]; simpa [Node.stored] using nodup)
      (fun m hm => fits m (List.mem_cons_of_mem _ hm))
      (fun m hm => registered m (List.mem_cons_of_mem _ hm))
    have absent : f.has (nodeEntry n).id = false := has_eq_false new
    simp only [List.map_cons, addNodes, absent, found, isWorded_nodeEntry, Bool.false_eq_true,
      ↓reduceIte, node_nodeEntry (fits n List.mem_cons_self)]
    rw [others, added]
    simp

end Document

end EventFlow
