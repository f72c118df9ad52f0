import EventFlow.Document.Reading
import EventFlow.Proofs.Document.RoundTrip
import EventFlow.Proofs.Value.Wire

/-!
What a text gives when it is loaded, however lenient the document in it is.

* `accepted_of_check`: what the entries of a document are after the check;
* `read_settled`: a loaded flow is sound, can be written, and storing does not change its nodes.
-/

namespace EventFlow

namespace Json

theorem brief_get? {j x : Json} {key : String} (brief : j.brief = true) (h : j.get? key = some x) :
    x.brief = true := by
  unfold get? at h
  split at h
  · rw [List.lookup_eq_some_iff] at h
    obtain ⟨before, after, rfl, -⟩ := h
    rw [brief_object, List.all_eq_true] at brief
    exact brief (key, x) (by simp)
  · cases h

theorem brief_item {xs : List Json} {x : Json} (brief : (array xs).brief = true) (h : x ∈ xs) :
    x.brief = true := by
  rw [brief_array, List.all_eq_true] at brief
  exact brief x h

end Json

namespace Document

open Schema

/-- An entry whose integers can be read back from text. -/
structure InputEntry.Brief (e : InputEntry) : Prop where
  id : ∀ i ∈ e.id, EventFlow.Brief i
  index : ∀ i ∈ e.index, EventFlow.Brief i

/-- An entry that the check of a document lets pass. -/
structure NodeEntry.Accepted (e : NodeEntry) : Prop where
  natural : 0 ≤ e.id
  brief : EventFlow.Brief e.id
  key : e.type ≠ ""
  whole : ∀ c ∈ e.type.toList, Text.halfPair? c = none
  inputs : ∀ input ∈ e.inputs, input.Brief
  next : ∀ i ∈ e.next, EventFlow.Brief i

section Fields

variable {json : Json} {key : String}

theorem either_brief {other : String} {x : Json} (brief : json.brief = true)
    (h : either json key other = some x) : x.brief = true := by
  rcases Option.or_eq_some_iff.mp h with first | ⟨-, second⟩
  · exact Json.brief_get? brief first
  · exact Json.brief_get? brief second

theorem nullable_brief (brief : json.brief = true) {value : Option Int}
    (h : optional key (nullable integer) none (json.get? key) = .ok value) :
    ∀ i ∈ value, Brief i := by
  intro i hi
  rcases optional_eq_ok.mp h with ⟨-, rfl⟩ | ⟨x, found, passes⟩
  · cases hi
  · rcases nullable_eq_ok passes with ⟨-, rfl⟩ | ⟨j, given, rfl⟩
    · cases hi
    · obtain rfl := Option.some.inj hi
      exact integer_brief (Json.brief_get? brief found) given

theorem integers_brief {value : Option Json} (brief : ∀ x ∈ value, x.brief = true) {is : List Int}
    (h : optional key (list integer) [] value = .ok is) : ∀ i ∈ is, Brief i := by
  intro i hi
  rcases optional_eq_ok.mp h with ⟨-, rfl⟩ | ⟨x, rfl, passes⟩
  · cases hi
  · obtain ⟨items, rfl, each⟩ := list_eq_ok.mp passes
    obtain ⟨y, hy, given⟩ := List.exists_of_forall₂ each hi
    exact integer_brief (Json.brief_item (brief _ rfl) hy) given

end Fields

theorem InputEntry.brief_of_check {json : Json} {e : InputEntry} (brief : json.brief = true)
    (h : InputEntry.check json = .ok e) : e.Brief := by
  cases json with
  | object members =>
    obtain ⟨⟨kind, id, index⟩, checked, rfl⟩ := Check.map_eq_ok.mp h
    obtain ⟨-, rest⟩ := Check.both_eq_ok.mp checked
    obtain ⟨id, index⟩ := Check.both_eq_ok.mp rest
    exact ⟨nullable_brief brief id, nullable_brief brief index⟩
  | _ => cases h

theorem accepted_of_check {json : Json} {e : NodeEntry} (brief : json.brief = true)
    (h : NodeEntry.check json = .ok e) : e.Accepted := by
  cases json with
  | object members =>
    obtain ⟨⟨id, type, name, inputs, next⟩, checked, rfl⟩ := Check.map_eq_ok.mp h
    obtain ⟨hid, rest⟩ := Check.both_eq_ok.mp checked
    obtain ⟨htype, rest⟩ := Check.both_eq_ok.mp rest
    obtain ⟨-, rest⟩ := Check.both_eq_ok.mp rest
    obtain ⟨hinputs, hnext⟩ := Check.both_eq_ok.mp rest
    obtain ⟨idJson, idFound, idGiven⟩ := required_eq_ok.mp hid
    obtain ⟨idInteger, natural⟩ := natural_eq_ok.mp idGiven
    obtain ⟨keyJson, -, keyGiven⟩ := required_eq_ok.mp htype
    obtain ⟨-, nonempty, whole⟩ := nonEmptyString_eq_ok.mp keyGiven
    refine ⟨natural, integer_brief (Json.brief_get? brief idFound) idInteger, nonempty, whole,
      ?_, integers_brief (fun x hx => either_brief brief hx) hnext⟩
    intro input hi
    rcases optional_eq_ok.mp hinputs with ⟨-, rfl⟩ | ⟨x, found, passes⟩
    · cases hi
    · obtain ⟨items, rfl, each⟩ := list_eq_ok.mp passes
      obtain ⟨y, hy, given⟩ := List.exists_of_forall₂ each hi
      exact InputEntry.brief_of_check (Json.brief_item (Json.brief_get? brief found) hy) given
  | _ => cases h

theorem check_accepted {json : Json} {d : Document} (brief : json.brief = true)
    (h : Document.check json = .ok d) :
    EventFlow.Brief d.start ∧ ∀ e ∈ d.nodes, e.Accepted := by
  cases json with
  | object members =>
    obtain ⟨⟨name, version, engine, start, nodes⟩, checked, rfl⟩ := Check.map_eq_ok.mp h
    obtain ⟨-, rest⟩ := Check.both_eq_ok.mp checked
    obtain ⟨-, rest⟩ := Check.both_eq_ok.mp rest
    obtain ⟨-, rest⟩ := Check.both_eq_ok.mp rest
    obtain ⟨hstart, hnodes⟩ := Check.both_eq_ok.mp rest
    constructor
    · rcases optional_eq_ok.mp hstart with ⟨-, same⟩ | ⟨x, found, given⟩
      · have none' : EventFlow.Brief (-1) := brief_of_natAbs_le (by decide)
        obtain rfl : start = -1 := same
        exact none'
      · exact integer_brief (either_brief brief found) given
    · intro e he
      rcases optional_eq_ok.mp hnodes with ⟨-, rfl⟩ | ⟨x, found, passes⟩
      · cases he
      · obtain ⟨items, rfl, each⟩ := list_eq_ok.mp passes
        obtain ⟨y, hy, given⟩ := List.exists_of_forall₂ each he
        exact accepted_of_check (Json.brief_item (Json.brief_get? brief found) hy) given
  | _ => cases h

end Document

/-- A source that storing does not change. -/
def Reference.Settled (source : Reference) : Prop :=
  source.Brief ∧ source.stored = source

/-- What was read from a text can be put into words. -/
theorem Reference.Settled.worded {source : Reference} (settled : source.Settled) :
    source.isWorded = true := by
  cases source with
  | output => rfl
  | constant value =>
    have same : Value.autoCast value.wire = value := Reference.constant.inj settled.2
    rw [isWorded, ← same]
    exact Value.isBrief_autoCast _

/-- A node that documents can hold and that storing does not change. -/
structure Node.Settled (c : Catalog) (n : Node) : Prop where
  fits : n.Fits
  registered : n.Registered c
  writable : n.Writable
  brief : n.Brief
  stored : n.stored = n

namespace Document

theorem mem_fill {α : Type} {slots entries : List α} {a : α} (h : a ∈ fill slots entries) :
    a ∈ slots ∨ a ∈ entries := by
  rcases List.mem_append.mp h with h | h
  · exact Or.inr (List.mem_of_mem_take h)
  · exact Or.inl (List.mem_of_mem_drop h)

theorem length_fill {α : Type} (slots entries : List α) :
    (fill slots entries).length = slots.length := by
  simp only [fill, List.length_append, List.length_take, List.length_drop]
  omega

theorem empty_settled : Reference.empty.Settled :=
  ⟨trivial, rfl⟩

theorem reference_settled {e : InputEntry} (brief : e.Brief) : e.reference.Settled := by
  unfold InputEntry.reference
  split
  · split
    · rename_i text _
      refine ⟨trivial, ?_⟩
      rw [Reference.stored, Value.autoCast_wire]
    · exact empty_settled
  · split
    · split
      · rename_i id given
        refine ⟨⟨brief.id id given, ?_⟩, rfl⟩
        cases index : e.index with
        | none => exact brief_of_natAbs_le (by decide)
        | some i => exact brief.index i index
      · exact empty_settled
    · exact empty_settled

/-- The successors of a node after loading are no other negative numbers than minus one. -/
theorem next_settled {e : NodeEntry} (accepted : e.Accepted) {type : NodeType} {i : Int}
    (h : i ∈ (e.node type).next) : Brief i ∧ (if 0 ≤ i then i else -1) = i := by
  have none' : Brief (-1) := brief_of_natAbs_le (by decide)
  rcases mem_fill h with slot | entry
  · obtain ⟨-, -, rfl⟩ := List.mem_map.mp slot
    exact ⟨none', rfl⟩
  · obtain ⟨j, hj, rfl⟩ := List.mem_map.mp entry
    by_cases natural : 0 ≤ j
    · simp only [natural, ↓reduceIte, and_true]
      exact accepted.next j hj
    · simp only [natural, ↓reduceIte]
      exact ⟨none', rfl⟩

theorem inputs_settled {e : NodeEntry} (accepted : e.Accepted) {type : NodeType}
    {source : Reference} (h : source ∈ (e.node type).inputs) : source.Settled := by
  rcases mem_fill h with slot | entry
  · obtain ⟨-, -, rfl⟩ := List.mem_map.mp slot
    exact empty_settled
  · obtain ⟨input, hi, rfl⟩ := List.mem_map.mp entry
    exact reference_settled (accepted.inputs input hi)

/-- The node of an entry, whatever ports are missing or surplus in it. -/
theorem node_settled {c : Catalog} {e : NodeEntry} {type : NodeType} (accepted : e.Accepted)
    (found : c.find? e.type = some type) : (e.node type).Settled c := by
  have key : type.key = e.type := Catalog.find?_key found
  have inputs {source : Reference} (h : source ∈ (e.node type).inputs) := inputs_settled accepted h
  have next {i : Int} (h : i ∈ (e.node type).next) := next_settled accepted h
  refine ⟨⟨?_, ?_⟩, Catalog.find?_self found,
    ⟨accepted.natural, ?_, ?_, fun source h => (inputs h).worded⟩,
    ⟨accepted.brief, fun source h => (inputs h).1, fun i h => (next h).1⟩, ?_⟩
  · change (fill _ _).length = _
    rw [length_fill]
    exact (Node.fits_fresh type e.id e.name).inputs
  · change (fill _ _).length = _
    rw [length_fill]
    exact (Node.fits_fresh type e.id e.name).next
  · change type.key ≠ ""
    rw [key]
    exact accepted.key
  · change ∀ c ∈ type.key.toList, _
    rw [key]
    exact accepted.whole
  · have sources : (e.node type).inputs.map Reference.stored = (e.node type).inputs := by
      rw [List.map_congr_left fun source h => (inputs h).2, List.map_id']
    have branches : ((e.node type).next.map fun i => if 0 ≤ i then i else -1) =
        (e.node type).next := by
      rw [List.map_congr_left fun i h => (next h).2, List.map_id']
    unfold Node.stored
    rw [sources, branches]

end Document

namespace Flow

/-- The counter is the largest id, or zero if there is none. -/
def Counted (f : Flow) : Prop :=
  (f.nodes = [] ∧ f.counter = 0) ∨
    ∃ n ∈ f.nodes, n.id = f.counter ∧ ∀ m ∈ f.nodes, m.id ≤ f.counter

/-- A flow as loading leaves it. -/
structure Settled (c : Catalog) (f : Flow) : Prop where
  distinct : f.Distinct
  nodes : ∀ n ∈ f.nodes, n.Settled c
  counted : f.Counted

theorem counted_addNode {f : Flow} {n : Node} (counted : f.Counted) (natural : 0 ≤ n.id)
    (new : n.id ∉ f.nodes.map Node.id) : (f.addNode n).Counted := by
  have nodes : (f.addNode n).nodes = f.nodes ++ [n] := Document.insert_new new
  have counter : (f.addNode n).counter = max f.counter n.id := rfl
  have largest (m : Node) (hm : m ∈ f.nodes) : m.id ≤ f.counter := by
    rcases counted with ⟨none', -⟩ | ⟨-, -, -, bound⟩
    · rw [none'] at hm
      cases hm
    · exact bound m hm
  have bound : ∀ m ∈ (f.addNode n).nodes, m.id ≤ (f.addNode n).counter := by
    intro m hm
    rw [nodes] at hm
    rw [counter]
    rcases List.mem_append.mp hm with hm | hm
    · have := largest m hm
      omega
    · rw [List.mem_singleton.mp hm]
      omega
  have own : n ∈ (f.addNode n).nodes := by
    rw [nodes]
    exact List.mem_append_right _ List.mem_cons_self
  by_cases above : f.counter ≤ n.id
  · exact Or.inr ⟨n, own, by rw [counter]; omega, bound⟩
  · rcases counted with ⟨-, zero⟩ | ⟨m, hm, same, -⟩
    · omega
    · refine Or.inr ⟨m, ?_, by rw [counter]; omega, bound⟩
      rw [nodes]
      exact List.mem_append_left _ hm

end Flow

namespace Document

/-- Adding entries to a flow keeps it settled. -/
theorem addNodes_settled {c : Catalog} {f g : Flow} {entries : List NodeEntry}
    (accepted : ∀ e ∈ entries, e.Accepted) (settled : f.Settled c)
    (h : (addNodes c f entries).result = .ok g) : g.Settled c := by
  induction entries generalizing f with
  | nil =>
    cases h
    exact settled
  | cons e entries ih =>
    unfold addNodes at h
    by_cases known : f.has e.id = true
    · rw [if_pos known] at h
      cases h
    · rw [if_neg known] at h
      cases found : c.find? e.type with
      | none => rw [found] at h; cases h
      | some type =>
        rw [found] at h
        have first := accepted e List.mem_cons_self
        have node := node_settled first found
        have new : (e.node type).id ∉ f.nodes.map Node.id := by
          intro there
          obtain ⟨n, hn, same⟩ := List.mem_map.mp there
          have taken : f.node? e.id = some n :=
            (Flow.node?_eq_some_iff settled.distinct).mpr ⟨hn, same⟩
          rw [Flow.has, taken] at known
          exact known rfl
        have added : (f.addNode (e.node type)).Settled c := by
          refine ⟨Flow.distinct_addNode settled.distinct _, ?_,
            Flow.counted_addNode settled.counted first.natural new⟩
          intro n hn
          rcases Flow.mem_insert hn with rfl | hn
          · exact node
          · exact settled.nodes n hn
        simp only at h
        split at h
        · exact ih (fun e he => accepted e (List.mem_cons_of_mem _ he)) added h
        · cases h

end Document

/-- What a text gives, if it gives a flow at all. -/
theorem Flow.read_settled {c : Catalog} {version : String} {text : List Char} {g : Flow}
    (loaded : (Flow.read c version text).result = .ok g) :
    g.Settled c ∧ EventFlow.Brief g.start := by
  unfold Flow.read at loaded
  cases parsed : Json.read Document.rules text with
  | error error => rw [parsed] at loaded; cases loaded
  | ok json =>
    simp only [parsed] at loaded
    cases checked : Document.check json with
    | error issues => rw [checked] at loaded; cases loaded
    | ok d =>
      simp only [checked] at loaded
      obtain ⟨start, accepted⟩ := Document.check_accepted (Json.read_brief parsed) checked
      unfold Document.toFlow at loaded
      simp only at loaded
      split at loaded
      · cases loaded
      · rename_i f added
        split at loaded
        case h_2 => cases loaded
        cases loaded
        have empty : (Flow.empty d.name).Settled c :=
          ⟨List.nodup_nil, fun n hn => (List.not_mem_nil hn).elim, Or.inl ⟨rfl, rfl⟩⟩
        have settled := Document.addNodes_settled accepted empty added
        exact ⟨⟨settled.distinct, settled.nodes, settled.counted⟩, start⟩

end EventFlow
