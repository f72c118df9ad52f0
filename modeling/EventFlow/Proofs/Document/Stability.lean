import EventFlow.Node.Standard
import EventFlow.Proofs.Document.Loading

/-!
Saving what was loaded. Loading settles a flow once and for all: neither saving it nor loading what
was saved changes anything more.

* `settled_stable`: a settled flow comes back alike from its text, and so does its text;
* `loaded_stable`: this holds of every flow that a text gives, over any number of cycles.
-/

namespace EventFlow.Flow

/-- Two flows that agree in everything but the order in which their nodes were put in. -/
structure Alike (f g : Flow) : Prop where
  name : f.name = g.name
  start : f.start = g.start
  counter : f.counter = g.counter
  nodes : ∀ id, f.node? id = g.node? id

/-- A flow is what saving and loading another one, once or more, gives. -/
inductive Recycled (c : Catalog) (f : Flow) : Flow → Prop where
  | once {version : String} {text : List Char} {g : Flow} (written : f.write = .ok text)
      (loaded : (Flow.read c version text).result = .ok g) : Recycled c f g
  | again {version : String} {text : List Char} {g h : Flow} (before : Recycled c f g)
      (written : g.write = .ok text) (loaded : (Flow.read c version text).result = .ok h) :
      Recycled c f h

section Settled

variable {c : Catalog} {f : Flow}

theorem Settled.sound (settled : f.Settled c) : f.Sound c :=
  ⟨settled.distinct, fun n hn => (settled.nodes n hn).fits,
    fun n hn => (settled.nodes n hn).registered⟩

/-- Storing leaves a settled flow as it is, but for the order of its nodes. -/
theorem Settled.reloaded_nodes (settled : f.Settled c) : f.reloaded.nodes = f.ordered := by
  have stored (n : Node) (hn : n ∈ f.ordered) : n.stored = n :=
    (settled.nodes n ((mem_ordered settled.distinct).mp hn)).stored
  change f.ordered.map Node.stored = f.ordered
  rw [List.map_congr_left stored, List.map_id']

theorem Settled.counter_reloaded (settled : f.Settled c) : f.reloaded.counter = f.counter := by
  have natural (n : Node) (hn : n ∈ f.nodes) : 0 ≤ n.id := (settled.nodes n hn).writable.id
  rcases (storedAs_reloaded settled.distinct natural).counter with
    ⟨none', zero⟩ | ⟨n, hn, top, most⟩
  · rcases settled.counted with ⟨-, counter⟩ | ⟨m, hm, -, -⟩
    · rw [zero, counter]
    · rw [none'] at hm
      cases hm
  · rcases settled.counted with ⟨none', -⟩ | ⟨m, hm, top', most'⟩
    · rw [none'] at hn
      cases hn
    · have low := most m hm
      have high := most' n hn
      omega

theorem Settled.reloaded_alike (settled : f.Settled c) : f.reloaded.Alike f where
  name := rfl
  start := rfl
  counter := settled.counter_reloaded
  nodes := by
    intro id
    rw [node?_reloaded settled.distinct]
    cases found : f.node? id with
    | none => rfl
    | some n =>
      obtain ⟨hn, -⟩ := mem_of_node? found
      exact congrArg some (settled.nodes n hn).stored

theorem Settled.reloaded_settled (settled : f.Settled c) : f.reloaded.Settled c := by
  have nodes := settled.reloaded_nodes
  have mem {n : Node} : n ∈ f.reloaded.nodes ↔ n ∈ f.nodes := by
    rw [nodes]
    exact mem_ordered settled.distinct
  refine ⟨?_, fun n hn => settled.nodes n (mem.mp hn), ?_⟩
  · unfold Distinct
    rw [nodes]
    exact (ordered_lists f).nodup
  · have counter := settled.counter_reloaded
    rcases settled.counted with ⟨none', zero⟩ | ⟨n, hn, top, most⟩
    · refine Or.inl ⟨?_, by rw [counter, zero]⟩
      rw [List.eq_nil_iff_forall_not_mem]
      intro n hn
      have there := mem.mp hn
      rw [none'] at there
      cases there
    · refine Or.inr ⟨n, mem.mpr hn, by rw [counter, top], ?_⟩
      intro m hm
      rw [counter]
      exact most m (mem.mp hm)

theorem Settled.write (settled : f.Settled c) :
    f.write = .ok (Json.pretty 0 (Document.flowJson f)) :=
  write_ok settled.distinct fun n hn => (settled.nodes n hn).writable

/-- Alike flows have the same document. -/
theorem Alike.flowJson {g : Flow} (alike : f.Alike g) (distinct : f.Distinct)
    (distinct' : g.Distinct) : Document.flowJson f = Document.flowJson g := by
  have listing := ordered_congr distinct distinct' alike.start alike.nodes
  unfold Document.flowJson
  rw [alike.name, alike.start, listing]

/-- A settled flow comes back alike from its text, and gives the same text again. -/
theorem settled_stable (settled : f.Settled c) (start : EventFlow.Brief f.start) :
    ∃ text g, f.write = .ok text ∧ (∀ version, (Flow.read c version text).result = .ok g) ∧
      g.Alike f ∧ g.write = .ok text ∧ (f.Encodable → f.dump = .ok text ∧ g.dump = .ok text) := by
  have again := settled.reloaded_settled
  have same := settled.reloaded_alike.flowJson again.distinct settled.distinct
  have rewritten : f.reloaded.write = .ok (Json.pretty 0 (Document.flowJson f)) :=
    same ▸ again.write
  have brief : (Document.flowJson f).brief = true :=
    (flowJson_brief_iff settled.distinct).mpr ⟨start, fun n hn => (settled.nodes n hn).brief⟩
  refine ⟨_, f.reloaded, settled.write, ?_, settled.reloaded_alike, rewritten, ?_⟩
  · intro version
    rw [read_written settled.sound (fun n hn => (settled.nodes n hn).writable), if_pos brief]
  · intro encodable
    have whole := (encodable_iff settled.distinct).mpr encodable
    exact ⟨dump_eq_ok_iff.mpr ⟨settled.write, whole⟩,
      dump_eq_ok_iff.mpr ⟨rewritten, same ▸ whole⟩⟩

end Settled

/-- What a text gives is written to a text that gives it again. Of that text, saving and loading
over and over make nothing else. It is what a dump gives too, unless there is half of a pair. -/
theorem loaded_stable {c : Catalog} {version : String} {text : List Char} {g : Flow}
    (loaded : (Flow.read c version text).result = .ok g) :
    ∃ written h, g.write = .ok written ∧
      (∀ version, (Flow.read c version written).result = .ok h) ∧ h.Alike g ∧
      h.write = .ok written ∧ (g.Encodable → g.dump = .ok written ∧ h.dump = .ok written) ∧
      ∀ k, Recycled c g k → k = h := by
  obtain ⟨settled, start⟩ := read_settled loaded
  obtain ⟨written, h, first, back, alike, same, dumped⟩ := settled_stable settled start
  refine ⟨written, h, first, back, alike, same, dumped, ?_⟩
  intro k recycled
  induction recycled with
  | once again loaded =>
    cases first.symm.trans again
    exact Except.ok.inj (loaded.symm.trans (back _))
  | again before again loaded ih =>
    subst ih
    cases same.symm.trans again
    exact Except.ok.inj (loaded.symm.trans (back _))

/-- A text that needs every kind of repair: the start is a float, the id a text, the name is
missing, of the inputs one is no text, one is of an unknown kind and one is too many, and the
successor is negative. -/
def lenientText : List Char :=
  ("\x7b\"start_node_id\": 3.0, \"nodes\": [\x7b\"id\": \" +03 \", \"type\": \"AdditionNode\", " ++
    "\"inputs\": [\x7b\"value\": [0.5, null]\x7d, \x7b\"type\": \"link\"\x7d, \x7b\x7d], " ++
    "\"nextNodes\": [-5]\x7d]\x7d").toList

theorem loaded_stable_lenientText :
    ∃ g, (Flow.read Catalog.standard "1" lenientText).result = .ok g ∧
      ∃ written h, g.write = .ok written ∧
        (∀ version, (Flow.read Catalog.standard version written).result = .ok h) ∧ h.Alike g ∧
        h.write = .ok written ∧ (g.Encodable → g.dump = .ok written ∧ h.dump = .ok written) ∧
        ∀ k, Recycled Catalog.standard g k → k = h := by
  have accepted : (Flow.read Catalog.standard "1" lenientText).result.isOk = true := by
    decide +kernel
  cases loaded : (Flow.read Catalog.standard "1" lenientText).result with
  | error error =>
    rw [loaded] at accepted
    cases accepted
  | ok g => exact ⟨g, rfl, loaded_stable loaded⟩

end EventFlow.Flow
