import EventFlow.Node.Standard
import EventFlow.Proofs.Document.Entries
import EventFlow.Proofs.Json.Encodable

/-!
Reading a flow from the text that it was written as.

* `read_written`: what the text of a flow gives, and when it gives nothing;
* `Encodable`: a flow without half of a pair in its texts; `dump_eq_ok_iff`: such a flow can be
  dumped if it can be written;
* `dump_read`: the text of a storable flow gives that flow back, with every constant read from its
  text and no negative successor but minus one.
-/

namespace EventFlow

/-- A source whose integers can be read back from text. -/
def Reference.Brief : Reference → Prop
  | constant _ => True
  | output id index => EventFlow.Brief id ∧ EventFlow.Brief index

/-- A source whose text has no half of a pair in it. -/
def Reference.Encodable : Reference → Prop
  | constant value => ∀ c ∈ value.wire.toList, Text.halfPair? c = none
  | output _ _ => True

/-- A node whose texts have no half of a pair in them. -/
structure Node.Encodable (n : Node) : Prop where
  name : ∀ c ∈ n.name.toList, Text.halfPair? c = none
  key : ∀ c ∈ n.type.key.toList, Text.halfPair? c = none
  inputs : ∀ source ∈ n.inputs, source.Encodable

/-- A node whose integers can be read back from text. -/
structure Node.Brief (n : Node) : Prop where
  id : EventFlow.Brief n.id
  inputs : ∀ source ∈ n.inputs, source.Brief
  next : ∀ id ∈ n.next, EventFlow.Brief id

namespace Document

open Json (Plain brief_int brief_text)

theorem referenceJson_plain (source : Reference) (depth : Nat) :
    Plain (depth + 1) (referenceJson source) := by
  cases source with
  | constant value =>
    refine .object (by simp) ?_
    simp only [List.forall_mem_cons]
    exact ⟨.text _, .text _, by simp⟩
  | output id index =>
    refine .object (by simp) ?_
    simp only [List.forall_mem_cons]
    exact ⟨.text _, .int id, .int index, by simp⟩

theorem nodeJson_plain (n : Node) (depth : Nat) : Plain (depth + 3) (nodeJson n) := by
  refine .object (by simp) ?_
  simp only [List.forall_mem_cons]
  refine ⟨.int n.id, .text _, .text _, .array ?_, .array ?_, by simp⟩
  · intro x hx
    obtain ⟨source, -, rfl⟩ := List.mem_map.mp hx
    exact referenceJson_plain source depth
  · intro x hx
    obtain ⟨id, -, rfl⟩ := List.mem_map.mp hx
    exact .int id

theorem flowJson_plain (f : Flow) (depth : Nat) : Plain (depth + 5) (flowJson f) := by
  refine .object (by simp) ?_
  simp only [List.forall_mem_cons]
  refine ⟨.text _, .text _, .text _, .int f.start, .array ?_, by simp⟩
  intro x hx
  obtain ⟨n, -, rfl⟩ := List.mem_map.mp hx
  exact nodeJson_plain n depth

theorem referenceJson_brief (source : Reference) :
    (referenceJson source).brief = true ↔ source.Brief := by
  cases source with
  | constant value => simp [referenceJson, Json.brief_object, brief_text, Reference.Brief]
  | output id index =>
    simp [referenceJson, Json.brief_object, brief_text, brief_int, Reference.Brief]

theorem nodeJson_brief (n : Node) : (nodeJson n).brief = true ↔ n.Brief := by
  have parts : (nodeJson n).brief = true ↔ Brief n.id ∧ (∀ source ∈ n.inputs, source.Brief) ∧
      ∀ id ∈ n.next, Brief id := by
    simp [nodeJson, Json.brief_object, Json.brief_array, brief_text, brief_int,
      referenceJson_brief]
  exact parts.trans ⟨fun ⟨id, inputs, next⟩ => ⟨id, inputs, next⟩,
    fun brief => ⟨brief.id, brief.inputs, brief.next⟩⟩

theorem flowJson_brief (f : Flow) :
    (flowJson f).brief = true ↔ Brief f.start ∧ ∀ n ∈ f.ordered, n.Brief := by
  simp [flowJson, Json.brief_object, Json.brief_array, brief_text, brief_int, nodeJson_brief]

theorem writingFault?_referenceJson {source : Reference} :
    (referenceJson source).writingFault? = none ↔ source.Encodable := by
  have const : ∀ c ∈ "const".toList, Text.halfPair? c = none := Text.halfPair?_ascii rfl
  have reference : ∀ c ∈ "reference".toList, Text.halfPair? c = none := Text.halfPair?_ascii rfl
  cases source with
  | constant value =>
    rw [referenceJson, Json.writingFault?_members ["type", "value"] rfl (by decide)]
    simp only [List.forall_mem_cons, Json.writingFault?_text]
    exact ⟨fun fine => fine.2.1, fun fine => ⟨const, fine, by simp⟩⟩
  | output id index =>
    rw [referenceJson, Json.writingFault?_members ["type", "id", "index"] rfl (by decide)]
    simp only [List.forall_mem_cons, Json.writingFault?_text]
    exact iff_of_true ⟨reference, rfl, rfl, by simp⟩ trivial

theorem writingFault?_nodeJson {n : Node} :
    (nodeJson n).writingFault? = none ↔ n.Encodable := by
  rw [nodeJson,
    Json.writingFault?_members ["id", "type", "name", "inputs", "nextNodes"] rfl (by decide)]
  simp only [List.forall_mem_cons, Json.writingFault?_text, Json.writingFault?_array,
    List.forall_mem_map, writingFault?_referenceJson]
  constructor
  · rintro ⟨-, key, name, inputs, -⟩
    exact ⟨name, key, inputs⟩
  · rintro ⟨name, key, inputs⟩
    exact ⟨rfl, key, name, inputs, fun _ _ => rfl, by simp⟩

theorem writingFault?_flowJson {f : Flow} : (flowJson f).writingFault? = none ↔
    (∀ c ∈ f.name.toList, Text.halfPair? c = none) ∧ ∀ n ∈ f.ordered, n.Encodable := by
  have version : ∀ c ∈ writtenVersion.toList, Text.halfPair? c = none := Text.halfPair?_ascii rfl
  have engine : ∀ c ∈ engineVersion.toList, Text.halfPair? c = none := Text.halfPair?_ascii rfl
  rw [flowJson,
    Json.writingFault?_members ["name", "version", "engine", "startNodeId", "nodes"] rfl
      (by decide)]
  simp only [List.forall_mem_cons, Json.writingFault?_text, Json.writingFault?_array,
    List.forall_mem_map, writingFault?_nodeJson]
  constructor
  · rintro ⟨name, -, -, -, nodes, -⟩
    exact ⟨name, nodes⟩
  · rintro ⟨name, nodes⟩
    exact ⟨name, version, engine, rfl, nodes, by simp⟩

end Document

namespace Flow

/-- A flow as a program may hold it: ids are distinct, each node has the ports of its type, and the
catalog has all types. -/
structure Sound (c : Catalog) (f : Flow) : Prop where
  distinct : f.Distinct
  fits : ∀ n ∈ f.nodes, n.Fits
  registered : ∀ n ∈ f.nodes, n.Registered c

/-- A flow whose integers can be read back from text. -/
def Brief (f : Flow) : Prop :=
  EventFlow.Brief f.start ∧ ∀ n ∈ f.nodes, n.Brief

/-- A flow whose texts have no half of a pair in them. -/
structure Encodable (f : Flow) : Prop where
  name : ∀ c ∈ f.name.toList, Text.halfPair? c = none
  nodes : ∀ n ∈ f.nodes, n.Encodable

theorem isWorded_iff {f : Flow} :
    f.isWorded = true ↔ ∀ n ∈ f.nodes, ∀ source ∈ n.inputs, source.isWorded = true := by
  simp only [isWorded, List.all_eq_true]

/-- A flow as storing and loading leave it. -/
def reloaded (f : Flow) : Flow where
  name := f.name
  nodes := f.ordered.map Node.stored
  start := f.start
  counter := f.ordered.foldl (fun k n => max k n.id) 0

theorem nodeDocument_ok {n : Node} (writable : n.Writable) :
    nodeDocument n = .ok (Document.nodeJson n) := by
  have id : Schema.natural (.int n.id) = .ok n.id := Schema.natural_eq_ok.mpr ⟨rfl, writable.id⟩
  have key : Schema.nonEmptyString (.text n.type.key) = .ok n.type.key :=
    Schema.nonEmptyString_eq_ok.mpr ⟨rfl, writable.key, writable.whole⟩
  unfold nodeDocument
  rw [if_pos (List.all_eq_true.mpr writable.worded), id, key]
  rfl

theorem writable_of_nodeDocument {n : Node} {json : Json} (h : nodeDocument n = .ok json) :
    n.Writable := by
  unfold nodeDocument at h
  split at h
  case isFalse => cases h
  rename_i worded
  obtain ⟨⟨i, s⟩, checked, -⟩ := Schema.Check.map_eq_ok.mp (Except.eq_ok_of_mapError h)
  obtain ⟨id, key⟩ := Schema.Check.both_eq_ok.mp checked
  obtain ⟨same, natural⟩ := Schema.natural_eq_ok.mp (Schema.Check.under_eq_ok.mp id)
  obtain ⟨text, nonempty, whole⟩ := Schema.nonEmptyString_eq_ok.mp (Schema.Check.under_eq_ok.mp key)
  cases same
  cases text
  exact ⟨natural, nonempty, whole, List.all_eq_true.mp worded⟩

theorem writable_of_write {f : Flow} {text : List Char} (h : f.write = .ok text) :
    ∀ n ∈ f.ordered, n.Writable := by
  unfold write document at h
  cases all : f.ordered.mapM nodeDocument with
  | error issues => rw [all] at h; cases h
  | ok jsons =>
    intro n hn
    obtain ⟨json, made⟩ := List.exists_of_mapM_eq_ok all hn
    exact writable_of_nodeDocument made

theorem document_ok {f : Flow} (distinct : f.Distinct) (writable : ∀ n ∈ f.nodes, n.Writable) :
    f.document = .ok (Document.flowJson f) := by
  have all : f.ordered.mapM nodeDocument = .ok (f.ordered.map Document.nodeJson) := by
    rw [List.mapM_eq_ok_iff, List.forall₂_map_right_iff, List.forall₂_same]
    exact fun n hn => nodeDocument_ok (writable n ((mem_ordered distinct).mp hn))
  rw [document, all]
  rfl

theorem write_ok {f : Flow} (distinct : f.Distinct) (writable : ∀ n ∈ f.nodes, n.Writable) :
    f.write = .ok (Json.pretty 0 (Document.flowJson f)) := by
  rw [write, document_ok distinct writable]
  rfl

/-- What the text of a flow gives: the flow as storing leaves it, unless an integer is too long. -/
theorem read_written {c : Catalog} {f : Flow} (sound : f.Sound c)
    (writable : ∀ n ∈ f.nodes, n.Writable) (version : String) :
    (Flow.read c version (Json.pretty 0 (Document.flowJson f))).result =
      if (Document.flowJson f).brief then .ok f.reloaded
      else .error (.invalid [⟨[], .jsonInvalid, .null⟩]) := by
  have mem {n : Node} : n ∈ f.ordered → n ∈ f.nodes := (mem_ordered sound.distinct).mp
  have nodup : ((Flow.empty f.name).nodes.map Node.id ++ f.ordered.map Node.id).Nodup := by
    simpa [Flow.empty] using (ordered_lists f).nodup
  have added := Document.addNodes_entries nodup (fun n hn => sound.fits n (mem hn))
    (fun n hn => sound.registered n (mem hn))
  unfold Flow.read
  rw [Json.read_pretty Document.rules (Document.flowJson_plain f 195)]
  cases brief : (Document.flowJson f).brief with
  | false => rfl
  | true =>
    have start : EventFlow.Brief f.start := ((Document.flowJson_brief f).mp brief).1
    simp only [Json.limited_true, Document.check_flowJson fun n hn => writable n (mem hn),
      ↓reduceIte]
    unfold Document.toFlow
    simp only [Document.ofFlow]
    rw [added]
    obtain ⟨log, said⟩ := exists_setStartLog (f := { Flow.empty f.name with
      nodes := f.ordered.map Node.stored
      counter := f.ordered.foldl (fun k n => max k n.id) 0 }) (.inr start)
    simp only [Flow.empty, List.nil_append] at said ⊢
    rw [said]
    simp [Flow.setStart, reloaded]

theorem flowJson_brief_iff {f : Flow} (distinct : f.Distinct) :
    (Document.flowJson f).brief = true ↔ f.Brief := by
  rw [Document.flowJson_brief, Brief]
  simp only [mem_ordered distinct]

theorem dump_eq_ok_iff {f : Flow} {text : List Char} :
    f.dump = .ok text ↔
      f.write = .ok text ∧ (Document.flowJson f).writingFault? = none := by
  unfold dump
  split <;> simp_all

theorem encodable_iff {f : Flow} (distinct : f.Distinct) :
    (Document.flowJson f).writingFault? = none ↔ f.Encodable := by
  rw [Document.writingFault?_flowJson]
  simp only [mem_ordered distinct]
  exact ⟨fun ⟨name, nodes⟩ => ⟨name, nodes⟩, fun fine => ⟨fine.name, fine.nodes⟩⟩

/-- A flow is dumped and read again exactly if documents can hold its nodes, its texts have no half
of a pair in them and its integers are not too long. -/
theorem readable_iff {c : Catalog} {f : Flow} (sound : f.Sound c) (version : String) :
    (∃ text g, f.dump = .ok text ∧ (Flow.read c version text).result = .ok g) ↔
      (∀ n ∈ f.nodes, n.Writable) ∧ f.Encodable ∧ f.Brief := by
  constructor
  · rintro ⟨text, g, dumped, loaded⟩
    obtain ⟨written, whole⟩ := dump_eq_ok_iff.mp dumped
    have writable (n : Node) (hn : n ∈ f.nodes) : n.Writable :=
      writable_of_write written n ((mem_ordered sound.distinct).mpr hn)
    refine ⟨writable, (encodable_iff sound.distinct).mp whole, ?_⟩
    rw [write_ok sound.distinct writable] at written
    cases written
    rw [read_written sound writable] at loaded
    by_cases brief : (Document.flowJson f).brief = true
    · exact (flowJson_brief_iff sound.distinct).mp brief
    · rw [if_neg brief] at loaded
      cases loaded
  · rintro ⟨writable, encodable, brief⟩
    refine ⟨_, f.reloaded, dump_eq_ok_iff.mpr ⟨write_ok sound.distinct writable,
      (encodable_iff sound.distinct).mpr encodable⟩, ?_⟩
    rw [read_written sound writable, if_pos ((flowJson_brief_iff sound.distinct).mpr brief)]

/-- A text of the flow gives `g`. -/
def Reloads (c : Catalog) (f g : Flow) : Prop :=
  ∃ version text, f.write = .ok text ∧ (Flow.read c version text).result = .ok g

/-- There is only one flow that a flow can be stored and loaded as. -/
theorem Reloads.eq {c : Catalog} {f g : Flow} (sound : f.Sound c) (h : f.Reloads c g) :
    g = f.reloaded := by
  obtain ⟨version, text, written, loaded⟩ := h
  have writable (n : Node) (hn : n ∈ f.nodes) : n.Writable :=
    writable_of_write written n ((mem_ordered sound.distinct).mpr hn)
  rw [write_ok sound.distinct writable] at written
  cases written
  rw [read_written sound writable] at loaded
  split at loaded
  · exact (Except.ok.inj loaded).symm
  · cases loaded

theorem node?_ordered {f : Flow} (distinct : f.Distinct) (id : Int) :
    f.ordered.find? (fun n => n.id == id) = f.node? id := by
  have listing : Flow.Distinct { f with nodes := f.ordered } := (ordered_lists f).nodup
  have left (n : Node) : f.ordered.find? (fun n => n.id == id) = some n ↔
      n ∈ f.ordered ∧ n.id = id := node?_eq_some_iff listing
  apply Option.ext
  intro n
  rw [left, mem_ordered distinct, node?_eq_some_iff distinct]

/-- The nodes of a flow after storing and loading. -/
theorem node?_reloaded {f : Flow} (distinct : f.Distinct) (id : Int) :
    f.reloaded.node? id = (f.node? id).map Node.stored := by
  rw [← node?_ordered distinct]
  unfold node? reloaded
  rw [List.find?_map]
  rfl

theorem le_foldl_max (nodes : List Node) (least : Int) :
    least ≤ nodes.foldl (fun k n => max k n.id) least ∧
      ∀ n ∈ nodes, n.id ≤ nodes.foldl (fun k n => max k n.id) least := by
  induction nodes generalizing least with
  | nil => simp
  | cons n nodes ih =>
    obtain ⟨start, others⟩ := ih (max least n.id)
    rw [List.foldl_cons]
    refine ⟨by omega, ?_⟩
    intro m hm
    rcases List.mem_cons.mp hm with rfl | hm
    · omega
    · exact others m hm

theorem foldl_max_mem (nodes : List Node) (least : Int) :
    nodes.foldl (fun k n => max k n.id) least = least ∨
      ∃ n ∈ nodes, n.id = nodes.foldl (fun k n => max k n.id) least := by
  induction nodes generalizing least with
  | nil => exact Or.inl rfl
  | cons n nodes ih =>
    rw [List.foldl_cons]
    rcases ih (max least n.id) with same | ⟨m, hm, same⟩
    · rw [same]
      rcases Int.le_total least n.id with le | le
      · exact Or.inr ⟨n, List.mem_cons_self, by omega⟩
      · exact Or.inl (by omega)
    · exact Or.inr ⟨m, List.mem_cons_of_mem _ hm, same⟩

/-- A flow `g` is what storing and loading leave of a flow `f`. -/
structure StoredAs (f g : Flow) : Prop where
  name : g.name = f.name
  start : g.start = f.start
  nodes : ∀ id, g.node? id = (f.node? id).map Node.stored
  /-- The counter is the largest id, or zero if there is none. -/
  counter : (f.nodes = [] ∧ g.counter = 0) ∨
    (∃ n ∈ f.nodes, n.id = g.counter ∧ ∀ m ∈ f.nodes, m.id ≤ g.counter)

theorem storedAs_reloaded {f : Flow} (distinct : f.Distinct) (natural : ∀ n ∈ f.nodes, 0 ≤ n.id) :
    StoredAs f f.reloaded where
  name := rfl
  start := rfl
  nodes := node?_reloaded distinct
  counter := by
    obtain ⟨-, above⟩ := le_foldl_max f.ordered 0
    have bound (m : Node) (hm : m ∈ f.nodes) : m.id ≤ f.reloaded.counter :=
      above m ((mem_ordered distinct).mpr hm)
    rcases foldl_max_mem f.ordered 0 with zero | ⟨n, hn, largest⟩
    · cases nodes : f.nodes with
      | nil => exact Or.inl ⟨rfl, zero⟩
      | cons n rest =>
        have hn : n ∈ f.nodes := by rw [nodes]; exact List.mem_cons_self
        rw [← nodes]
        have low : n.id ≤ f.reloaded.counter := bound n hn
        have high := natural n hn
        have counter : f.reloaded.counter = 0 := zero
        exact Or.inr ⟨n, hn, by omega, bound⟩
    · exact Or.inr ⟨n, (mem_ordered distinct).mp hn, largest, bound⟩

/-- Storing and loading a flow gives it back: its name, start and nodes are as they were, but for
constants, which become what their text stands for, and negative successors, which become minus
one. No text may have half of a pair in it and no integer too many digits. -/
theorem dump_read {c : Catalog} {f : Flow} (sound : f.Sound c) (natural : ∀ n ∈ f.nodes, 0 ≤ n.id)
    (keyed : ∀ n ∈ f.nodes, n.type.key ≠ "") (worded : f.isWorded = true) (encodable : f.Encodable)
    (brief : f.Brief) (version : String) :
    ∃ text g, f.dump = .ok text ∧ (Flow.read c version text).result = .ok g ∧ StoredAs f g := by
  have writable (n : Node) (hn : n ∈ f.nodes) : n.Writable :=
    ⟨natural n hn, keyed n hn, (encodable.nodes n hn).key, isWorded_iff.mp worded n hn⟩
  have dumped := dump_eq_ok_iff.mpr ⟨write_ok sound.distinct writable,
    (encodable_iff sound.distinct).mpr encodable⟩
  refine ⟨_, _, dumped, ?_, storedAs_reloaded sound.distinct natural⟩
  rw [read_written sound writable, if_pos ((flowJson_brief_iff sound.distinct).mpr brief)]

/-- Two nodes that follow each other, one with a constant that looks like a number and a reference
to a node that is not there. -/
def pairFlow : Flow where
  name := "Zähler"
  nodes := [⟨0, .trigger, "start", [], [3]⟩,
    ⟨3, .addition, "sum", [.constant (.text "1.0"), .output 9 (-2)], [0]⟩]
  start := 0
  counter := 3

theorem dump_read_pairFlow :
    pairFlow.Sound Catalog.standard ∧
      ∃ text g, pairFlow.dump = .ok text ∧
        (Flow.read Catalog.standard "1" text).result = .ok g ∧ StoredAs pairFlow g := by
  have sound : pairFlow.Sound Catalog.standard := by
    refine ⟨by decide, ?_, by decide⟩
    simp only [pairFlow, List.forall_mem_cons]
    exact ⟨⟨rfl, rfl⟩, ⟨rfl, rfl⟩, by simp⟩
  have brief : pairFlow.Brief := by
    refine ⟨by decide +kernel, ?_⟩
    simp only [pairFlow, List.forall_mem_cons]
    refine ⟨⟨by decide +kernel, by simp, ?_⟩, ⟨by decide +kernel, ?_, ?_⟩, by simp⟩
    · simp only [List.forall_mem_cons]
      exact ⟨by decide +kernel, by simp⟩
    · simp only [List.forall_mem_cons]
      exact ⟨trivial, ⟨by decide +kernel, by decide +kernel⟩, by simp⟩
    · simp only [List.forall_mem_cons]
      exact ⟨by decide +kernel, by simp⟩
  have encodable : pairFlow.Encodable := by
    have name : ("Zähler".toList.all fun c => (Text.halfPair? c).isNone) = true := rfl
    refine ⟨fun c member => Option.isNone_iff_eq_none.mp (List.all_eq_true.mp name c member), ?_⟩
    simp only [pairFlow, List.forall_mem_cons]
    refine ⟨⟨Text.halfPair?_ascii rfl, Text.halfPair?_ascii rfl, by simp⟩,
      ⟨Text.halfPair?_ascii rfl, Text.halfPair?_ascii rfl, ?_⟩, by simp⟩
    simp only [List.forall_mem_cons, Reference.Encodable]
    exact ⟨Text.halfPair?_ascii rfl, trivial, by simp⟩
  exact ⟨sound, dump_read sound (by decide) (by decide) rfl encodable brief "1"⟩

/-- A type of nodes under the empty key. -/
def namelessType : NodeType := { NodeType.dummy with key := "" }

def namelessFlow : Flow where
  name := "nameless"
  nodes := [⟨0, namelessType, "start", [], [-1]⟩]
  start := 0
  counter := 0

/-- A flow without nodes whose start has 4301 digits. -/
def distantFlow : Flow := { Flow.empty "distant" with start := 10 ^ Text.digitLimit }

/-- A flow with one constant. -/
def holding (value : Value) : Flow where
  name := "holding"
  nodes := [⟨1, .condition, "test", [.constant value], [-1, -1]⟩]
  start := 1
  counter := 1

theorem sound_holding (value : Value) : (holding value).Sound Catalog.standard := by
  refine ⟨List.nodup_singleton _, ?_, ?_⟩
  · simp only [holding, List.forall_mem_singleton]
    exact ⟨rfl, rfl⟩
  · simp only [holding, List.forall_mem_singleton]
    rfl

/-- It is dumped and read again exactly if the constant can be put into words and sent. -/
theorem readable_holding (value : Value) (version : String) :
    (∃ text g, (holding value).dump = .ok text ∧
      (Flow.read Catalog.standard version text).result = .ok g) ↔
        value.isBrief = true ∧ ∀ ch ∈ value.wire.toList, Text.halfPair? ch = none := by
  rw [readable_iff (sound_holding value)]
  have condition : NodeType.condition.key ≠ "" ∧
    ∀ ch ∈ NodeType.condition.key.toList, Text.halfPair? ch = none :=
    ⟨by decide, Text.halfPair?_ascii rfl⟩
  have names : (∀ ch ∈ "holding".toList, Text.halfPair? ch = none) ∧
    ∀ ch ∈ "test".toList, Text.halfPair? ch = none :=
    ⟨Text.halfPair?_ascii rfl, Text.halfPair?_ascii rfl⟩
  have one : EventFlow.Brief 1 := brief_of_natAbs_le (by decide)
  have none' : EventFlow.Brief (-1) := brief_of_natAbs_le (by decide)
  constructor
  · rintro ⟨writable, encodable, -⟩
    exact ⟨(writable _ List.mem_cons_self).worded _ List.mem_cons_self,
      (encodable.nodes _ List.mem_cons_self).inputs _ List.mem_cons_self⟩
  · rintro ⟨worded, whole⟩
    refine ⟨?_, ⟨names.1, ?_⟩, one, ?_⟩ <;>
      simp only [holding, List.forall_mem_singleton]
    · exact ⟨Int.le_of_lt Int.one_pos, condition.1, condition.2,
        List.forall_mem_singleton.mpr worded⟩
    · exact ⟨names.2, condition.2, List.forall_mem_singleton.mpr whole⟩
    · exact ⟨one, List.forall_mem_singleton.mpr trivial, by simp [none']⟩

/-- Half of a pair, as a text. -/
def halfText : Value := .text (String.ofList [Text.standIn 0xd800])

/-- None of these comes back: a node of a type under the empty key, a start of too many digits, a
constant with half of a pair in it and a constant of too many digits. -/
theorem unreadable_flows :
    (namelessFlow.Sound [namelessType] ∧ (∀ n ∈ namelessFlow.nodes, 0 ≤ n.id) ∧
      ¬∃ text g, namelessFlow.dump = .ok text ∧
        (Flow.read [namelessType] "1" text).result = .ok g) ∧
    ∀ f, f = distantFlow ∨ f = holding halfText ∨ f = holding (.int (10 ^ Text.digitLimit)) →
      f.Sound Catalog.standard ∧ (∀ n ∈ f.nodes, 0 ≤ n.id) ∧
        ¬∃ text g, f.dump = .ok text ∧ (Flow.read Catalog.standard "1" text).result = .ok g := by
  have nameless : namelessFlow.Sound [namelessType] := by
    refine ⟨by decide, ?_, by decide⟩
    simp only [namelessFlow, List.forall_mem_cons]
    exact ⟨⟨rfl, rfl⟩, by simp⟩
  refine ⟨⟨nameless, by decide, ?_⟩, ?_⟩
  · rw [readable_iff nameless]
    rintro ⟨writable, -⟩
    exact (writable _ List.mem_cons_self).key rfl
  rintro f (rfl | rfl | rfl)
  · have distant : distantFlow.Sound Catalog.standard := by
      refine ⟨List.nodup_nil, ?_, ?_⟩ <;> simp [distantFlow, Flow.empty]
    refine ⟨distant, by simp [distantFlow, Flow.empty], ?_⟩
    rw [readable_iff distant]
    rintro ⟨-, -, start, -⟩
    exact not_brief_limit start
  · refine ⟨sound_holding _, by simp [holding], ?_⟩
    rw [readable_holding]
    rintro ⟨-, whole⟩
    have half : Text.halfPair? (Text.standIn 0xd800) = none :=
      whole _ (by simp [halfText, Value.wire])
    cases half
  · refine ⟨sound_holding _, by simp [holding], ?_⟩
    rw [readable_holding, Value.isBrief_eq_false_iff.mpr ⟨_, rfl, not_brief_limit⟩]
    exact fun short => Bool.noConfusion short.1

end Flow

end EventFlow
