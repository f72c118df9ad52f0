import EventFlow.Proofs.Document.Loading

/-!
A document loads as a whole or not at all.

* `Means`, `Describes`: what the entries of a document stand for, slot by slot, and the flow that a
  whole document describes;
* `Refused`: the first entry that repeats an id, has a type that the catalog does not hold or cannot
  be put into words, and after all entries a start that cannot;
* `toFlow_loads`: a document gives the flow that it describes, unless it is refused.
-/

namespace EventFlow

namespace Document

/-- The source that an input entry stands for. -/
inductive InputEntry.Means (e : InputEntry) : Reference → Prop where
  | constant {text : String} (kind : e.kind = "const") (given : e.value.literal? = some text) :
      e.Means (.constant (Value.autoCast text))
  | absent (kind : e.kind = "const") (null : e.value = .null) : e.Means .empty
  | output {id : Int} (kind : e.kind = "reference") (given : e.id = some id) :
      e.Means (.output id (e.index.getD 0))
  | loose (kind : e.kind = "reference") (missing : e.id = none) : e.Means .empty
  | unknown (notConstant : e.kind ≠ "const") (notReference : e.kind ≠ "reference") :
      e.Means .empty

/-- The node that an entry describes. Its slots are those of its type: those that the entry gives
are as it says, the others are not connected. -/
structure NodeEntry.Describes (c : Catalog) (e : NodeEntry) (n : Node) : Prop where
  id : n.id = e.id
  name : n.name = e.name
  type : c.find? e.type = some n.type
  fits : n.Fits
  input : ∀ i < n.inputCount, ∀ entry, e.inputs[i]? = some entry →
    ∃ source, n.inputs[i]? = some source ∧ entry.Means source
  noInput : ∀ i < n.inputCount, e.inputs[i]? = none → n.inputs[i]? = some .empty
  next : ∀ i < n.branchCount, ∀ id, e.next[i]? = some id →
    n.next[i]? = some (if 0 ≤ id then id else -1)
  noNext : ∀ i < n.branchCount, e.next[i]? = none → n.next[i]? = some (-1)

/-- The flow that a document describes, whether its start is there or not. -/
structure Describes (c : Catalog) (d : Document) (f : Flow) : Prop where
  name : f.name = d.name
  start : f.start = d.start
  nodes : List.Forall₂ (NodeEntry.Describes c) d.nodes f.nodes
  counted : f.Counted

/-- Entries with ids of their own and types that the catalog holds, in which nothing is too long to
be put into words. -/
structure Sound (c : Catalog) (entries : List NodeEntry) : Prop where
  distinct : (entries.map NodeEntry.id).Nodup
  registered : ∀ e ∈ entries, c.has e.type
  worded : ∀ e ∈ entries, ∀ type, c.find? e.type = some type → e.isWorded type = true

/-- A start that is one of the nodes, or can be put into words as one that is not. -/
def Startable (d : Document) : Prop :=
  d.start ∈ d.nodes.map NodeEntry.id ∨ Brief d.start

/-- Why a document is refused: for the first entry that repeats an earlier id, has a type that the
catalog does not hold, or has no words. One that repeats an id is refused for that, and one of an
unknown type for its type. If all entries are fine, the start may still have no words. -/
inductive Refused (c : Catalog) (d : Document) : LoadError → Prop where
  | repeated {good rest : List NodeEntry} {e : NodeEntry} (split : d.nodes = good ++ e :: rest)
      (sound : Sound c good) (again : e.id ∈ good.map NodeEntry.id) :
      Refused c d (.repeated e.id d.name)
  | unknownType {good rest : List NodeEntry} {e : NodeEntry} (split : d.nodes = good ++ e :: rest)
      (sound : Sound c good) (new : e.id ∉ good.map NodeEntry.id)
      (unknown : c.find? e.type = none) : Refused c d (.unknownType ⟨e.type⟩)
  | mute {good rest : List NodeEntry} {e : NodeEntry} {type : NodeType}
      (split : d.nodes = good ++ e :: rest) (sound : Sound c good)
      (new : e.id ∉ good.map NodeEntry.id) (found : c.find? e.type = some type)
      (long : e.isWorded type = false) : Refused c d (.wording .tooManyDigits)
  | start (sound : Sound c d.nodes) (long : ¬d.Startable) : Refused c d (.wording .tooManyDigits)

/-- What loading a document gives. -/
structure Loads (c : Catalog) (d : Document) (result : Except LoadError Flow) : Prop where
  succeeds : (∃ f, result = .ok f) ↔ Sound c d.nodes ∧ d.Startable
  whole : ∀ f, result = .ok f → d.Describes c f
  refused : ∀ error, result = .error error ↔ d.Refused c error

/-! ## Entries -/

theorem literal?_eq_none {json : Json} (none : json.literal? = none) : json = .null := by
  cases json <;> first | rfl | cases none

theorem reference_means (e : InputEntry) : e.Means e.reference := by
  unfold InputEntry.reference
  by_cases constant : e.kind = "const"
  · rw [if_pos constant]
    cases given : e.value.literal? with
    | none => exact .absent constant (literal?_eq_none given)
    | some text => exact .constant constant given
  · rw [if_neg constant]
    by_cases reference : e.kind = "reference"
    · rw [if_pos reference]
      cases given : e.id with
      | none => exact .loose reference given
      | some id => exact .output reference given
    · rw [if_neg reference]
      exact .unknown constant reference

section Fill

variable {α : Type} {slots entries : List α} {i : Nat}

theorem fill_given (slot : i < slots.length) {a : α} (given : entries[i]? = some a) :
    (fill slots entries)[i]? = some a := by
  have within : i < entries.length := (List.getElem?_eq_some_iff.1 given).1
  rw [fill, List.getElem?_append_left (by simp; omega), List.getElem?_take_of_lt slot, given]

theorem fill_missing (slot : i < slots.length) (missing : entries[i]? = none) :
    (fill slots entries)[i]? = slots[i]? := by
  have beyond : entries.length ≤ i := List.getElem?_eq_none_iff.1 missing
  have whole : entries.take slots.length = entries := List.take_of_length_le (by omega)
  rw [fill, whole, List.getElem?_append_right beyond, List.getElem?_drop,
    Nat.add_sub_cancel' beyond]

end Fill

theorem node_describes {c : Catalog} {e : NodeEntry} {type : NodeType}
    (found : c.find? e.type = some type) : e.Describes c (e.node type) := by
  have fits := Node.fits_fresh type e.id e.name
  have inputs {i : Nat} (slot : i < (e.node type).inputCount) :
      i < (Node.fresh type e.id e.name).inputs.length := fits.inputs ▸ slot
  have next {i : Nat} (slot : i < (e.node type).branchCount) :
      i < (Node.fresh type e.id e.name).next.length := fits.next ▸ slot
  refine ⟨rfl, rfl, found, ⟨?_, ?_⟩, ?_, ?_, ?_, ?_⟩
  · exact (length_fill _ _).trans fits.inputs
  · exact (length_fill _ _).trans fits.next
  · intro i slot entry given
    exact ⟨entry.reference, fill_given (inputs slot) (by rw [List.getElem?_map, given]; rfl),
      reference_means entry⟩
  · intro i slot missing
    refine (fill_missing (inputs slot) (by rw [List.getElem?_map, missing]; rfl)).trans ?_
    have port : i < type.layout.inputs.length := slot
    simp [Node.fresh, port]
  · intro i slot id given
    exact fill_given (next slot) (by rw [List.getElem?_map, given]; rfl)
  · intro i slot missing
    refine (fill_missing (next slot) (by rw [List.getElem?_map, missing]; rfl)).trans ?_
    have port : i < type.layout.branches.length := slot
    simp [Node.fresh, port]

/-! ## Refusals -/

section Refusal

variable {c : Catalog} {d : Document} {good more rest : List NodeEntry} {e : NodeEntry}

theorem Sound.nil : Sound c [] :=
  ⟨List.nodup_nil, by simp, by simp⟩

/-- An entry that is fine after others. -/
structure Admits (c : Catalog) (good : List NodeEntry) (e : NodeEntry) : Prop where
  new : e.id ∉ good.map NodeEntry.id
  registered : c.has e.type
  worded : ∀ type, c.find? e.type = some type → e.isWorded type = true

theorem Sound.concat (sound : Sound c good) (admits : Admits c good e) :
    Sound c (good ++ [e]) := by
  refine ⟨?_, ?_, ?_⟩
  · rw [List.map_append, List.nodup_append]
    refine ⟨sound.distinct, List.nodup_singleton _, ?_⟩
    intro id known other own same
    obtain rfl : other = e.id := by simpa using own
    exact admits.new (same ▸ known)
  · intro entry mem
    rcases List.mem_append.1 mem with mem | mem
    · exact sound.registered entry mem
    · exact List.mem_singleton.1 mem ▸ admits.registered
  · intro entry mem
    rcases List.mem_append.1 mem with mem | mem
    · exact sound.worded entry mem
    · exact List.mem_singleton.1 mem ▸ admits.worded

/-- Every entry is fine after those before it. -/
theorem Sound.admits (sound : Sound c (good ++ e :: more)) : Admits c good e := by
  refine ⟨?_, sound.registered e (by simp), sound.worded e (by simp)⟩
  intro known
  have distinct := sound.distinct
  rw [List.map_append, List.nodup_append] at distinct
  exact distinct.2.2 e.id known e.id (by simp) rfl

/-- The entry for which a document is refused. -/
def Faulty (c : Catalog) (good : List NodeEntry) (e : NodeEntry) : Prop :=
  Sound c good ∧ ¬Admits c good e

/-- What a document is refused for, if it is one of its entries. -/
def blame (c : Catalog) (d : Document) (good : List NodeEntry) (e : NodeEntry) : LoadError :=
  if e.id ∈ good.map NodeEntry.id then .repeated e.id d.name
  else if c.find? e.type = none then .unknownType ⟨e.type⟩
  else .wording .tooManyDigits

theorem Refused.faulty {error : LoadError} (refused : d.Refused c error) :
    (∃ good e rest, d.nodes = good ++ e :: rest ∧ Faulty c good e ∧ error = blame c d good e) ∨
      Sound c d.nodes ∧ ¬d.Startable ∧ error = .wording .tooManyDigits := by
  cases refused with
  | repeated split sound again =>
    refine .inl ⟨_, _, _, split, ⟨sound, fun fine => fine.new again⟩, ?_⟩
    rw [blame, if_pos again]
  | unknownType split sound new unknown =>
    refine .inl ⟨_, _, _, split, ⟨sound, fun fine => ?_⟩, ?_⟩
    · have registered := fine.registered
      simp [Catalog.has, unknown] at registered
    · rw [blame, if_neg new, if_pos unknown]
  | mute split sound new found long =>
    refine .inl ⟨_, _, _, split, ⟨sound, fun fine => ?_⟩, ?_⟩
    · rw [fine.worded _ found] at long
      cases long
    · rw [blame, if_neg new, if_neg (by simp [found])]
  | start sound long => exact .inr ⟨sound, long, rfl⟩

/-- There is one such entry at most. -/
theorem Faulty.unique {good' rest' : List NodeEntry} {e' : NodeEntry} (h : Faulty c good e)
    (h' : Faulty c good' e') (same : good ++ e :: rest = good' ++ e' :: rest') :
    good = good' ∧ e = e' := by
  rcases List.append_eq_append_iff.1 same with ⟨more, longer, tail⟩ | ⟨more, longer, tail⟩
  · cases more with
    | nil =>
      obtain ⟨rfl, -⟩ := List.cons.inj tail
      exact ⟨by simpa using longer.symm, rfl⟩
    | cons first more =>
      obtain ⟨rfl, -⟩ := List.cons.inj tail
      exact absurd (longer ▸ h'.1).admits h.2
  · cases more with
    | nil =>
      obtain ⟨rfl, -⟩ := List.cons.inj tail
      exact ⟨by simpa using longer, rfl⟩
    | cons first more =>
      obtain ⟨rfl, -⟩ := List.cons.inj tail
      exact absurd (longer ▸ h.1).admits h'.2

theorem Refused.unique {error error' : LoadError} (refused : d.Refused c error)
    (refused' : d.Refused c error') : error = error' := by
  rcases refused.faulty with ⟨good, e, rest, split, faulty, rfl⟩ | ⟨sound, -, rfl⟩ <;>
    rcases refused'.faulty with ⟨good', e', rest', split', faulty', rfl⟩ | ⟨sound', -, rfl⟩
  · obtain ⟨rfl, rfl⟩ := faulty.unique faulty' (split.symm.trans split')
    rfl
  · exact absurd (split ▸ sound').admits faulty.2
  · exact absurd (split' ▸ sound).admits faulty'.2
  · rfl

theorem Refused.not_sound {error : LoadError} (refused : d.Refused c error) :
    ¬(Sound c d.nodes ∧ d.Startable) := by
  rintro ⟨sound, startable⟩
  rcases refused.faulty with ⟨good, e, rest, split, faulty, -⟩ | ⟨-, long, -⟩
  · exact faulty.2 (split ▸ sound).admits
  · exact long startable

end Refusal

/-- A document that is refused gives nothing, and for no other reason. -/
theorem loads_refused {c : Catalog} {d : Document} {error : LoadError}
    (refused : d.Refused c error) : d.Loads c (.error error) := by
  refine ⟨⟨fun made => ?_, fun sound => absurd sound refused.not_sound⟩, ?_, ?_⟩
  · obtain ⟨f, made⟩ := made
    cases made
  · intro f made
    cases made
  · intro error'
    constructor
    · intro same
      exact Except.error.inj same ▸ refused
    · intro refused'
      rw [refused.unique refused']

/-! ## Documents -/

/-- The ids of a validated entry are natural. -/
theorem NodeEntry.natural_of_check {json : Json} {e : NodeEntry}
    (validated : NodeEntry.check json = .ok e) : 0 ≤ e.id := by
  cases json with
  | object members =>
    obtain ⟨⟨id, type, name, inputs, next⟩, checked, rfl⟩ := Schema.Check.map_eq_ok.mp validated
    obtain ⟨given, -⟩ := Schema.Check.both_eq_ok.mp checked
    obtain ⟨x, -, natural⟩ := Schema.required_eq_ok.mp given
    exact (Schema.natural_eq_ok.mp natural).2
  | null | bool | int | float | text | array => cases validated

theorem natural_of_check {json : Json} {d : Document} (validated : check json = .ok d) :
    ∀ e ∈ d.nodes, 0 ≤ e.id := by
  cases json with
  | object members =>
    obtain ⟨⟨name, version, engine, start, nodes⟩, checked, rfl⟩ :=
      Schema.Check.map_eq_ok.mp validated
    obtain ⟨-, rest⟩ := Schema.Check.both_eq_ok.mp checked
    obtain ⟨-, rest⟩ := Schema.Check.both_eq_ok.mp rest
    obtain ⟨-, rest⟩ := Schema.Check.both_eq_ok.mp rest
    obtain ⟨-, given⟩ := Schema.Check.both_eq_ok.mp rest
    intro e mem
    rcases Schema.optional_eq_ok.mp given with ⟨-, rfl⟩ | ⟨x, -, passes⟩
    · cases mem
    · obtain ⟨items, rfl, each⟩ := Schema.list_eq_ok.mp passes
      obtain ⟨item, -, entry⟩ := List.exists_of_forall₂ each mem
      exact NodeEntry.natural_of_check entry
  | null | bool | int | float | text | array => cases validated

/-- A flow that holds the nodes of the entries so far, all of which are fine. -/
structure Begun (c : Catalog) (name : String) (good : List NodeEntry) (f : Flow) : Prop where
  sound : Sound c good
  name : f.name = name
  nodes : List.Forall₂ (NodeEntry.Describes c) good f.nodes
  counted : f.Counted

section AddNodes

variable {c : Catalog} {d : Document} {name : String} {good rest : List NodeEntry}
  {e : NodeEntry} {f : Flow}

theorem begun_empty (c : Catalog) (name : String) : Begun c name [] (Flow.empty name) :=
  ⟨.nil, rfl, .nil, Or.inl ⟨rfl, rfl⟩⟩

theorem Begun.ids (begun : Begun c name good f) :
    f.nodes.map Node.id = good.map NodeEntry.id := by
  have each := begun.nodes
  clear begun
  generalize f.nodes = nodes at each ⊢
  induction each with
  | nil => rfl
  | cons first _ ih => rw [List.map_cons, List.map_cons, first.id, ih]

theorem Begun.has_iff (begun : Begun c name good f) (id : Int) :
    f.has id ↔ id ∈ good.map NodeEntry.id := by
  rw [← begun.ids]
  constructor
  · intro known
    by_contra new
    rw [has_eq_false new] at known
    cases known
  · intro known
    obtain ⟨n, mem, same⟩ := List.mem_map.1 known
    rw [Flow.has, Flow.node?, List.find?_isSome]
    exact ⟨n, mem, by simpa using same⟩

/-- One more entry that is fine. -/
theorem Begun.concat (begun : Begun c name good f) (natural : 0 ≤ e.id)
    (new : e.id ∉ good.map NodeEntry.id) {type : NodeType} (found : c.find? e.type = some type)
    (worded : e.isWorded type = true) :
    Begun c name (good ++ [e]) (f.addNode (e.node type)) := by
  have registered : c.has e.type := by rw [Catalog.has, found]; rfl
  have unused : (e.node type).id ∉ f.nodes.map Node.id := begun.ids ▸ new
  have admits : Admits c good e := by
    refine ⟨new, registered, fun other there => ?_⟩
    rw [found] at there
    exact Option.some.inj there ▸ worded
  refine ⟨begun.sound.concat admits, begun.name, ?_,
    Flow.counted_addNode begun.counted natural unused⟩
  have nodes : (f.addNode (e.node type)).nodes = f.nodes ++ [e.node type] := insert_new unused
  rw [nodes]
  exact List.rel_append begun.nodes (.cons (node_describes found) .nil)

/-- Adding the entries that are left gives the flow of all of them, or the refusal of the
document. -/
theorem addNodes_begun (begun : Begun c d.name good f) (whole : d.nodes = good ++ rest)
    (natural : ∀ e ∈ rest, 0 ≤ e.id) :
    (∃ g, (addNodes c f rest).result = .ok g ∧ Begun c d.name d.nodes g) ∨
      ∃ error, (addNodes c f rest).result = .error error ∧ d.Refused c error := by
  induction rest generalizing good f with
  | nil =>
    rw [List.append_nil] at whole
    exact .inl ⟨f, rfl, whole ▸ begun⟩
  | cons e rest ih =>
    unfold addNodes
    by_cases known : f.has e.id = true
    · rw [if_pos known, begun.name]
      exact .inr ⟨.repeated e.id d.name, by dsimp only,
        .repeated whole begun.sound ((begun.has_iff e.id).1 known)⟩
    · have new : e.id ∉ good.map NodeEntry.id := fun again => known ((begun.has_iff e.id).2 again)
      rw [if_neg known]
      cases found : c.find? e.type with
      | none => exact .inr ⟨_, rfl, .unknownType whole begun.sound new found⟩
      | some type =>
        obtain ⟨first, others⟩ := List.forall_mem_cons.1 natural
        dsimp only
        split
        · rename_i worded
          exact ih (begun.concat first new found worded) (by rw [whole, List.append_assoc]; rfl)
            others
        · rename_i mute
          exact .inr ⟨_, rfl, .mute whole begun.sound new found (Bool.eq_false_of_not_eq_true mute)⟩

theorem Begun.startable (begun : Begun c d.name d.nodes f) :
    d.Startable ↔ (f.node? d.start).isSome = true ∨ Brief d.start := by
  have known := begun.has_iff d.start
  rw [Flow.has] at known
  rw [known, Startable]

/-- A validated document gives the flow that it describes, or the refusal of its first faulty
entry. -/
theorem toFlow_loads (version : String) (natural : ∀ e ∈ d.nodes, 0 ≤ e.id) :
    d.Loads c (d.toFlow c version).result := by
  unfold toFlow
  rcases addNodes_begun (begun_empty c d.name) (List.nil_append d.nodes).symm natural with
    ⟨f, added, begun⟩ | ⟨error, added, refused⟩
  · simp only [added]
    by_cases startable : d.Startable
    · obtain ⟨log, said⟩ := Flow.exists_setStartLog (begun.startable.mp startable)
      simp only [said]
      refine ⟨⟨fun _ => ⟨begun.sound, startable⟩, fun _ => ⟨_, rfl⟩⟩, ?_, ?_⟩
      · rintro g made
        obtain rfl := Except.ok.inj made
        exact ⟨begun.name, rfl, begun.nodes, begun.counted⟩
      · intro error
        refine iff_of_false ?_ fun refused => refused.not_sound ⟨begun.sound, startable⟩
        intro failed
        cases failed
    · have mute : f.setStartLog d.start = .error .tooManyDigits := by
        rw [begun.startable, not_or] at startable
        rw [Flow.setStartLog, Flow.has, if_neg startable.1, Text.ofInt_long startable.2]
        rfl
      simp only [mute]
      exact loads_refused (.start begun.sound startable)
  · simp only [added]
    exact loads_refused refused

end AddNodes

end Document

end EventFlow
