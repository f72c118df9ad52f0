import EventFlow.Proofs.Edit.History
import EventFlow.Proofs.Traverse

/-!
What holds of the structure of every flow that was only ever edited.

* `Flow.Regular`: an event starts the flow, names are distinct, ids and links were handed out, and
  references read outputs that there are;
* `Does.regular`: a command keeps the structure so;
* `regular_next`: a request keeps all structures so that undo and redo can come back to;
* `edits_keep_regular`: however a new flow is edited, it is regular.
-/

namespace EventFlow

/-- A node of a flow with a look-up of nodes, where the ids up to `last` were handed out. -/
structure Node.Regular (c : Catalog) (last : Int) (node? : Int → Option Node) (n : Node) :
    Prop where
  registered : n.Registered c
  fits : n.Fits
  id : 1 ≤ n.id ∧ n.id ≤ last
  next : ∀ next ∈ n.next, next = -1 ∨ (1 ≤ next ∧ next ≤ last)
  inputs : ∀ id index : Int, .output id index ∈ n.inputs → (1 ≤ id ∧ id ≤ last) ∧
    ∀ m, node? id = some m → 0 ≤ index ∧ index < m.outputCount

/-- A flow as editing leaves it: an event starts it, no two nodes share an id or a name, and all
links are to ids that were handed out. -/
structure Flow.Regular (c : Catalog) (f : Flow) : Prop where
  distinct : f.Distinct
  start : ∃ n, f.node? f.start = some n ∧ n.type.isEvent = true
  names : (f.nodes.map Node.name).Nodup
  nodes : ∀ n ∈ f.nodes, n.Regular c f.counter f.node?

/-- A regular structure, where the ids up to `last` were handed out. -/
structure Shape.Regular (c : Catalog) (last : Int) (s : Shape) : Prop where
  start : ∃ n, s.node? s.start = some n ∧ n.type.isEvent = true
  names : ∀ i j m n, s.node? i = some m → s.node? j = some n → m.name = n.name → i = j
  own : ∀ id n, s.node? id = some n → n.id = id
  nodes : ∀ id n, s.node? id = some n → n.Regular c last s.node?

theorem Flow.Regular.shape {c : Catalog} {f : Flow} (h : f.Regular c) :
    f.shape.Regular c f.counter where
  start := h.start
  names i j m n hi hj same := by
    obtain ⟨hm, rfl⟩ := mem_of_node? hi
    obtain ⟨hn, rfl⟩ := mem_of_node? hj
    rw [List.inj_on_of_nodup_map h.names hm hn same]
  own id n found := (mem_of_node? found).2
  nodes id n found := h.nodes n (mem_of_node? found).1

theorem Flow.Regular.startable {c : Catalog} {f : Flow} (h : f.Regular c) : f.shape.Startable := by
  obtain ⟨n, starts, -⟩ := h.start
  exact .inl (Option.isSome_iff_exists.mpr ⟨n, starts⟩)

theorem Flow.regular_of_shape {c : Catalog} {f : Flow} (distinct : f.Distinct)
    (h : f.shape.Regular c f.counter) : f.Regular c where
  distinct := distinct
  start := h.start
  names := by
    refine (List.nodup_map_iff_inj_on (List.Nodup.of_map _ distinct)).mpr ?_
    intro m hm n hn same
    have sameId := h.names _ _ m n (node?_of_mem distinct hm) (node?_of_mem distinct hn) same
    exact List.inj_on_of_nodup_map distinct hm hn sameId
  nodes n hn := h.nodes _ n (node?_of_mem distinct hn)

theorem Flow.Regular.editable {c : Catalog} {f : Flow} (h : f.Regular c) : f.Editable c where
  distinct := h.distinct
  bounded n hn := (h.nodes n hn).id.2
  current n hn := (h.nodes n hn).registered.current

namespace Shape

/-- Of the ids up to `last`, those that are in use in `t` were in use in `s`, with the same number
of outputs. -/
def Follows (last : Int) (s t : Shape) : Prop :=
  ∀ id n, id ≤ last → t.node? id = some n →
    ∃ m, s.node? id = some m ∧ m.outputCount = n.outputCount

variable {c : Catalog} {last : Int} {s t : Shape}

theorem follows_rfl : Follows last s s := fun _ n _ found => ⟨n, found, rfl⟩

theorem follows_put {n : Node} (new : last < n.id) : Follows last s (s.put n) := by
  intro id m bound found
  have other : id ≠ n.id := by omega
  exact ⟨m, by simpa [put, other] using found, rfl⟩

theorem follows_erase (removed : Int) : Follows last s (s.erase removed) := by
  intro id m _ found
  by_cases h : id = removed
  · simp [erase, h] at found
  · exact ⟨m, by simpa [erase, h] using found, rfl⟩

theorem follows_modify {n : Node} {change : Node → Node} (present : s.node? n.id = some n)
    (type : (change n).type = n.type) : Follows last s (s.modify n.id change) := by
  intro id m _ found
  by_cases h : id = n.id
  · subst h
    simp only [modify, ↓reduceIte, present, Option.map_some, Option.some.injEq] at found
    subst found
    exact ⟨n, present, by simp only [Node.outputCount, type]⟩
  · exact ⟨m, by simpa [modify, h] using found, rfl⟩

/-- A node stays regular when ids are handed out and nodes come and go. -/
theorem node_follows {n : Node} {last' : Int} (h : n.Regular c last s.node?) (le : last ≤ last')
    (follows : Follows last s t) : n.Regular c last' t.node? where
  registered := h.registered
  fits := h.fits
  id := ⟨h.id.1, Int.le_trans h.id.2 le⟩
  next next hnext := (h.next next hnext).imp_right fun ⟨lower, upper⟩ =>
    ⟨lower, Int.le_trans upper le⟩
  inputs id index source := by
    obtain ⟨⟨lower, upper⟩, reads⟩ := h.inputs id index source
    refine ⟨⟨lower, Int.le_trans upper le⟩, ?_⟩
    intro m found
    obtain ⟨old, before, same⟩ := follows id m upper found
    rw [← same]
    exact reads old before

namespace Regular

theorem mono {last' : Int} (h : s.Regular c last) (le : last ≤ last') : s.Regular c last' where
  start := h.start
  names := h.names
  own := h.own
  nodes id n found := node_follows (h.nodes id n found) le follows_rfl

theorem start_bounds (h : s.Regular c last) : 1 ≤ s.start ∧ s.start ≤ last := by
  obtain ⟨n, found, -⟩ := h.start
  rw [← h.own _ n found]
  exact (h.nodes _ n found).id

/-- The id after the last one belongs to no node. -/
theorem absent (h : s.Regular c last) : s.node? (last + 1) = none := by
  cases found : s.node? (last + 1) with
  | none => rfl
  | some n =>
    have upper := (h.nodes _ n found).id.2
    rw [h.own _ n found] at upper
    omega

/-- A structure of which only one node is new or changed is regular if that node is, and if no other
node has its name. -/
theorem of_one {last' : Int} {n : Node} (h : s.Regular c last) (le : last ≤ last')
    (follows : Follows last s t) (regular : n.Regular c last' t.node?)
    (others : ∀ id m, t.node? id = some m →
      (id = n.id ∧ m = n) ∨ (s.node? id = some m ∧ m.name ≠ n.name))
    (start : ∃ n, t.node? t.start = some n ∧ n.type.isEvent = true) : t.Regular c last' where
  start := start
  names i j m k hi hj same := by
    rcases others i m hi with ⟨rfl, rfl⟩ | ⟨hi, otherName⟩
    · rcases others j k hj with ⟨rfl, rfl⟩ | ⟨hj, otherName⟩
      · rfl
      · exact absurd same.symm otherName
    · rcases others j k hj with ⟨rfl, rfl⟩ | ⟨hj, -⟩
      · exact absurd same otherName
      · exact h.names i j m k hi hj same
  own id m found := by
    rcases others id m found with ⟨rfl, rfl⟩ | ⟨before, -⟩
    · rfl
    · exact h.own id m before
  nodes id m found := by
    rcases others id m found with ⟨-, rfl⟩ | ⟨before, -⟩
    · exact regular
    · exact node_follows (h.nodes id m before) le follows

theorem erase {removed : Int} (h : s.Regular c last) (other : removed ≠ s.start) :
    (s.erase removed).Regular c last := by
  have kept : ∀ id m, (s.erase removed).node? id = some m → s.node? id = some m := by
    intro id m found
    by_cases same : id = removed
    · simp [Shape.erase, same] at found
    · simpa [Shape.erase, same] using found
  obtain ⟨n, found, event⟩ := h.start
  constructor
  · refine ⟨n, ?_, event⟩
    simpa [Shape.erase, other.symm] using found
  · exact fun i j m n hi hj same => h.names i j m n (kept i m hi) (kept j n hj) same
  · exact fun id m found => h.own id m (kept id m found)
  · exact fun id m found => node_follows (h.nodes id m (kept id m found)) (Int.le_refl _)
      (follows_erase removed)

theorem put {n : Node} (h : s.Regular c last) (id : n.id = last + 1)
    (regular : n.Regular c (last + 1) (s.put n).node?)
    (free : ∀ id m, s.node? id = some m → m.name ≠ n.name) : (s.put n).Regular c (last + 1) := by
  obtain ⟨m, found, event⟩ := h.start
  have new : last < n.id := by omega
  refine h.of_one (by omega) (follows_put new) regular ?_ ?_
  · intro i k present
    by_cases same : i = n.id
    · refine Or.inl ⟨same, ?_⟩
      simpa [Shape.put, same, eq_comm] using present
    · have before : s.node? i = some k := by simpa [Shape.put, same] using present
      exact Or.inr ⟨before, free i k before⟩
  · have other : s.start ≠ n.id := by
      have := h.start_bounds
      omega
    exact ⟨m, by simpa [Shape.put, other] using found, event⟩

/-- A new start takes the place of the old one. -/
theorem restart {old new : Node} (h : s.Regular c last) (id : new.id = last + 1)
    (regular : ∀ node?, new.Regular c (last + 1) node?) (event : new.type.isEvent = true)
    (starts : s.start = old.id)
    (free : ∀ id m, s.node? id = some m → m.name = new.name → id = old.id) :
    (((s.put new).setStart new.id).erase old.id).Regular c (last + 1) := by
  have bound : old.id ≤ last := starts ▸ h.start_bounds.2
  have other : new.id ≠ old.id := by omega
  have follows : Follows last s (((s.put new).setStart new.id).erase old.id) := by
    intro i m upper present
    obtain ⟨k, found, same⟩ := follows_erase old.id i m upper present
    obtain ⟨j, before, same'⟩ := follows_put (s := s) (by omega) i k upper found
    exact ⟨j, before, same'.trans same⟩
  refine h.of_one (n := new) (by omega) follows (regular _) ?_ ?_
  · intro i m present
    by_cases removed : i = old.id
    · simp [Shape.erase, removed] at present
    · by_cases same : i = new.id
      · refine Or.inl ⟨same, ?_⟩
        simpa [Shape.erase, Shape.setStart, Shape.put, same, other, eq_comm] using present
      · have before : s.node? i = some m := by
          simpa [Shape.erase, Shape.setStart, Shape.put, same, removed] using present
        exact Or.inr ⟨before, fun taken => removed (free i m before taken)⟩
  · exact ⟨new, by simp [Shape.erase, Shape.setStart, Shape.put, other], event⟩

theorem modify {n : Node} {change : Node → Node} (h : s.Regular c last)
    (present : s.node? n.id = some n) (id : (change n).id = n.id)
    (type : (change n).type = n.type) (regular : (change n).Regular c last s.node?)
    (free : ∀ id m, id ≠ n.id → s.node? id = some m → m.name ≠ (change n).name) :
    (s.modify n.id change).Regular c last := by
  have follows : Follows last s (s.modify n.id change) := follows_modify present type
  refine h.of_one (Int.le_refl _) follows (node_follows regular (Int.le_refl _) follows) ?_ ?_
  · intro i m found
    by_cases same : i = n.id
    · refine Or.inl ⟨same.trans id.symm, ?_⟩
      simpa [Shape.modify, same, present, eq_comm] using found
    · have before : s.node? i = some m := by simpa [Shape.modify, same] using found
      exact Or.inr ⟨before, free i m same before⟩
  · obtain ⟨m, found, event⟩ := h.start
    by_cases same : s.start = n.id
    · rw [same, present] at found
      cases found
      refine ⟨change n, ?_, type ▸ event⟩
      simp [Shape.modify, same, present]
    · exact ⟨m, by simpa [Shape.modify, same] using found, event⟩

/-- A node that keeps its name gets other inputs or successors. -/
theorem rewire {n : Node} {change : Node → Node} (h : s.Regular c last)
    (present : s.node? n.id = some n) (id : (change n).id = n.id)
    (type : (change n).type = n.type) (name : (change n).name = n.name)
    (regular : (change n).Regular c last s.node?) : (s.modify n.id change).Regular c last := by
  refine h.modify present id type regular ?_
  intro i m other found same
  exact other (h.names i n.id m n found present (same.trans name))

end Regular

end Shape

namespace Node

variable {c : Catalog} {last : Int} {node? : Int → Option Node} {n : Node}

theorem regular_fresh {type : NodeType} {id : Int} {name : String}
    (found : c.find? type.key = some type) (lower : 1 ≤ id) :
    (fresh type id name).Regular c id node? where
  registered := found
  fits := fits_fresh type id name
  id := ⟨lower, Int.le_refl _⟩
  next next hnext := by
    obtain ⟨-, -, rfl⟩ := List.mem_map.mp hnext
    exact Or.inl rfl
  inputs id index source := by simp [fresh, Reference.empty] at source

theorem Regular.setInput {index : Nat} {source : Reference} (h : n.Regular c last node?)
    (known : ∀ id slot : Int, source = .output id slot → (1 ≤ id ∧ id ≤ last) ∧
      ∀ m, node? id = some m → 0 ≤ slot ∧ slot < m.outputCount) :
    ({ n with inputs := n.inputs.set index source } : Node).Regular c last node? where
  registered := h.registered
  fits := ⟨(List.length_set ..).trans h.fits.inputs, h.fits.next⟩
  id := h.id
  next := h.next
  inputs id slot reads := by
    rcases List.mem_or_eq_of_mem_set reads with reads | same
    · exact h.inputs id slot reads
    · exact known id slot same.symm

theorem Regular.setNext {index : Nat} {next : Int} (h : n.Regular c last node?)
    (known : next = -1 ∨ (1 ≤ next ∧ next ≤ last)) :
    ({ n with next := n.next.set index next } : Node).Regular c last node? where
  registered := h.registered
  fits := ⟨h.fits.inputs, (List.length_set ..).trans h.fits.next⟩
  id := h.id
  next target leads := by
    rcases List.mem_or_eq_of_mem_set leads with leads | rfl
    · exact h.next target leads
    · exact known
  inputs := h.inputs

end Node

namespace Editor

section
variable {c : Catalog} {e : Editor}

/-- A new start that takes over the successors of the old one is regular. -/
theorem regular_inheritNext {last : Int} {type : NodeType} {name : String} {old new : Node}
    {look look' : Int → Option Node} (found : c.find? type.key = some type) (natural : 0 ≤ last)
    (inherits : inheritNext (Node.fresh type (last + 1) name) old = .ok new)
    (regular : old.Regular c last look) : new.Regular c (last + 1) look' := by
  have fresh : (Node.fresh type (last + 1) name).Regular c (last + 1) look' :=
    Node.regular_fresh found (by omega)
  have fits := fits_inheritNext fresh.fits inherits
  unfold inheritNext at inherits
  dsimp only at inherits
  split at inherits
  · cases inherits
  · cases inherits
    refine ⟨fresh.registered, fits, fresh.id, ?_, fresh.inputs⟩
    intro next hnext
    rcases List.mem_append.mp hnext with taken | own
    · have before := regular.next next (List.mem_of_mem_take taken)
      omega
    · exact fresh.next next (List.mem_of_mem_drop own)

theorem Alters.regular {f : Flow} {edit : Edit} {t : Shape} (alters : Alters c f edit)
    (h : f.Regular c) (leads : Leads c edit.forward f.shape t) : t.Regular c f.counter := by
  have shape := h.shape
  cases alters with
  | removed present other copied =>
    obtain ⟨-, rfl⟩ := leads
    exact shape.erase other
  | @renamed _ n name present free =>
    obtain ⟨-, rfl⟩ := leads
    have found : f.shape.node? n.id = some n := Flow.node?_of_mem h.distinct present
    have regular := h.nodes n present
    refine shape.modify found rfl rfl ⟨regular.registered, ⟨regular.fits.inputs, regular.fits.next⟩,
      regular.id, regular.next, regular.inputs⟩ ?_
    intro id m _ found
    exact Flow.nodeNamed?_eq_none.mp free m (Flow.mem_of_node? found).1
  | @inputSet _ n index source _ present slot offered =>
    obtain ⟨-, rfl⟩ := leads
    refine shape.rewire (Flow.node?_of_mem h.distinct present) rfl rfl rfl
      ((h.nodes n present).setInput ?_)
    rintro id output rfl
    obtain ⟨m, hm, rfl, lower, upper⟩ := offered
    refine ⟨(h.nodes m hm).id, ?_⟩
    intro k same
    rw [Flow.node?_of_mem h.distinct hm] at same
    cases same
    exact ⟨lower, upper⟩
  | @nextSet _ n index next _ present slot known =>
    obtain ⟨-, rfl⟩ := leads
    refine shape.rewire (Flow.node?_of_mem h.distinct present) rfl rfl rfl
      ((h.nodes n present).setNext (known.imp_right ?_))
    rintro ⟨m, hm, rfl⟩
    exact (h.nodes m hm).id

/-- A name that is not taken by another node than the start is that of the start or of none. -/
theorem named_start {f : Flow} {old : Node} {name : String} (h : f.Regular c)
    (free : isTakenBesides f (some old) name = false) {id : Int} {m : Node}
    (present : f.node? id = some m) (named : m.name = name) : id = old.id := by
  obtain ⟨hm, rfl⟩ := Flow.mem_of_node? present
  unfold isTakenBesides at free
  cases found : f.nodeNamed? name with
  | none => exact absurd named (Flow.nodeNamed?_eq_none.mp found m hm)
  | some n =>
    obtain ⟨hn, sameName⟩ := Flow.mem_of_nodeNamed? found
    rw [found] at free
    have same := List.inj_on_of_nodup_map h.names hm hn (named.trans sameName.symm)
    rw [same]
    simpa using free

theorem Adds.regular {f : Flow} {edit : Edit} {t : Shape} (adds : Adds c f edit)
    (h : f.Regular c) (leads : Leads c edit.forward f.shape t) : t.Regular c (f.counter + 1) := by
  have shape := h.shape
  have natural : 1 ≤ f.counter := Int.le_trans shape.start_bounds.1 shape.start_bounds.2
  cases adds with
  | created found free =>
    obtain ⟨-, rfl⟩ := leads
    refine shape.put rfl (Node.regular_fresh found (by omega)) ?_
    intro id m present
    exact Flow.nodeNamed?_eq_none.mp free m (Flow.mem_of_node? present).1
  | started found missing =>
    obtain ⟨n, starts, -⟩ := h.start
    exact absurd (starts.symm.trans missing) nofun
  | @restarted _ type name old new _ found event starts free inherits copied =>
    obtain ⟨-, -, -, rfl⟩ := leads
    obtain ⟨hold, same⟩ := Flow.mem_of_node? starts
    obtain ⟨newId, newType, newName⟩ := inheritNext_keeps inherits
    refine shape.restart newId ?_ (newType ▸ event) same.symm ?_
    · exact fun _ => regular_inheritNext found (by omega) inherits (h.nodes old hold)
    · intro id m present named
      exact named_start h free present (named.trans newName)

theorem perform_counter (outcome : Outcome) (edit : Edit) :
    e.flow.counter ≤ (e.perform c outcome edit).editor.flow.counter := by
  rw [perform_flow]
  exact applyAll_counter c e.flow edit.forward

/-- A command keeps the structure regular. -/
theorem Does.regular {d : Edited} (does : Does c e d) (h : e.flow.Regular c) :
    d.editor.flow.Regular c := by
  refine Flow.regular_of_shape (does.editable h.editable).distinct ?_
  cases does with
  | refused => rw [refuse_editor]; exact h.shape
  | failed => exact h.shape
  | failedReserved => exact h.shape.mono (Int.le_add_one (Int.le_refl _))
  | performed _ alters =>
    obtain ⟨t, links⟩ := alters.links h.editable
    rw [(perform_links links).2.2.2]
    exact (alters.regular h links.forward).mono (perform_counter _ _)
  | performedReserved _ adds =>
    obtain ⟨t, links⟩ := adds.links h.editable h.startable
    rw [(perform_links (e := e.reserve) links).2.2.2]
    exact (adds.regular h links.forward).mono (perform_counter (e := e.reserve) _ _)

/-- No request takes ids back. -/
theorem handle_counter (request : Request) :
    e.flow.counter ≤ (handle c e request).flow.counter := by
  obtain ⟨f, changes, first, after⟩ := handle_flow c e request
  rw [after]
  rcases first with rfl | rfl
  · exact applyAll_counter c e.flow changes
  · exact Int.le_trans (Int.le_add_one (Int.le_refl _))
      (applyAll_counter c e.flow.reserveId changes)

/-- All structures that an editor goes back and forth through are regular. -/
def RegularHistory (c : Catalog) (e : Editor) : Prop :=
  ∃ t, Stands c e t ∧ ∀ s ∈ t.states, s.Regular c e.flow.counter

theorem regularHistory_ofFlow {f : Flow} (h : f.Regular c) : RegularHistory c (ofFlow f) := by
  refine ⟨⟨[], f.shape, []⟩, ⟨h.editable, rfl, trivial, trivial, ?_⟩, ?_⟩
  · simpa [Timeline.states] using h.startable
  intro s hs
  rw [List.mem_singleton.mp hs]
  exact h.shape

theorem RegularHistory.flow (h : RegularHistory c e) : e.flow.Regular c := by
  obtain ⟨t, stands, regular⟩ := h
  refine Flow.regular_of_shape stands.editable.distinct ?_
  rw [stands.present]
  exact regular _ (List.mem_of_getElem? t.states_present)

theorem regular_next (h : RegularHistory c e) (request : Request) :
    RegularHistory c (handle c e request) := by
  have before := h.flow
  obtain ⟨t, stands, regular⟩ := h
  refine ⟨moveAlong c e t request, stands_next stands request, ?_⟩
  have later : ∀ s ∈ t.states, s.Regular c (handle c e request).flow.counter :=
    fun s hs => (regular s hs).mono (handle_counter request)
  cases request with
  | undo =>
    intro s hs
    exact later s (t.states_back ▸ hs)
  | redo =>
    intro s hs
    exact later s (t.states_forth ▸ hs)
  | edit command =>
    unfold moveAlong
    dsimp only
    split
    · intro s hs
      rw [Timeline.states_record] at hs
      rcases List.mem_append.mp hs with hs | hs
      · exact later s (List.mem_of_mem_take hs)
      · rw [List.mem_singleton.mp hs]
        exact ((edit_does command).regular before).shape
    · exact later

theorem regular_requests (h : RegularHistory c e) (requests : List Request) :
    RegularHistory c (requests.foldl (handle c) e) := by
  induction requests generalizing e with
  | nil => exact h
  | cons request requests ih => exact ih (regular_next h request)

theorem startFlow_regular {type : NodeType} (found : c.find? type.key = some type)
    (event : type.isEvent = true) (name startName : String) :
    (startFlow name type startName).Regular c where
  distinct := List.nodup_singleton _
  start := ⟨Node.fresh type 1 startName, rfl, event⟩
  names := List.nodup_singleton _
  nodes n hn := by
    rw [List.mem_singleton.mp hn]
    exact Node.regular_fresh found (Int.le_refl _)

theorem regular_create {name type startName : String} {first : Editor}
    (created : create c name type startName = .ok first) : RegularHistory c first := by
  unfold create at created
  obtain ⟨nodeType, found, rfl⟩ := Except.exists_of_map_eq_ok created
  obtain ⟨found, event⟩ := find?_of_eventType found
  exact regularHistory_ofFlow (startFlow_regular found event name startName)

end

/-- **However a new flow is edited, it is regular**: after any commands, carried out or not, and any
steps of undo and redo. -/
theorem edits_keep_regular (c : Catalog) (name type startName : String) (first : Editor)
    (created : create c name type startName = .ok first) (requests : List Request) :
    (requests.foldl (handle c) first).flow.Regular c :=
  (regular_requests (regular_create created) requests).flow

theorem edits_keep_regular_trigger :
    create .standard "greeting" "TriggerNode" "start" =
        .ok (ofFlow (startFlow "greeting" .trigger "start")) ∧
      ([.edit (.createNode "AdditionNode" "sum"), .edit (.setReference "sum" 0 "start" 1),
          .edit (.replaceStart "DummyNode" "sum"), .edit (.replaceStart "DummyNode" "start"), .undo,
          .redo].foldl (handle .standard)
        (ofFlow (startFlow "greeting" .trigger "start"))).flow.Regular .standard :=
  ⟨rfl, edits_keep_regular .standard "greeting" "TriggerNode" "start" _ rfl _⟩

end Editor

end EventFlow
