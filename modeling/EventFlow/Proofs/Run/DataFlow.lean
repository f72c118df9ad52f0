import EventFlow.Node.Standard
import EventFlow.Proofs.Run.Walk
import EventFlow.Proofs.Traverse

/-!
Where the values of a run come from, told from its trace alone.

* `Reads`: what an input gives after a trace;
* `Known`: what a run knows of its nodes is what the trace shows of them, kept by every step;
* `execute_data_flow`: every entry of a trace saw what its inputs read in the entries before it, and
  a run that ends at an input ends at the first one that gives no value;
* `execute_undangling`: what cannot be said does not dangle.
-/

namespace EventFlow

/-- The latest entry of a node in a trace. -/
def latest? (trace : List Status) (id : Int) : Option Status :=
  trace.reverse.find? fun s => s.node == id

/-- The node that is to run after a trace. -/
def upcoming? (flow : Flow) (trace : List Status) : Option Node :=
  match trace.getLast? with
  | none => flow.startNode?
  | some s => Progress.onward flow s.next

/-- What an input gives after a trace. -/
inductive Reads (flow : Flow) (before : List Status) : Reference → Except Failure Value → Prop where
  | constant (value : Value) : Reads flow before (.constant value) (.ok value)
  | output {id index : Int} {node : Node} {earlier later : List Status} {s : Status} {value : Value}
      (there : flow.node? id = some node) (split : before = earlier ++ s :: later)
      (same : s.node = id) (last : ∀ t ∈ later, t.node ≠ id)
      (lower : 0 ≤ index) (upper : index < node.outputCount)
      (gives : s.outputs[index.toNat]? = some value) :
      Reads flow before (.output id index) (.ok value)
  | danglingNode {id index : Int} (missing : flow.node? id = none) (brief : Brief id) :
      Reads flow before (.output id index) (.error (.danglingNode id))
  | notExecuted {id index : Int} {node : Node} (there : flow.node? id = some node)
      (never : ∀ s ∈ before, s.node ≠ id) :
      Reads flow before (.output id index) (.error (.notExecuted node.name))
  | danglingOutput {id index : Int} {node : Node} (there : flow.node? id = some node)
      (ran : ∃ s ∈ before, s.node = id) (outside : ¬(0 ≤ index ∧ index < node.outputCount))
      (brief : Brief index) :
      Reads flow before (.output id index) (.error (.danglingOutput node.name index))
  | unsaidNode {id index : Int} (missing : flow.node? id = none) (long : ¬Brief id) :
      Reads flow before (.output id index) (.error .unsaid)
  | unsaidOutput {id index : Int} {node : Node} (there : flow.node? id = some node)
      (ran : ∃ s ∈ before, s.node = id) (outside : ¬(0 ≤ index ∧ index < node.outputCount))
      (long : ¬Brief index) : Reads flow before (.output id index) (.error .unsaid)

/-- The inputs of an entry are what its node reads after the entries before it. -/
def Saw (flow : Flow) (before : List Status) (s : Status) : Prop :=
  ∃ node, flow.node? s.node = some node ∧
    List.Forall₂ (fun source value => Reads flow before source (.ok value)) node.inputs s.inputs

/-- The first input that gives no value fails so. -/
def FirstFails (flow : Flow) (before : List Status) (inputs : List Reference) (failure : Failure) :
    Prop :=
  ∃ good bad rest, inputs = good ++ bad :: rest ∧
    (∀ source ∈ good, ∃ value, Reads flow before source (.ok value)) ∧
    Reads flow before bad (.error failure)

theorem latest?_concat (trace : List Status) (s : Status) (id : Int) :
    latest? (trace ++ [s]) id = if s.node = id then some s else latest? trace id := by
  unfold latest?
  rw [List.reverse_append]
  by_cases same : s.node = id <;> simp [same]

theorem latest?_eq_some_iff {trace : List Status} {id : Int} {s : Status} :
    latest? trace id = some s ↔ ∃ earlier later, trace = earlier ++ s :: later ∧ s.node = id ∧
      ∀ t ∈ later, t.node ≠ id := by
  unfold latest?
  rw [List.find?_eq_some_iff_append]
  constructor
  · rintro ⟨same, later, earlier, split, last⟩
    refine ⟨earlier.reverse, later.reverse, ?_, by simpa using same, ?_⟩
    · rw [← List.reverse_reverse trace, split]
      simp
    · intro t ht
      simpa using last t (List.mem_reverse.mp ht)
  · rintro ⟨earlier, later, rfl, same, last⟩
    refine ⟨by simpa using same, later.reverse, earlier.reverse, by simp, ?_⟩
    intro t ht
    simpa using last t (List.mem_reverse.mp ht)

theorem latest?_eq_none_iff {trace : List Status} {id : Int} :
    latest? trace id = none ↔ ∀ s ∈ trace, s.node ≠ id := by
  simp [latest?]

/-- An entry of a trace with a new one at its end is an old one or the new one; the entries before
it are those of the old trace. -/
theorem entry_concat {before : List Status} {t : Status} {k : Nat} {s : Status}
    (entry : (before ++ [t])[k]? = some s) :
    (before[k]? = some s ∧ (before ++ [t]).take k = before.take k) ∨
      (s = t ∧ (before ++ [t]).take k = before) := by
  by_cases old : k < before.length
  · rw [List.getElem?_append_left old] at entry
    exact Or.inl ⟨entry, List.take_append_of_le_length (Nat.le_of_lt old)⟩
  · have bound := (List.getElem?_eq_some_iff.mp entry).1
    rw [List.length_append, List.length_singleton] at bound
    obtain rfl : k = before.length := by omega
    exact Or.inr ⟨by simpa using entry.symm, List.take_left⟩

/-- A new entry takes nothing from what the entries before it saw. -/
theorem saw_concat {flow : Flow} {before : List Status} {t : Status}
    (earlier : ∀ {k s}, before[k]? = some s → Saw flow (before.take k) s) (new : Saw flow before t)
    {k : Nat} {s : Status} (entry : (before ++ [t])[k]? = some s) :
    Saw flow ((before ++ [t]).take k) s := by
  rcases entry_concat entry with ⟨old, same⟩ | ⟨rfl, same⟩
  · rw [same]
    exact earlier old
  · rw [same]
    exact new

namespace Progress

/-- What a run knows of its nodes is what its trace shows of them. -/
structure Known (flow : Flow) (p : Progress) : Prop where
  known : ∀ id, (p.status? id).isSome = flow.has id
  sized : ∀ {id n s}, flow.node? id = some n → p.status? id = some s →
    s.outputs.length = n.outputCount
  latest : ∀ {id s}, p.status? id = some s →
    latest? p.trace.toList id = if s.executed then some s else none
  saw : ∀ {k s}, p.trace.toList[k]? = some s → Saw flow (p.trace.toList.take k) s

theorem Known.status {flow : Flow} {p : Progress} (h : p.Known flow) {id : Int} {n : Node}
    (there : flow.node? id = some n) : ∃ s, p.status? id = some s := by
  have some := h.known id
  rw [Flow.has, there] at some
  exact Option.isSome_iff_exists.mp some

section Resolve

variable {flow : Flow} {p : Progress} {id index : Int} {node : Node} {s : Status}

theorem resolve_missing (missing : flow.node? id = none) :
    resolve flow p (.output id index) = .error (.showing id (.danglingNode id)) := by
  simp [resolve, missing]

theorem resolve_idle (there : flow.node? id = some node) (status : p.status? id = some s)
    (idle : s.executed = false) :
    resolve flow p (.output id index) = .error (.notExecuted node.name) := by
  simp [resolve, there, status, idle]

theorem resolve_output (there : flow.node? id = some node) (status : p.status? id = some s)
    (ran : s.executed = true) (lower : 0 ≤ index) {value : Value}
    (gives : s.outputs[index.toNat]? = some value) :
    resolve flow p (.output id index) = .ok value := by
  obtain ⟨i, rfl⟩ := Int.eq_ofNat_of_zero_le lower
  simp only [Int.toNat_natCast] at gives
  simp [resolve, there, status, ran, gives]

theorem resolve_outside (there : flow.node? id = some node) (status : p.status? id = some s)
    (ran : s.executed = true) (outside : ¬(0 ≤ index ∧ index < s.outputs.length)) :
    resolve flow p (.output id index) =
      .error (.showing index (.danglingOutput node.name index)) := by
  cases index with
  | ofNat i =>
    have beyond : s.outputs[i]? = none := by
      rw [List.getElem?_eq_none_iff]
      simp only [Int.ofNat_eq_natCast] at outside
      omega
    simp [resolve, there, status, ran, beyond]
  | negSucc i => simp [resolve, there, status, ran]

end Resolve

/-- An output that a node does not have is looked for in vain once the node has run. -/
theorem Known.resolve_outside {flow : Flow} {p : Progress} (h : p.Known flow) {id index : Int}
    {node : Node} (there : flow.node? id = some node)
    (occurs : ∃ s ∈ p.trace.toList, s.node = id)
    (outside : ¬(0 ≤ index ∧ index < node.outputCount)) :
    resolve flow p (.output id index) =
      .error (.showing index (.danglingOutput node.name index)) := by
  obtain ⟨t, status⟩ := h.status there
  have latest := h.latest status
  cases ran : t.executed with
  | false =>
    rw [ran] at latest
    obtain ⟨s, hs, same⟩ := occurs
    exact absurd same (latest?_eq_none_iff.mp latest s hs)
  | true =>
    rw [← h.sized there status] at outside
    exact Progress.resolve_outside there status ran outside

theorem Known.resolve_reads {flow : Flow} {p : Progress} (h : p.Known flow) {source : Reference}
    {result : Except Failure Value} (reads : Reads flow p.trace.toList source result) :
    resolve flow p source = result := by
  cases reads with
  | constant value => rfl
  | output there split same last lower upper gives =>
    obtain ⟨t, status⟩ := h.status there
    have latest := h.latest status
    rw [latest?_eq_some_iff.mpr ⟨_, _, split, same, last⟩] at latest
    cases ran : t.executed with
    | false => simp [ran] at latest
    | true =>
      obtain rfl := by simpa [ran] using latest
      exact resolve_output there status ran lower gives
  | danglingNode missing brief => rw [resolve_missing missing, Failure.showing_brief brief]
  | unsaidNode missing long => rw [resolve_missing missing, Failure.showing_long long]
  | notExecuted there never =>
    obtain ⟨t, status⟩ := h.status there
    have latest := h.latest status
    rw [latest?_eq_none_iff.mpr never] at latest
    cases ran : t.executed with
    | false => exact resolve_idle there status ran
    | true => simp [ran] at latest
  | danglingOutput there occurs outside brief =>
    rw [h.resolve_outside there occurs outside, Failure.showing_brief brief]
  | unsaidOutput there occurs outside long =>
    rw [h.resolve_outside there occurs outside, Failure.showing_long long]

/-- What an input gives in a run is what it gives after the trace of the run. -/
theorem Known.reads_iff {flow : Flow} {p : Progress} (h : p.Known flow) (source : Reference)
    (result : Except Failure Value) :
    Reads flow p.trace.toList source result ↔ resolve flow p source = result := by
  refine ⟨h.resolve_reads, ?_⟩
  rintro rfl
  cases source with
  | constant value => exact .constant value
  | output id index =>
    cases there : flow.node? id with
    | none =>
      rw [resolve_missing there]
      rcases Failure.showing_cases id (.danglingNode id) with ⟨brief, said⟩ | ⟨long, unsaid⟩
      · rw [said]
        exact .danglingNode there brief
      · rw [unsaid]
        exact .unsaidNode there long
    | some n =>
      obtain ⟨s, status⟩ := h.status there
      have latest := h.latest status
      have sized := h.sized there status
      cases ran : s.executed with
      | false =>
        rw [ran] at latest
        rw [resolve_idle there status ran]
        exact .notExecuted there (latest?_eq_none_iff.mp latest)
      | true =>
        rw [ran] at latest
        obtain ⟨earlier, later, split, same, last⟩ := latest?_eq_some_iff.mp latest
        by_cases inside : 0 ≤ index ∧ index < s.outputs.length
        · obtain ⟨value, gives⟩ : ∃ value, s.outputs[index.toNat]? = some value :=
            ⟨_, List.getElem?_eq_getElem (by omega)⟩
          rw [resolve_output there status ran inside.1 gives]
          exact .output there split same last inside.1 (sized ▸ inside.2) gives
        · have occurs : ∃ s ∈ p.trace.toList, s.node = id := ⟨s, by rw [split]; simp, same⟩
          rw [Progress.resolve_outside there status ran inside]
          rcases Failure.showing_cases index (.danglingOutput n.name index) with
            ⟨brief, said⟩ | ⟨long, unsaid⟩
          · rw [said]
            exact .danglingOutput there occurs (sized ▸ inside) brief
          · rw [unsaid]
            exact .unsaidOutput there occurs (sized ▸ inside) long

theorem status?_of_fresh {flow : Flow} {p : Progress}
    (fresh : p.statuses = flow.nodes.map Status.fresh) (id : Int) :
    p.status? id = (flow.node? id).map Status.fresh := by
  unfold status? Flow.node?
  rw [fresh, List.find?_map]
  rfl

theorem status?_initial (flow : Flow) (payload : List Value) (bindings : Bindings) (id : Int) :
    (initial flow payload bindings).status? id = (flow.node? id).map fun n =>
      if id = flow.start then
        { Status.fresh n with
          outputs := payload.take n.outputCount ++ (Status.fresh n).outputs.drop payload.length }
      else Status.fresh n := by
  have keeps (s : Status) :
      ({ s with outputs := payload.take s.outputs.length ++ s.outputs.drop payload.length } :
        Status).node = s.node := rfl
  unfold initial
  rw [status?_modify _ flow.start id keeps, status?_of_fresh rfl]
  cases flow.node? id with
  | none => simp
  | some n => by_cases same : id = flow.start <;> simp [same, Status.fresh, Node.outputCount]

theorem known_initial (flow : Flow) (payload : List Value) (bindings : Bindings) :
    (initial flow payload bindings).Known flow where
  known id := by
    rw [status?_initial, Flow.has, Option.isSome_map]
  sized := by
    intro id n s there status
    rw [status?_initial, there] at status
    cases status
    by_cases same : id = flow.start
    · simp [same, Status.fresh, Node.outputCount]
      omega
    · simp [same, Status.fresh, Node.outputCount]
  latest := by
    intro id s status
    rw [status?_initial] at status
    obtain ⟨n, -, rfl⟩ := Option.map_eq_some_iff.mp status
    by_cases same : id = flow.start <;> simp [same, Status.fresh, latest?, initial, modify]
  saw := by
    intro k s entry
    simp [initial, modify] at entry

theorem Known.step {flow : Flow} {listener : Listener} {node : Node} {p q : Progress}
    {next? : Option Node} (h : p.Known flow) (there : flow.node? node.id = some node)
    (ran : p.step flow listener node = (q, .ok next?)) : (q.record node.id).Known flow := by
  obtain ⟨s, status⟩ := h.status there
  obtain ⟨inputs, taken, next, resolved, -, -, -, trace, statuses⟩ := step_records status ran
  have own : s.node = node.id := status?_node status
  generalize new : s.ran inputs (node.actions p.bindings inputs) taken next = t at *
  replace own : t.node = node.id := by rw [← new]; exact own
  have executed : t.executed = true := by rw [← new]; rfl
  refine ⟨?_, ?_, ?_, ?_⟩
  · intro id
    rw [statuses]
    by_cases same : id = node.id
    · simp [same, Flow.has, there]
    · simp [same, h.known]
  · intro id n u found status'
    rw [statuses] at status'
    by_cases same : id = node.id
    · subst same
      obtain rfl : t = u := by simpa using status'
      rw [← new, Status.ran, Action.foldl_onOutputs_length]
      exact h.sized found status
    · rw [if_neg same] at status'
      exact h.sized found status'
  · intro id u status'
    rw [statuses] at status'
    rw [trace, latest?_concat, own]
    by_cases same : id = node.id
    · obtain rfl : t = u := by simpa [same] using status'
      simp [same, executed]
    · rw [if_neg same] at status'
      rw [if_neg (Ne.symm same)]
      exact h.latest status'
  · intro k u entry
    rw [trace] at entry ⊢
    refine saw_concat h.saw ⟨node, own ▸ there, ?_⟩ entry
    have read := (List.mapM_eq_ok_iff _ _ _).mp resolved
    rw [← new]
    exact read.imp fun source value gives => (h.reads_iff source _).mpr gives

/-- A step adds one entry to the trace. -/
theorem Known.counts {flow : Flow} {listener : Listener} {node : Node} {p q : Progress}
    {next? : Option Node} (h : p.Known flow) (there : flow.node? node.id = some node)
    (ran : p.step flow listener node = (q, .ok next?)) :
    (q.record node.id).trace.size = p.trace.size + 1 := by
  obtain ⟨s, status⟩ := h.status there
  obtain ⟨inputs, taken, next, -, -, -, -, trace, -⟩ := step_records status ran
  rw [← Array.length_toList, trace, List.length_append, Array.length_toList]
  rfl

theorem Known.firstFails_iff {flow : Flow} {p : Progress} (h : p.Known flow)
    (inputs : List Reference) (failure : Failure) :
    FirstFails flow p.trace.toList inputs failure ↔
      inputs.mapM (resolve flow p) = .error failure := by
  simp only [List.mapM_eq_error_iff, FirstFails, h.reads_iff]

theorem node?_of_onward {flow : Flow} {next : Int} {node : Node}
    (h : onward flow next = some node) : flow.node? node.id = some node := by
  unfold onward at h
  split at h
  · cases h
  · rw [(Flow.mem_of_node? h).2]
    exact h

theorem node?_of_start {flow : Flow} {start : Node} (there : flow.startNode? = some start) :
    flow.node? start.id = some start := by
  rw [(Flow.mem_of_node? there).2]
  exact there

/-- After a step the run goes on with what its new entry names. -/
theorem Known.upcoming?_step {flow : Flow} {listener : Listener} {node : Node} {p q : Progress}
    {next? : Option Node} (h : p.Known flow) (there : flow.node? node.id = some node)
    (ran : p.step flow listener node = (q, .ok next?)) :
    upcoming? flow (q.record node.id).trace.toList = next? := by
  obtain ⟨s, status⟩ := h.status there
  obtain ⟨inputs, taken, next, -, -, -, onwards, trace, -⟩ := step_records status ran
  rw [trace, onwards]
  simp [upcoming?, Status.ran]

/-- The node that a step goes to is in the flow. -/
theorem Known.present_next {flow : Flow} {listener : Listener} {node next : Node} {p q : Progress}
    (h : p.Known flow) (there : flow.node? node.id = some node)
    (ran : p.step flow listener node = (q, .ok (some next))) :
    flow.node? next.id = some next := by
  obtain ⟨s, status⟩ := h.status there
  obtain ⟨inputs, taken, id, -, -, -, onwards, -, -⟩ := step_records status ran
  exact node?_of_onward onwards.symm

theorem reaches_known {flow : Flow} {listener : Listener} {start node : Node}
    {payload : List Value} {bindings : Bindings} {k : Nat} {p : Progress}
    (there : flow.startNode? = some start)
    (reached : Reaches flow listener start (initial flow payload bindings) k node p) :
    p.Known flow ∧ flow.node? node.id = some node ∧
      upcoming? flow p.trace.toList = some node := by
  induction reached with
  | start => exact ⟨known_initial flow payload bindings, node?_of_start there, there⟩
  | step before ran ih =>
    obtain ⟨known, present, -⟩ := ih
    exact ⟨known.step present ran, known.present_next present ran,
      known.upcoming?_step present ran⟩

/-- What the outputs of an event show of a payload. -/
def shown (start : Node) (payload : List Value) : List Value :=
  (List.range start.outputCount).map fun j => payload[j]?.getD .absent

theorem shown_eq (start : Node) (payload : List Value) :
    payload.take start.outputCount ++ (Status.fresh start).outputs.drop payload.length =
      shown start payload := by
  have blank : (Status.fresh start).outputs = List.replicate start.outputCount .absent := by
    simp [Status.fresh, Node.outputCount, List.map_const']
  rw [blank, List.drop_replicate]
  apply List.ext_getElem
  · simp only [shown, List.length_append, List.length_take, List.length_replicate, List.length_map,
      List.length_range]
    omega
  · intro j given there
    simp only [shown, List.length_map, List.length_range] at there
    by_cases within : j < payload.length
    · have taken : j < (payload.take start.outputCount).length := by
        rw [List.length_take]
        omega
      rw [List.getElem_append_left taken]
      simp [shown, within]
    · have beyond : (payload.take start.outputCount).length ≤ j := by
        rw [List.length_take]
        omega
      rw [List.getElem_append_right beyond]
      simp [shown, within]

/-- A run shows the payload, and nothing else, at its start. -/
structure Seeded (start : Node) (payload : List Value) (p : Progress) : Prop where
  status : ∀ {s}, p.status? start.id = some s → s.outputs = shown start payload
  trace : ∀ s ∈ p.trace.toList, s.node = start.id → s.outputs = shown start payload

theorem seeded_initial {flow : Flow} {start : Node} (there : flow.startNode? = some start)
    (payload : List Value) (bindings : Bindings) :
    (initial flow payload bindings).Seeded start payload where
  status := by
    intro s status
    rw [status?_initial, node?_of_start there] at status
    simp only [(Flow.mem_of_node? there).2, ↓reduceIte, Option.map_some, Option.some.injEq]
      at status
    rw [← status]
    exact shown_eq start payload
  trace := by
    intro s entry
    simp [initial, modify] at entry

theorem Seeded.step {flow : Flow} {listener : Listener} {start node : Node} {p q : Progress}
    {payload : List Value} {next? : Option Node} (h : p.Seeded start payload)
    (known : p.Known flow) (begins : flow.startNode? = some start)
    (idle : start.type.computation = .idle) (there : flow.node? node.id = some node)
    (ran : p.step flow listener node = (q, .ok next?)) :
    (q.record node.id).Seeded start payload := by
  obtain ⟨s, status⟩ := known.status there
  obtain ⟨inputs, taken, next, -, -, -, -, trace, statuses⟩ := step_records status ran
  have entry : start.id = node.id →
      (s.ran inputs (node.actions p.bindings inputs) taken next).outputs = shown start payload := by
    intro same
    obtain rfl : start = node := by
      rw [← same, node?_of_start begins] at there
      exact Option.some.inj there
    have nothing : start.actions p.bindings inputs = [] := by
      simp [Node.actions, idle]
    rw [nothing]
    exact h.status (s := s) status
  refine ⟨?_, ?_⟩
  · intro t status'
    rw [statuses] at status'
    by_cases same : start.id = node.id
    · rw [if_pos same] at status'
      cases status'
      exact entry same
    · rw [if_neg same] at status'
      exact h.status status'
  · intro t ht own
    rw [trace] at ht
    rcases List.mem_append.mp ht with ht | ht
    · exact h.trace t ht own
    · obtain rfl := List.mem_singleton.mp ht
      have same : s.node = node.id := status?_node status
      exact entry (own.symm.trans same)

theorem reaches_seeded {flow : Flow} {listener : Listener} {start node : Node}
    {payload : List Value} {bindings : Bindings} {k : Nat} {p : Progress}
    (there : flow.startNode? = some start) (idle : start.type.computation = .idle)
    (reached : Reaches flow listener start (initial flow payload bindings) k node p) :
    p.Seeded start payload := by
  induction reached with
  | start => exact seeded_initial there payload bindings
  | step before ran ih =>
    obtain ⟨known, present, -⟩ := reaches_known there before
    exact ih.step known there idle present ran

end Progress

/-- A built-in event computes nothing: it shows its payload. -/
theorem NodeType.idle_of_event {type : NodeType} (builtin : type ∈ Catalog.standard)
    (event : type.isEvent) : type.computation = .idle := by
  have all : ∀ t ∈ Catalog.standard, t.isEvent → t.computation = .idle := by decide
  exact all type builtin event

namespace Run

/-- The values of a run come from where its inputs say. -/
structure DataFlow (payload : List Value) (r : Run) : Prop where
  /-- Every entry saw what its inputs read in the entries before it. -/
  saw : ∀ k s, r.trace[k]? = some s → Saw r.flow (r.trace.take k) s
  /-- A built-in event at the start shows the payload, however often it runs. -/
  event : ∀ start, r.flow.startNode? = some start → start.type ∈ Catalog.standard →
    start.type.isEvent → ∀ s ∈ r.trace, s.node = start.id → s.outputs = Progress.shown start payload
  /-- A run fails at an input of the node that is to run if and only if it is not cut off before
  that and the input is the first that gives no value. -/
  refused : ∀ failure, failure.OfInput → (r.failure = some failure ↔
    r.failure ≠ some (.showing r.limit (.deadLoop r.flow.name r.limit)) ∧
      ∃ node, upcoming? r.flow r.trace = some node ∧
        FirstFails r.flow r.trace node.inputs failure)
  /-- If that input cannot even be told, the run fails for that, unless it is cut off before. -/
  unsaid : ∀ node, upcoming? r.flow r.trace = some node →
    FirstFails r.flow r.trace node.inputs .unsaid →
    r.failure = some .unsaid ∨
      r.failure = some (.showing r.limit (.deadLoop r.flow.name r.limit))

section Ending

variable {flow : Flow} {listener : Listener} {limit : Int} {allowed k : Nat} {node : Node}
  {p : Progress} {out : Progress × Option Failure}

theorem ends_saw (ended : p.Ends flow listener limit allowed k node out) (known : p.Known flow)
    (present : flow.node? node.id = some node) {i : Nat} {s : Status}
    (entry : out.1.trace.toList[i]? = some s) : Saw flow (out.1.trace.toList.take i) s := by
  cases ended with
  | cutOff used => exact known.saw entry
  | failed early ran =>
    obtain ⟨trace, -⟩ := Progress.step_error ran
    rw [trace] at entry ⊢
    exact known.saw entry
  | finished early ran => exact (known.step present ran).saw entry

theorem ends_shown (ended : p.Ends flow listener limit allowed k node out) (known : p.Known flow)
    (present : flow.node? node.id = some node) {start : Node} {payload : List Value}
    (begins : flow.startNode? = some start) (idle : start.type.computation = .idle)
    (seeded : p.Seeded start payload) {s : Status} (entry : s ∈ out.1.trace.toList)
    (own : s.node = start.id) : s.outputs = Progress.shown start payload := by
  cases ended with
  | cutOff used => exact seeded.trace s entry own
  | failed early ran =>
    obtain ⟨trace, -⟩ := Progress.step_error ran
    rw [trace] at entry
    exact seeded.trace s entry own
  | finished early ran => exact (seeded.step known begins idle present ran).trace s entry own

theorem ends_refused (ended : p.Ends flow listener limit allowed k node out)
    (known : p.Known flow) (present : flow.node? node.id = some node)
    (coming : upcoming? flow p.trace.toList = some node) {failure : Failure}
    (ofInput : failure.OfInput) :
    out.2 = some failure ↔ out.2 ≠ some (.showing limit (.deadLoop flow.name limit)) ∧
      ∃ next, upcoming? flow out.1.trace.toList = some next ∧
        FirstFails flow out.1.trace.toList next.inputs failure := by
  cases ended with
  | cutOff used =>
    constructor
    · intro same
      rw [← Option.some.inj same] at ofInput
      exact absurd ofInput Failure.showing_deadLoop
    · rintro ⟨whole, -⟩
      exact absurd rfl whole
  | failed early ran =>
    obtain ⟨trace, cause⟩ := Progress.step_error ran
    simp only [trace, Option.some.injEq, ne_eq]
    constructor
    · rintro rfl
      refine ⟨?_, node, coming, ?_⟩
      · intro cut
        rw [cut] at ofInput
        exact Failure.showing_deadLoop ofInput
      · rcases cause with fails | ⟨-, outer⟩
        · exact (known.firstFails_iff _ _).mpr fails
        · exact absurd ofInput outer.notOfInput
    · rintro ⟨-, next, coming', fails⟩
      obtain rfl : node = next := Option.some.inj (coming.symm.trans coming')
      have fails := (known.firstFails_iff _ _).mp fails
      rcases cause with first | ⟨⟨inputs, resolved⟩, -⟩
      · exact Except.error.inj (first.symm.trans fails)
      · rw [resolved] at fails
        cases fails
  | finished early ran =>
    constructor
    · intro same
      cases same
    · rintro ⟨-, other, next, -⟩
      rw [known.upcoming?_step present ran] at next
      cases next

theorem ends_unsaid (ended : p.Ends flow listener limit allowed k node out)
    (known : p.Known flow) (present : flow.node? node.id = some node)
    (coming : upcoming? flow p.trace.toList = some node) {next : Node}
    (coming' : upcoming? flow out.1.trace.toList = some next)
    (fails : FirstFails flow out.1.trace.toList next.inputs .unsaid) :
    out.2 = some .unsaid ∨ out.2 = some (.showing limit (.deadLoop flow.name limit)) := by
  cases ended with
  | cutOff used => exact Or.inr rfl
  | failed early ran =>
    have trace := Progress.step_trace ran
    rw [trace] at coming' fails
    obtain rfl : node = next := Option.some.inj (coming.symm.trans coming')
    have fails := (known.firstFails_iff _ _).mp fails
    rcases (Progress.step_error ran).2 with first | ⟨⟨inputs, resolved⟩, -⟩
    · exact Or.inl (congrArg some (Except.error.inj (first.symm.trans fails)))
    · rw [resolved] at fails
      cases fails
  | finished early ran =>
    rw [known.upcoming?_step present ran] at coming'
    cases coming'

end Ending

/-- Every run has correct data flow, whatever the flow, the run's limit and what it did before. -/
theorem execute_data_flow (r : Run) (payload : List Value) (bindings : Bindings) :
    DataFlow payload (r.execute payload bindings).1 := by
  unfold execute
  cases there : r.flow.startNode? with
  | none =>
    rw [outcome_missing there]
    have nothing {node : Node} (next : upcoming? r.flow [] = some node) : False := by
      rw [show upcoming? r.flow [] = r.flow.startNode? from rfl, there] at next
      cases next
    refine ⟨by simp, by simp, ?_, fun node next _ => (nothing next).elim⟩
    intro failure ofInput
    constructor
    · intro same
      cases same
      exact ofInput.elim
    · rintro ⟨-, node, next, -⟩
      exact (nothing next).elim
  | some start =>
    obtain ⟨k, node, p, reached, ended⟩ :=
      outcome_ends there r.limit r.listener payload bindings
    obtain ⟨known, present, coming⟩ := Progress.reaches_known there reached
    refine ⟨?_, ?_, ?_, ?_⟩
    · intro i s entry
      exact ends_saw ended known present entry
    · intro start' there' builtin event s entry own
      obtain rfl : start = start' := Option.some.inj (there.symm.trans there')
      have idle := NodeType.idle_of_event builtin event
      exact ends_shown ended known present there idle
        (Progress.reaches_seeded there idle reached) entry own
    · intro failure ofInput
      exact ends_refused ended known present coming ofInput
    · intro node next fails
      exact ends_unsaid ended known present coming next fails

/-- A node that adds one to an output of a node with some id. -/
def readingNode (source : Int) : Node :=
  ⟨2, .addition, "sum", [.output source 0, .constant (.int 1)], [-1]⟩

def readingFlow (source : Int) : Flow where
  name := "reading"
  nodes := [⟨1, .trigger, "start", [], [2]⟩, readingNode source]
  start := 1
  counter := 2

theorem missing_readingFlow {source : Int} (long : ¬Brief source) :
    (readingFlow source).node? source = none := by
  have first : source ≠ 1 := by rintro rfl; exact long (brief_of_natAbs_le (by decide))
  have second : source ≠ 2 := by rintro rfl; exact long (brief_of_natAbs_le (by decide))
  simp [Flow.node?, readingFlow, readingNode, first.symm, second.symm]

/-- What is missed under an id that cannot be said is no dangling reference. -/
theorem execute_readingFlow {source : Int} (long : ¬Brief source) :
    let r := ((pending (readingFlow source) 5 .absent).execute [] []).1
    r.failure = some .unsaid ∧ upcoming? r.flow r.trace = some (readingNode source) := by
  have first : ∃ p, (Progress.initial (readingFlow source) [] []).step (readingFlow source) .absent
      ⟨1, .trigger, "start", [], [2]⟩ = (p, .ok (some (readingNode source))) ∧
        upcoming? (readingFlow source) (p.record 1).trace.toList = some (readingNode source) :=
    ⟨_, rfl, rfl⟩
  obtain ⟨p, began, coming⟩ := first
  have unread : (readingNode source).inputs.mapM ((p.record 1).resolve (readingFlow source)) =
      .error .unsaid := by
    rw [readingNode, List.mapM_cons, Progress.resolve_missing (missing_readingFlow long),
      Failure.showing_long long]
    rfl
  have stepped : (p.record 1).Stepped (readingFlow source) .absent (readingNode source) (p.record 1)
      (.error .unsaid) := .unread unread
  have failed := stepped.step_eq
  have ended : outcome (readingFlow source) 5 .absent [] [] = (p.record 1, some .unsaid) := by
    have steps : allowance 5 = 4 + 1 + 1 := rfl
    have start : (readingFlow source).startNode? = some ⟨1, .trigger, "start", [], [2]⟩ := rfl
    unfold outcome
    rw [start, steps]
    simp only [Progress.walk, began, failed]
  unfold execute
  simp only [pending, ended]
  exact ⟨trivial, coming⟩

/-- A reference to a node that is not there is no dangling one if its id is too long to be said. -/
theorem execute_undangling :
    let missing : Int := 10 ^ Text.digitLimit
    (∀ n ∈ (readingFlow missing).nodes, n.Fits ∧ n.type ∈ Catalog.standard) ∧
      (readingFlow missing).node? missing = none ∧
      let r := ((pending (readingFlow missing) 5 .absent).execute [] []).1
      upcoming? r.flow r.trace = some (readingNode missing) ∧
        r.failure.map Failure.word = some "NodeFaultError" := by
  have long := not_brief_limit
  generalize (10 ^ Text.digitLimit : Int) = missing at long
  obtain ⟨failed, coming⟩ := execute_readingFlow long
  refine ⟨?_, missing_readingFlow long, coming, ?_⟩
  · simp only [readingFlow, readingNode, List.forall_mem_cons]
    exact ⟨⟨⟨rfl, rfl⟩, by decide⟩, ⟨⟨rfl, rfl⟩, by decide⟩, by simp⟩
  · rw [failed]
    rfl

end Run

end EventFlow
