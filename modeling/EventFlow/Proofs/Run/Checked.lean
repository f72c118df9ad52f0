import EventFlow.Proofs.Run.Course

/-!
Runs in which every look-up may miss. The steps are those of `Progress`, except that a status, an
input, an output slot or a successor slot that is not there stops everything at once, with no
failure of the run to show for it.

* `Checked.outcome`: a run that stops at the first look-up that misses;
* `Checked.step_eq`, `Checked.walk_eq`: where nodes have the slots of built-in types, no look-up
  does;
* `Checked.outcome_eq`: such a run ends as runs do.
-/

namespace EventFlow

/-- A look-up that finds nothing. -/
inductive Miss where
  | status (node : Int)
  | inputs (node : Int) (count : Nat)
  | output (node index : Int)
  | successor (node branch : Int)
  deriving DecidableEq, Repr

/-- The computations of the built-in types; those that show a result have an output for it. -/
theorem NodeType.computation_of_builtin {type : NodeType} (builtin : type ∈ Catalog.standard) :
    (type.computation ∈ [.addition, .binary, .unary, .getVariable, .setVariable] ∧
        0 < type.layout.outputs.length) ∨
      type.computation ∈ [.condition, .broadcast, .idle] := by
  have all : ∀ t ∈ Catalog.standard,
      (t.computation ∈ [.addition, .binary, .unary, .getVariable, .setVariable] ∧
          0 < t.layout.outputs.length) ∨ t.computation ∈ [.condition, .broadcast, .idle] := by
    decide
  exact all type builtin

/-- A node of a built-in type writes no output but its first, and only if it has one. -/
theorem Node.actions_write {n : Node} (builtin : n.type ∈ Catalog.standard) {bindings : Bindings}
    {inputs : List Value} {index : Int} {value : Value}
    (h : .write index value ∈ n.actions bindings inputs) : 0 ≤ index ∧ index < n.outputCount := by
  have kinds := NodeType.computation_of_builtin builtin
  simp only [List.mem_cons, List.not_mem_nil, or_false] at kinds
  have first : index = 0 ∧ 0 < n.type.layout.outputs.length := by
    unfold Node.actions at h
    split at h
    · unfold Node.add at h
      grind
    · unfold Node.writeResult at h
      grind
    · unfold Node.writeResult at h
      grind
    · unfold Node.readVariable at h
      grind
    · unfold Node.writeVariable at h
      grind
    · unfold Node.sendMessage at h
      grind
    · grind
    · grind
    · grind
    · grind
  obtain ⟨rfl, some⟩ := first
  exact ⟨Int.le_refl 0, Int.ofNat_lt.mpr some⟩

namespace Checked

def status (p : Progress) (id : Int) : Except Miss Status :=
  match p.status? id with
  | some s => .ok s
  | none => .error (.status id)

/-- The value that an input reads. -/
def resolve (flow : Flow) (p : Progress) : Reference → Except Miss (Except Failure Value)
  | .constant value => .ok (.ok value)
  | .output id index =>
    match flow.node? id with
    | none => .ok (.error (.showing id (.danglingNode id)))
    | some node => do
      let s ← status p id
      if !s.executed then return .error (.notExecuted node.name)
      else if 0 ≤ index && index < node.outputCount then
        match s.outputs[index.toNat]? with
        | some value => return .ok value
        | none => throw (.output id index)
      else return .error (.showing index (.danglingOutput node.name index))

def resolveAll (flow : Flow) (p : Progress) :
    List Reference → Except Miss (Except Failure (List Value))
  | [] => .ok (.ok [])
  | source :: rest => do
    match ← resolve flow p source with
    | .error failure => return .error failure
    | .ok value => return (← resolveAll flow p rest).map (value :: ·)

/-- The progress with an output slot of a node written. -/
def write (p : Progress) (id index : Int) (value : Value) : Except Miss Progress := do
  let s ← status p id
  if 0 ≤ index && index < s.outputs.length then
    return p.modify id fun s => { s with outputs := s.outputs.set index.toNat value }
  else throw (.output id index)

def perform (listener : Listener) (node : Node) (p : Progress) :
    Action → Except Miss (Progress × Option Failure)
  | .write index value => return (← write p node.id index value, none)
  | action => return p.perform listener node action

def performAll (listener : Listener) (node : Node) (p : Progress) :
    List Action → Except Miss (Progress × Option Failure)
  | [] => return (p, none)
  | action :: rest => do
    match ← perform listener node p action with
    | (p, none) => performAll listener node p rest
    | (p, some failure) => return (p, some failure)

/-- The id in the successor slot of a branch. -/
def successor (node : Node) : Option Int → Except Miss (Except Failure Int)
  | none => return .ok (-1)
  | some b =>
    if 0 ≤ b && b < node.branchCount then
      match node.next[b.toNat]? with
      | some id => return .ok id
      | none => throw (.successor node.id b)
    else return .error (.showing b (.fault (.noBranch node.name b node.branchCount)))

/-- A node acts on its inputs and chooses its successor. -/
def act (flow : Flow) (listener : Listener) (node : Node) (p : Progress) (inputs : List Value) :
    Except Miss (Progress × Except Failure (Option Node)) := do
  match ← performAll listener node (p.shows node inputs) (node.actions p.bindings inputs) with
  | (p, some failure) => return (p, .error failure)
  | (p, none) =>
    match Progress.branch node inputs with
    | .error failure => return (p, .error failure)
    | .ok branch =>
      let p := p.modify node.id fun s => { s with executed := true }
      match ← successor node branch with
      | .error failure => return (p, .error failure)
      | .ok next =>
        let p := p.modify node.id fun s => { s with branch := branch, next := next }
        return p.follow flow node next

/-- One step. A node takes its inputs apart, so they have to be as many as its type has. -/
def step (flow : Flow) (listener : Listener) (node : Node) (p : Progress) :
    Except Miss (Progress × Except Failure (Option Node)) := do
  let _ ← status p node.id
  match ← resolveAll flow p node.inputs with
  | .error failure => return (p, .error failure)
  | .ok inputs =>
    if inputs.length = node.inputCount then act flow listener node p inputs
    else throw (.inputs node.id inputs.length)

def record (p : Progress) (id : Int) : Except Miss Progress := do
  return { p with steps := p.steps + 1, trace := p.trace.push (← status p id) }

def walk (flow : Flow) (listener : Listener) (limit : Int) :
    (steps : Nat) → Node → Progress → Except Miss (Progress × Option Failure)
  | 0, _, p => return (p, some (.showing limit (.deadLoop flow.name limit)))
  | steps + 1, node, p => do
    match ← step flow listener node p with
    | (p, .error failure) => return (p, some failure)
    | (p, .ok none) => return (← record p node.id, none)
    | (p, .ok (some next)) => walk flow listener limit steps next (← record p node.id)

/-- The progress with the output slots of a node written one after the other, from a slot on. -/
def seed (id : Int) : (slot : Nat) → List Value → Progress → Except Miss Progress
  | _, [], p => return p
  | slot, value :: rest, p => do seed id (slot + 1) rest (← write p id slot value)

/-- Where a run ends, and why, if no look-up misses. -/
def outcome (flow : Flow) (limit : Int) (listener : Listener) (payload : List Value)
    (bindings : Bindings) : Except Miss (Progress × Option Failure) :=
  match flow.startNode? with
  | none =>
    return (⟨flow.nodes.map Status.fresh, [], #[], 0, #[], #[]⟩, some (.missingStart flow.name))
  | some start => do
    let p ← seed start.id 0 (payload.take start.outputCount)
      ⟨flow.nodes.map Status.fresh, Bindings.update [] bindings, #[], 0, #[], #[]⟩
    walk flow listener limit (Run.allowance limit) start p

section Lookups

variable {flow : Flow} {p : Progress} {node : Node}

theorem status_eq {id : Int} {s : Status} (there : p.status? id = some s) :
    status p id = .ok s := by
  simp only [status, there]

/-- The look-ups of an input do not miss: every node has a status, with a slot for each output. -/
theorem resolve_eq (known : p.Known flow) (source : Reference) :
    resolve flow p source = .ok (p.resolve flow source) := by
  cases source with
  | constant value => rfl
  | output id index =>
    cases there : flow.node? id with
    | none => simp only [resolve, there, Progress.resolve_missing there]
    | some node =>
      obtain ⟨s, shown⟩ := known.status there
      have sized := known.sized there shown
      simp only [resolve, there, status_eq shown]
      cases ran : s.executed with
      | false =>
        rw [Progress.resolve_idle there shown ran]
        simp [bind, Except.bind, ran, pure, Except.pure]
      | true =>
        by_cases inside : 0 ≤ index ∧ index < node.outputCount
        · obtain ⟨value, gives⟩ : ∃ value, s.outputs[index.toNat]? = some value :=
            ⟨_, List.getElem?_eq_getElem (by omega)⟩
          rw [Progress.resolve_output there shown ran inside.1 gives]
          simp [bind, Except.bind, ran, inside, gives, pure, Except.pure]
        · rw [Progress.resolve_outside there shown ran (sized ▸ inside)]
          simp [bind, Except.bind, ran, ← Bool.decide_and, inside, pure, Except.pure]

theorem resolveAll_eq (known : p.Known flow) (inputs : List Reference) :
    resolveAll flow p inputs = .ok (inputs.mapM (p.resolve flow)) := by
  induction inputs with
  | nil => rfl
  | cons source rest ih =>
    rw [resolveAll, resolve_eq known, ih, List.mapM_cons]
    cases p.resolve flow source with
    | error failure => rfl
    | ok value => cases rest.mapM (p.resolve flow) <;> rfl

theorem write_eq {id index : Int} {s : Status} (there : p.status? id = some s) (lower : 0 ≤ index)
    (upper : index < s.outputs.length) (value : Value) :
    write p id index value =
      .ok (p.modify id fun s => { s with outputs := s.outputs.set index.toNat value }) := by
  simp [write, status_eq there, bind, Except.bind, lower, upper, pure, Except.pure]

/-- The look-ups of actions do not miss if these write existing slots only. -/
theorem performAll_eq (listener : Listener) {s : Status} (there : p.status? node.id = some s)
    (sized : s.outputs.length = node.outputCount) {actions : List Action}
    (writes : ∀ (index : Int) value, .write index value ∈ actions →
      0 ≤ index ∧ index < node.outputCount) :
    performAll listener node p actions = .ok (p.performAll listener node actions) := by
  induction actions generalizing p s with
  | nil => rfl
  | cons action rest ih =>
    have others : ∀ (index : Int) value, .write index value ∈ rest →
        0 ≤ index ∧ index < node.outputCount :=
      fun index value h => writes index value (List.mem_cons_of_mem _ h)
    cases action with
    | write index value =>
      obtain ⟨lower, upper⟩ := writes index value List.mem_cons_self
      have now : (p.modify node.id fun s =>
            { s with outputs := s.outputs.set index.toNat value }).status? node.id =
          some { s with outputs := s.outputs.set index.toNat value } :=
        Progress.status?_modify_self there fun _ => rfl
      have later := ih now (List.length_set.trans sized) others
      simpa [performAll, perform, write_eq there lower (sized ▸ upper), Progress.performAll,
        Progress.perform, lower, upper, bind, Except.bind, pure, Except.pure] using later
    | bind name value =>
      exact ih (p := { p with bindings := p.bindings.set name value }) there sized others
    | send message => exact ih (p := p.emit listener message) there sized others
    | fail failure => rfl

theorem successor_eq (fits : node.Fits) (taken : Option Int) :
    successor node taken = .ok (Progress.successor node taken) := by
  cases taken with
  | none => rfl
  | some b =>
    unfold successor Progress.successor
    by_cases inside : 0 ≤ b ∧ b < node.branchCount
    · have slot : b.toNat < node.next.length := by
        rw [fits.next]
        omega
      simp [inside, slot, pure, Except.pure]
    · simp [← Bool.decide_and, inside, pure, Except.pure]

theorem record_eq {id : Int} {s : Status} (there : p.status? id = some s) :
    record p id = .ok (p.record id) := by
  simp only [record, status_eq there, Progress.record, there]
  rfl

/-- No look-up of a step misses. -/
theorem step_eq (listener : Listener) (known : p.Known flow)
    (there : flow.node? node.id = some node) (fits : node.Fits)
    (builtin : node.type ∈ Catalog.standard) :
    step flow listener node p = .ok (p.step flow listener node) := by
  obtain ⟨s, shown⟩ := known.status there
  have now (inputs : List Value) :
      (p.shows node inputs).status? node.id = some { s with inputs := inputs } :=
    Progress.status?_modify_self shown fun _ => rfl
  have acts (inputs : List Value) := performAll_eq listener (now inputs)
    (known.sized there shown :) fun i v (h : .write i v ∈ node.actions p.bindings inputs) =>
      Node.actions_write builtin h
  have arity {inputs : List Value} (read : node.inputs.mapM (p.resolve flow) = .ok inputs) :
      inputs.length = node.inputCount :=
    ((List.mapM_eq_ok_iff _ _ _).mp read).length_eq.symm.trans fits.inputs
  cases ran : p.step flow listener node with
  | mk q result =>
    unfold step
    simp only [status_eq shown, resolveAll_eq known, Except.ok_bind]
    cases Progress.stepped_of_step ran with
    | unread read =>
      rw [read]
      rfl
    | unacted read acted =>
      simp only [read, arity read, act, acts, acted, Except.ok_bind]
      rfl
    | unbranched read acted took =>
      rw [Progress.Acted] at acted
      simp only [read, arity read, act, acts, acted, took, Except.ok_bind]
      rfl
    | unfollowed read acted took goes =>
      rw [Progress.Acted] at acted
      simp only [read, arity read, act, acts, acted, took, successor_eq fits, goes, Except.ok_bind]
      rfl
    | lost read acted took goes unsaid =>
      rw [Progress.Acted] at acted
      simp only [read, arity read, act, acts, acted, took, successor_eq fits, goes, Except.ok_bind]
      exact congrArg _ (Progress.follow_unsaid node _ unsaid)
    | done read acted took goes nameable =>
      rw [Progress.Acted] at acted
      simp only [read, arity read, act, acts, acted, took, successor_eq fits, goes, Except.ok_bind]
      exact congrArg Except.ok (Prod.ext rfl (Progress.follow_nameable node _ nameable))

end Lookups

section Runs

variable {flow : Flow}

/-- No look-up of a walk misses: each step leaves a status with all its slots for every node. -/
theorem walk_eq (listener : Listener) (limit : Int) (fits : ∀ n ∈ flow.nodes, n.Fits)
    (builtin : ∀ n ∈ flow.nodes, n.type ∈ Catalog.standard) (steps : Nat) {node : Node}
    {p : Progress} (known : p.Known flow) (there : flow.node? node.id = some node) :
    walk flow listener limit steps node p = .ok (p.walk flow listener limit steps node) := by
  induction steps generalizing node p with
  | zero => rfl
  | succ steps ih =>
    obtain ⟨mem, -⟩ := Flow.mem_of_node? there
    unfold walk Progress.walk
    rw [step_eq listener known there (fits node mem) (builtin node mem), Except.ok_bind]
    cases ran : p.step flow listener node with
    | mk q result =>
      cases result with
      | error failure => rfl
      | ok next? =>
        obtain ⟨s, before⟩ := known.status there
        obtain ⟨_, _, _, -, -, -, -, -, statuses⟩ := Progress.step_ok ran
        have shown := (Progress.status?_of_statuses statuses node.id).trans
          (Progress.status?_modify_self before fun _ => rfl)
        cases next? with
        | none =>
          simp only [record_eq shown, Except.ok_bind]
          rfl
        | some next =>
          simp only [record_eq shown, Except.ok_bind]
          exact ih (known.step there ran) (known.present_next there ran)

/-- The slots of a node after values were written to them one after the other, from a slot on. -/
def filled : (slot : Nat) → List Value → List Value → List Value
  | _, [], outputs => outputs
  | slot, value :: rest, outputs => filled (slot + 1) rest (outputs.set slot value)

theorem filled_eq (values : List Value) {slot : Nat} {outputs : List Value}
    (enough : slot + values.length ≤ outputs.length) :
    filled slot values outputs =
      outputs.take slot ++ values ++ outputs.drop (slot + values.length) := by
  induction values generalizing slot outputs with
  | nil => simp [filled]
  | cons value rest ih =>
    rw [List.length_cons] at enough
    have within : slot < outputs.length := by omega
    have short : (outputs.take slot).length ≤ slot := List.length_take_le slot outputs
    rw [filled, ih (by rw [List.length_set]; omega), List.set_eq_take_append_cons_drop,
      if_pos within]
    have front : (outputs.take slot ++ value :: outputs.drop (slot + 1)).take (slot + 1) =
        outputs.take slot ++ [value] := by
      rw [List.take_append, List.take_of_length_le (short.trans (Nat.le_succ slot))]
      simp [List.length_take_of_le within.le]
    have back : (outputs.take slot ++ value :: outputs.drop (slot + 1)).drop
        (slot + 1 + rest.length) = outputs.drop (slot + (rest.length + 1)) := by
      rw [List.drop_append, List.drop_eq_nil_of_le (short.trans (by omega)),
        List.length_take_of_le within.le,
        show slot + 1 + rest.length - slot = rest.length + 1 by omega]
      simp [Nat.add_assoc, Nat.add_comm 1]
    rw [front, back]
    simp

/-- Values that are no more than the slots are all written. -/
theorem seed_eq {id : Int} {values : List Value} {slot : Nat} {p : Progress} {s : Status}
    (there : p.status? id = some s) (enough : slot + values.length ≤ s.outputs.length) :
    seed id slot values p =
      .ok (p.modify id fun s => { s with outputs := filled slot values s.outputs }) := by
  induction values generalizing slot p s with
  | nil => simp [seed, filled, Progress.modify, pure, Except.pure]
  | cons value rest ih =>
    rw [List.length_cons] at enough
    have now : (p.modify id fun s => { s with outputs := s.outputs.set slot value }).status? id =
        some { s with outputs := s.outputs.set slot value } :=
      Progress.status?_modify_self there fun _ => rfl
    have written := write_eq there (Int.natCast_nonneg slot) (by omega) value
    rw [Int.toNat_natCast] at written
    rw [seed, written, Except.ok_bind, ih now (by rw [List.length_set]; omega)]
    exact congrArg _ (Progress.modify_modify p id _ _ fun _ => rfl)

/-- A payload that is written to the slots of the start, as far as it has any, is what runs begin
with. -/
theorem seeded_eq (wellFormed : flow.WellFormed) {start : Node}
    (begins : flow.startNode? = some start) (payload : List Value) (bindings : Bindings) :
    (⟨flow.nodes.map Status.fresh, Bindings.update [] bindings, #[], 0, #[], #[]⟩ : Progress).modify
        start.id (fun s =>
          { s with outputs := filled 0 (payload.take start.outputCount) s.outputs }) =
      Progress.initial flow payload bindings := by
  obtain ⟨mem, same⟩ := Flow.mem_of_node? begins
  unfold Progress.initial
  rw [same]
  apply Progress.modify_congr
  intro s there own
  obtain ⟨n, hn, rfl⟩ := List.mem_map.mp there
  obtain rfl : n = start :=
    List.inj_on_of_nodup_map wellFormed.distinct hn mem (own.trans same.symm)
  have slots : (Status.fresh n).outputs.length = n.outputCount := by
    simp [Status.fresh, Node.outputCount]
  have rest : (Status.fresh n).outputs.drop (payload.take n.outputCount).length =
      (Status.fresh n).outputs.drop payload.length := by
    rw [List.length_take]
    rcases Nat.le_total payload.length n.outputCount with short | long
    · rw [Nat.min_eq_right short]
    · rw [Nat.min_eq_left long, List.drop_eq_nil_of_le (Nat.le_of_eq slots),
        List.drop_eq_nil_of_le (slots ▸ long)]
  rw [filled_eq _ (by rw [slots, List.length_take]; omega), slots]
  simp only [List.take_zero, List.nil_append, Nat.zero_add, rest]

/-- **No look-up of a run misses**, so a run that would stop at one ends as runs do. -/
theorem outcome_eq (wellFormed : flow.WellFormed)
    (builtin : ∀ n ∈ flow.nodes, n.type ∈ Catalog.standard) (limit : Int) (listener : Listener)
    (payload : List Value) (bindings : Bindings) :
    outcome flow limit listener payload bindings =
      .ok (Run.outcome flow limit listener payload bindings) := by
  unfold outcome
  cases begins : flow.startNode? with
  | none =>
    rw [Run.outcome_missing begins]
    rfl
  | some start =>
    have fresh : (⟨flow.nodes.map Status.fresh, Bindings.update [] bindings, #[], 0, #[], #[]⟩ :
        Progress).status? start.id = some (Status.fresh start) := by
      rw [Progress.status?_of_fresh rfl, Progress.node?_of_start begins, Option.map_some]
    have room :
        0 + (payload.take start.outputCount).length ≤ (Status.fresh start).outputs.length := by
      simp only [Status.fresh, Node.outputCount, List.length_take, List.length_map]
      omega
    dsimp only
    rw [seed_eq fresh room, Except.ok_bind, seeded_eq wellFormed begins payload bindings]
    simp only [Run.outcome, begins]
    exact walk_eq listener limit wellFormed.fits builtin _ (Progress.known_initial _ _ _)
      (Progress.node?_of_start begins)

end Runs

end Checked

end EventFlow
