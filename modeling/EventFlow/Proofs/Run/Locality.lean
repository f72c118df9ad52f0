import EventFlow.Edit.Editor
import EventFlow.Proofs.Flow.Copy
import EventFlow.Proofs.Run.Path

/-!
A run depends on what its start can reach, and on nothing else of its flow.

* `SameReach`: two flows are alike where the start can reach;
* `Agrees`: what two runs know and did is the same there, kept by every step of both;
* `start_sameReach`: runs of such flows have the same record, whatever their listeners do.
-/

namespace EventFlow

/-- Two flows with the same name, the same start and the same nodes in reach of it. An id that the
start or a branch names is in both or in neither; a node that an input names, in reach or not, has
the same name in both. -/
structure Flow.SameReach (f g : Flow) : Prop where
  name : f.name = g.name
  start : f.start = g.start
  begins : f.has f.start = g.has f.start
  follows : ∀ id ∈ f.reachable, ∀ n, f.node? id = some n → ∀ b ∈ n.next, 0 ≤ b → f.has b = g.has b
  nodes : ∀ id ∈ f.reachable, f.node? id = g.node? id
  sources : ∀ id ∈ f.reachable, ∀ n, f.node? id = some n → ∀ m j : Int, .output m j ∈ n.inputs →
    (f.node? m).map Node.name = (g.node? m).map Node.name

/-- What a host can see of a run: how it ended, what it did, and what it said. The messages are as
many, and they are the same unless what the listeners do to them differs. -/
structure Run.SameRecord (r s : Run) : Prop where
  phase : r.phase = s.phase
  stepCount : r.stepCount = s.stepCount
  trace : r.trace = s.trace
  bindings : r.bindings = s.bindings
  count : r.messages.length = s.messages.length
  messages : r.listener.Alike s.listener → r.messages = s.messages
  failure : r.failure = s.failure

namespace Progress

/-- No node outside a set of ids has run. -/
def Idle (reach : Set Int) (p : Progress) : Prop :=
  ∀ id ∉ reach, ∀ s, p.status? id = some s → s.executed = false

theorem idle_initial (flow : Flow) (payload : List Value) (bindings : Bindings) (reach : Set Int) :
    (initial flow payload bindings).Idle reach := by
  intro id _ s status
  rw [status?_initial] at status
  obtain ⟨n, -, rfl⟩ := Option.map_eq_some_iff.mp status
  split <;> rfl

/-- Two runs did the same, and know the same of the nodes in reach; so they kept the same messages
if the same was done to these. -/
structure Agrees (reach : Set Int) (same : Prop) (p q : Progress) : Prop where
  bindings : p.bindings = q.bindings
  count : p.messages.size = q.messages.size
  messages : same → p.messages = q.messages
  steps : p.steps = q.steps
  trace : p.trace = q.trace
  status : ∀ id ∈ reach, p.status? id = q.status? id
  left : p.Idle reach
  right : q.Idle reach

section Agrees

variable {reach : Set Int} {same : Prop} {l l' : Listener} {p q : Progress}

theorem Idle.modify (h : p.Idle reach) {id : Int} (mem : id ∈ reach) {change : Status → Status}
    (keeps : ∀ s, (change s).node = s.node) : (p.modify id change).Idle reach := by
  intro other out s status
  have differs : other ≠ id := fun same => out (same ▸ mem)
  rw [status?_modify p id other keeps, if_neg differs] at status
  exact h other out s status

/-- Both runs change the same status in the same way. -/
theorem Agrees.modify (h : p.Agrees reach same q) {id : Int} (mem : id ∈ reach)
    {change : Status → Status} (keeps : ∀ s, (change s).node = s.node) :
    (p.modify id change).Agrees reach same (q.modify id change) where
  bindings := h.bindings
  count := h.count
  messages := h.messages
  steps := h.steps
  trace := h.trace
  status other inside := by
    rw [status?_modify p id other keeps, status?_modify q id other keeps, h.status other inside]
  left := h.left.modify mem keeps
  right := h.right.modify mem keeps

/-- A new message goes to both runs, whatever their listeners do to the messages. -/
theorem Agrees.emit (h : p.Agrees reach (l.Alike l') q) (message : Message) :
    (p.emit l message).Agrees reach (l.Alike l') (q.emit l' message) where
  bindings := h.bindings
  count := by simp only [Progress.emit, Reaction.size_revise, Array.size_push, h.count]
  messages alike := by
    simp only [Progress.emit, Reaction.revise, h.messages alike, alike q.messages.size]
  steps := h.steps
  trace := h.trace
  status := h.status
  left := h.left
  right := h.right

/-- An action has the same effect in both runs, whoever listens. -/
theorem Agrees.perform (h : p.Agrees reach (l.Alike l') q) {node : Node} (mem : node.id ∈ reach)
    (action : Action) :
    (p.perform l node action).2 = (q.perform l' node action).2 ∧
      (p.perform l node action).1.Agrees reach (l.Alike l') (q.perform l' node action).1 := by
  cases action with
  | write index value =>
    simp only [Progress.perform]
    split
    · exact ⟨rfl, h.modify mem fun _ => rfl⟩
    · split <;> exact ⟨rfl, h⟩
  | bind name value =>
    exact ⟨rfl, { h with bindings := congrArg (Bindings.set · name value) h.bindings }⟩
  | send message => exact ⟨rfl, h.emit message⟩
  | fail failure => exact ⟨rfl, h⟩

theorem Agrees.performAll (h : p.Agrees reach (l.Alike l') q) {node : Node}
    (mem : node.id ∈ reach) (actions : List Action) :
    (p.performAll l node actions).2 = (q.performAll l' node actions).2 ∧
      (p.performAll l node actions).1.Agrees reach (l.Alike l')
        (q.performAll l' node actions).1 := by
  induction actions generalizing p q with
  | nil => exact ⟨rfl, h⟩
  | cons action rest ih =>
    obtain ⟨same, after⟩ := h.perform mem action
    unfold Progress.performAll
    cases first : p.perform l node action with
    | mk p₁ end? =>
      cases second : q.perform l' node action with
      | mk q₁ end?' =>
        rw [first, second] at same after
        obtain rfl : end? = end?' := same
        cases end? with
        | none => exact ih after
        | some failure => exact ⟨rfl, after⟩

theorem Agrees.turns (h : p.Agrees reach same q) {node : Node} (mem : node.id ∈ reach)
    (taken : Option Int) (next : Int) :
    (p.turns node taken next).Agrees reach same (q.turns node taken next) := by
  refine Agrees.modify (Agrees.modify h mem ?_) mem ?_ <;> exact fun _ => rfl

theorem Agrees.record (h : p.Agrees reach same q) {id : Int} (mem : id ∈ reach) :
    (p.record id).Agrees reach same (q.record id) := by
  have seen := h.status id mem
  unfold Progress.record
  cases status : q.status? id with
  | none =>
    rw [seen, status]
    exact h
  | some s =>
    rw [seen, status]
    exact { h with
      steps := congrArg (· + 1) h.steps
      trace := congrArg (Array.push · s) h.trace }

theorem Agrees.follow (h : p.Agrees reach same q) (f g : Flow) (node : Node) (next : Int) :
    (p.follow f node next).1.Agrees reach same (q.follow g node next).1 := by
  obtain ⟨log, first⟩ := follow_logs node p f next
  obtain ⟨log', second⟩ := follow_logs node q g next
  rw [first, second]
  exact { h with }

end Agrees

end Progress

namespace Flow.SameReach

open Progress

variable {f g : Flow} {same : Prop} {l l' : Listener} {p q : Progress} {node : Node}

/-- An input of a node in reach gives the same in both runs: a node out of reach has not run in
either. -/
theorem resolve (h : f.SameReach g) (agrees : p.Agrees f.reachable same q)
    (mem : node.id ∈ f.reachable)
    (there : f.node? node.id = some node) {source : Reference} (input : source ∈ node.inputs) :
    p.resolve f source = q.resolve g source := by
  cases source with
  | constant value => rfl
  | output m j =>
    have named := h.sources node.id mem node there m j input
    cases first : f.node? m with
    | none =>
      rw [first, Option.map_none, eq_comm, Option.map_eq_none_iff] at named
      rw [resolve_missing first, resolve_missing named]
    | some n =>
      rw [first, Option.map_some, eq_comm, Option.map_eq_some_iff] at named
      obtain ⟨n', second, name⟩ := named
      by_cases inside : m ∈ f.reachable
      · simp only [Progress.resolve, first, second, agrees.status m inside, name]
      · have unran (flow : Flow) (n : Node) (p : Progress) (idle : p.Idle f.reachable)
            (there : flow.node? m = some n) :
            p.resolve flow (.output m j) = .error (.notExecuted n.name) := by
          cases status : p.status? m with
          | none => simp [Progress.resolve, there, status]
          | some s => exact resolve_idle there status (idle m inside s status)
        rw [unran f n p agrees.left first, unran g n' q agrees.right second, name]

theorem reads (h : f.SameReach g) (agrees : p.Agrees f.reachable same q)
    (mem : node.id ∈ f.reachable)
    (there : f.node? node.id = some node) :
    node.inputs.mapM (p.resolve f) = node.inputs.mapM (q.resolve g) :=
  List.mapM_congr_left fun _ input => h.resolve agrees mem there input

/-- An id that follows a node in reach is missed in both flows or in neither. -/
theorem missing (h : f.SameReach g) (mem : node.id ∈ f.reachable)
    (there : f.node? node.id = some node) {taken : Option Int} {next : Int}
    (goes : successor node taken = .ok next) (natural : 0 ≤ next) :
    f.node? next = none ↔ g.node? next = none := by
  have branch := mem_next_of_successor goes natural
  have present := h.follows node.id mem node there next branch natural
  rw [has, has] at present
  rw [← Option.not_isSome_iff_eq_none, ← Option.not_isSome_iff_eq_none, present]

/-- What follows a node in reach is the same in both flows, and is in reach if it is there. -/
theorem onward (h : f.SameReach g) (mem : node.id ∈ f.reachable)
    (there : f.node? node.id = some node) {taken : Option Int} {next : Int}
    (goes : successor node taken = .ok next) :
    Progress.onward f next = Progress.onward g next ∧
      ∀ n, Progress.onward f next = some n → n.id ∈ f.reachable := by
  unfold Progress.onward
  by_cases negative : next < 0
  · simp [negative]
  · rw [if_neg negative, if_neg negative]
    have nonneg : 0 ≤ next := by omega
    have branch := mem_next_of_successor goes nonneg
    have present := h.follows node.id mem node there next branch nonneg
    cases found : f.node? next with
    | none =>
      rw [has, found, eq_comm, has, Option.isSome_none, Option.isSome_eq_false_iff] at present
      exact ⟨(Option.isNone_iff_eq_none.mp present).symm, by simp⟩
    | some n =>
      have has : f.has next := by simp [has, found]
      have inside : next ∈ f.reachable := ⟨has, mem.2.tail ⟨nonneg, has, node, there, branch⟩⟩
      refine ⟨found ▸ h.nodes next inside, ?_⟩
      intro n' same
      obtain rfl : n = n' := Option.some.inj same
      rw [(mem_of_node? found).2]
      exact inside

/-- The actions of a node in reach have the same effect and the same end in both runs. -/
theorem acted (agrees : p.Agrees f.reachable (l.Alike l') q) (mem : node.id ∈ f.reachable)
    {inputs : List Value} {p' : Progress} {end? : Option Failure}
    (done : (p.shows node inputs).performAll l node (node.actions p.bindings inputs) = (p', end?)) :
    ∃ q', (q.shows node inputs).performAll l' node (node.actions q.bindings inputs) = (q', end?) ∧
      p'.Agrees f.reachable (l.Alike l') q' := by
  have shown : (p.shows node inputs).Agrees f.reachable (l.Alike l') (q.shows node inputs) :=
    agrees.modify mem fun _ => rfl
  obtain ⟨same, after⟩ := shown.performAll mem (node.actions p.bindings inputs)
  rw [done] at same after
  rw [← agrees.bindings]
  exact ⟨_, Prod.ext rfl same.symm, after⟩

/-- A step of a node in reach does the same in both runs. -/
theorem stepped (h : f.SameReach g) (agrees : p.Agrees f.reachable (l.Alike l') q)
    (mem : node.id ∈ f.reachable) (there : f.node? node.id = some node) {p' : Progress}
    {result : Except Failure (Option Node)} (ran : p.Stepped f l node p' result) :
    ∃ q', q.Stepped g l' node q' result ∧ p'.Agrees f.reachable (l.Alike l') q' := by
  have reads := h.reads agrees mem there
  cases ran with
  | unread read => exact ⟨q, .unread (reads ▸ read), agrees⟩
  | unacted read done =>
    obtain ⟨q', done', after⟩ := acted agrees mem done
    exact ⟨q', .unacted (reads ▸ read) done', after⟩
  | unbranched read done took =>
    obtain ⟨q', done', after⟩ := acted agrees mem done
    exact ⟨q', .unbranched (reads ▸ read) done' took, after⟩
  | unfollowed read done took goes =>
    obtain ⟨q', done', after⟩ := acted agrees mem done
    exact ⟨_, .unfollowed (reads ▸ read) done' took goes, after.modify mem fun _ => rfl⟩
  | lost read done took goes unsaid =>
    obtain ⟨q', done', after⟩ := acted agrees mem done
    have unsaid' : Unsaid g _ :=
      ⟨unsaid.natural, (h.missing mem there goes unsaid.natural).mp unsaid.missing, unsaid.long⟩
    exact ⟨_, .lost (reads ▸ read) done' took goes unsaid', after.turns mem _ _⟩
  | done read done took goes nameable =>
    obtain ⟨q', done', after⟩ := acted agrees mem done
    have nameable' : Nameable g _ := fun natural none =>
      nameable natural ((h.missing mem there goes natural).mpr none)
    rw [(h.onward mem there goes).1]
    exact ⟨_, .done (reads ▸ read) done' took goes nameable',
      (after.turns mem _ _).follow f g node _⟩

/-- From a node in reach on, both runs do the same and end in the same way. -/
theorem walk (h : f.SameReach g) (limit : Int) (steps : Nat)
    (agrees : p.Agrees f.reachable (l.Alike l') q) (mem : node.id ∈ f.reachable)
    (there : f.node? node.id = some node) :
    (p.walk f l limit steps node).2 = (q.walk g l' limit steps node).2 ∧
      (p.walk f l limit steps node).1.Agrees f.reachable (l.Alike l')
        (q.walk g l' limit steps node).1 := by
  induction steps generalizing node p q with
  | zero =>
    simp only [Progress.walk, h.name, true_and]
    exact agrees
  | succ steps ih =>
    unfold Progress.walk
    cases ran : p.step f l node with
    | mk p' result =>
      obtain ⟨q', ran', after⟩ := h.stepped agrees mem there (stepped_of_step ran)
      rw [ran'.step_eq]
      cases result with
      | error failure => exact ⟨rfl, after⟩
      | ok next? =>
        cases next? with
        | none => exact ⟨rfl, after.record mem⟩
        | some next =>
          obtain ⟨inputs, taken, id, -, -, goes, onwards, -, -⟩ := step_ok ran
          have inside := (h.onward mem there goes).2 next onwards.symm
          exact ih (after.record mem) inside (node?_of_onward onwards.symm)

theorem initial (h : f.SameReach g) (payload : List Value) (bindings : Bindings) :
    (Progress.initial f payload bindings).Agrees f.reachable same
      (Progress.initial g payload bindings) where
  bindings := rfl
  count := rfl
  messages _ := rfl
  steps := rfl
  trace := rfl
  status id inside := by
    rw [status?_initial, status?_initial, h.nodes id inside, h.start]
  left := idle_initial f payload bindings _
  right := idle_initial g payload bindings _

/-- Runs of both flows have the same record. -/
theorem execute (h : f.SameReach g) (limit : Int) (l l' : Listener) (payload : List Value)
    (bindings : Bindings) :
    ((Run.pending f limit l).execute payload bindings).1.SameRecord
      ((Run.pending g limit l').execute payload bindings).1 := by
  have begins := h.begins
  unfold Run.execute
  cases there : f.startNode? with
  | none =>
    have missing : g.startNode? = none := by
      rw [has, has, ← startNode?, there, h.start, ← startNode?] at begins
      simpa using begins.symm
    simp only [Run.pending, Run.outcome_missing there, Run.outcome_missing missing, h.name]
    exact ⟨rfl, rfl, rfl, rfl, rfl, fun _ => rfl, rfl⟩
  | some start =>
    have present := node?_of_start there
    obtain ⟨-, same⟩ := mem_of_node? there
    have mem : start.id ∈ f.reachable := by
      rw [same]
      exact ⟨Option.isSome_iff_exists.mpr ⟨start, there⟩, .refl⟩
    have there' : g.startNode? = some start := by
      rw [startNode?, ← h.start, ← same, ← h.nodes start.id mem, present]
    have before : (Progress.initial f payload bindings).Agrees f.reachable (l.Alike l')
        (Progress.initial g payload bindings) := h.initial payload bindings
    obtain ⟨failure, agrees⟩ := h.walk limit (Run.allowance limit) before mem present
    simp only [Run.pending, Run.outcome, there, there']
    refine ⟨?_, agrees.steps, ?_, agrees.bindings, agrees.count, ?_, failure⟩
    · simp only [failure]
    · simp only [agrees.trace]
    · intro alike
      simp only [agrees.messages alike]

end Flow.SameReach

/-- The built-in types without the one that adds. -/
def sumless : Catalog :=
  Catalog.standard.filter fun type => type.key ≠ "AdditionNode"

end EventFlow
