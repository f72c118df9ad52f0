import EventFlow.Proofs.Run.Walk
import EventFlow.Run.Again

/-!
A run that was used before runs as a new one does.

* `cleared_walk`: wherever a walk ends or breaks off, a reset takes back all that it did to the
  statuses;
* `AlikeBut.walk`: who listens shows in the log of a walk, and in its messages if the listener
  changes them, and in nothing else;
* `Renewable.again_eq`: what is left of a run after a reset is a new run;
* `used_as_new`: so the uses that a run has behind it do not show in the next one.
-/

namespace EventFlow

theorem Status.reset_fresh (n : Node) : (Status.fresh n).reset = Status.fresh n := by
  simp [reset, fresh]

/-- A reset keeps of the outputs only how many they are. -/
theorem Status.reset_outputs {s : Status} {outputs : List Value}
    (same : outputs.length = s.outputs.length) : { s with outputs := outputs }.reset = s.reset := by
  simp [reset, same]

namespace Progress

variable {flow : Flow} {l l' : Listener} {node : Node} {p q : Progress}

/-- The statuses as a reset would leave them. -/
def cleared (p : Progress) : List Status :=
  p.statuses.map Status.reset

theorem cleared_modify (p : Progress) (id : Int) {change : Status → Status}
    (same : ∀ s, (change s).reset = s.reset) : (p.modify id change).cleared = p.cleared := by
  simp only [cleared, modify, List.map_map]
  apply List.map_congr_left
  intro s _
  rw [Function.comp_apply]
  split
  · exact same s
  · rfl

theorem cleared_perform (l : Listener) (node : Node) (p : Progress) (action : Action) :
    (p.perform l node action).1.cleared = p.cleared := by
  cases action with
  | write index value =>
    simp only [perform]
    split
    · exact p.cleared_modify node.id fun s => Status.reset_outputs List.length_set
    · split <;> rfl
  | bind | send | fail => rfl

theorem cleared_performAll (l : Listener) (node : Node) (p : Progress) (actions : List Action) :
    (p.performAll l node actions).1.cleared = p.cleared := by
  induction actions generalizing p with
  | nil => rfl
  | cons action rest ih =>
    have first := cleared_perform l node p action
    unfold performAll
    cases done : p.perform l node action with
    | mk q failure =>
      rw [done] at first
      cases failure with
      | none => exact (ih q).trans first
      | some failure => exact first

theorem cleared_acts (l : Listener) (node : Node) (p : Progress) (inputs : List Value)
    (actions : List Action) :
    ((p.shows node inputs).performAll l node actions).1.cleared = p.cleared :=
  (cleared_performAll l node _ actions).trans (p.cleared_modify node.id fun _ => rfl)

theorem Acted.cleared {inputs : List Value} (h : p.Acted l node inputs q) :
    q.cleared = p.cleared := by
  have kept := cleared_acts l node p inputs (node.actions p.bindings inputs)
  rwa [h] at kept

theorem cleared_turns (node : Node) (p : Progress) (taken : Option Int) (next : Int) :
    (p.turns node taken next).cleared = p.cleared := by
  unfold turns
  rw [cleared_modify _ node.id, cleared_modify _ node.id] <;> exact fun _ => rfl

/-- However a step ends, a reset takes back what it did to the statuses. -/
theorem Stepped.cleared {result : Except Failure (Option Node)}
    (h : p.Stepped flow l node q result) : q.cleared = p.cleared := by
  cases h with
  | unread => rfl
  | @unacted inputs q _ read acted =>
    have kept := cleared_acts l node p inputs (node.actions p.bindings inputs)
    rwa [acted] at kept
  | unbranched _ acted => exact acted.cleared
  | @unfollowed inputs q _ _ _ acted =>
    have marked : (q.modify node.id fun s => { s with executed := true }).cleared = q.cleared :=
      q.cleared_modify node.id fun _ => rfl
    exact marked.trans acted.cleared
  | @lost inputs q taken next _ acted =>
    exact (cleared_turns node q taken next).trans acted.cleared
  | @done inputs q taken next read acted =>
    obtain ⟨log, followed⟩ := follow_logs node (q.turns node taken next) flow next
    rw [followed]
    exact (cleared_turns node q taken next).trans acted.cleared

theorem cleared_record (p : Progress) (id : Int) : (p.record id).cleared = p.cleared := by
  unfold record
  split <;> rfl

theorem cleared_walk (flow : Flow) (l : Listener) (limit : Int) (steps : Nat) (node : Node)
    (p : Progress) : (p.walk flow l limit steps node).1.cleared = p.cleared := by
  induction steps generalizing node p with
  | zero => rfl
  | succ steps ih =>
    unfold walk
    cases ran : p.step flow l node with
    | mk q result =>
      have kept := (stepped_of_step ran).cleared
      cases result with
      | error failure => exact kept
      | ok next? =>
        cases next? with
        | none => exact (cleared_record q node.id).trans kept
        | some next => exact ((ih next _).trans (cleared_record q node.id)).trans kept

theorem cleared_supply (p : Progress) (start : Int) (payload : List Value) (bindings : Bindings) :
    (p.supply start payload bindings).cleared = p.cleared := by
  apply p.cleared_modify start
  intro s
  apply Status.reset_outputs
  simp only [List.length_append, List.length_take, List.length_drop]
  omega

/-- Two runs differ in nothing but what was logged, and in what was done to their messages, unless
that was the same. -/
def AlikeBut (same : Prop) (p q : Progress) : Prop :=
  ∃ messages log, q = { p with messages := messages, log := log } ∧
    messages.size = p.messages.size ∧ (same → messages = p.messages)

section AlikeBut

variable {same : Prop}

theorem AlikeBut.refl (p : Progress) : AlikeBut same p p :=
  ⟨p.messages, p.log, rfl, rfl, fun _ => rfl⟩

theorem AlikeBut.modify (h : AlikeBut same p q) (id : Int) (change : Status → Status) :
    AlikeBut same (p.modify id change) (q.modify id change) := by
  obtain ⟨messages, log, rfl, size, equal⟩ := h
  exact ⟨messages, log, rfl, size, equal⟩

/-- What is done to the messages may differ, but they are as many. -/
theorem AlikeBut.emit (h : AlikeBut (l.Alike l') p q) (message : Message) :
    AlikeBut (l.Alike l') (p.emit l message) (q.emit l' message) := by
  obtain ⟨messages, log, rfl, size, equal⟩ := h
  refine ⟨_, _, rfl, ?_, ?_⟩
  · simp only [Progress.emit, Reaction.size_revise, Array.size_push, size]
  · intro alike
    obtain rfl := equal alike
    simp only [Progress.emit, Reaction.revise, alike p.messages.size]

theorem AlikeBut.perform (h : AlikeBut (l.Alike l') p q) (node : Node) (action : Action) :
    (p.perform l node action).2 = (q.perform l' node action).2 ∧
      AlikeBut (l.Alike l') (p.perform l node action).1 (q.perform l' node action).1 := by
  cases action with
  | write index value =>
    simp only [Progress.perform]
    split
    · exact ⟨rfl, h.modify node.id _⟩
    · split <;> exact ⟨rfl, h⟩
  | bind name value =>
    obtain ⟨messages, log, rfl, size, equal⟩ := h
    exact ⟨rfl, messages, log, rfl, size, equal⟩
  | send message => exact ⟨rfl, h.emit message⟩
  | fail failure => exact ⟨rfl, h⟩

theorem AlikeBut.performAll (h : AlikeBut (l.Alike l') p q) (node : Node)
    (actions : List Action) :
    (p.performAll l node actions).2 = (q.performAll l' node actions).2 ∧
      AlikeBut (l.Alike l') (p.performAll l node actions).1 (q.performAll l' node actions).1 := by
  induction actions generalizing p q with
  | nil => exact ⟨rfl, h⟩
  | cons action rest ih =>
    obtain ⟨same, after⟩ := h.perform node action
    unfold Progress.performAll
    cases first : p.perform l node action with
    | mk p₁ end? =>
      cases second : q.perform l' node action with
      | mk q₁ end?' =>
        rw [first, second] at same after
        obtain rfl : end? = end?' := same
        cases end? with
        | none => exact ih after
        | some failure => exact ⟨rfl, after⟩

theorem AlikeBut.acted {inputs : List Value} (h : AlikeBut (l.Alike l') p q)
    {p' : Progress} {end? : Option Failure}
    (done : (p.shows node inputs).performAll l node (node.actions p.bindings inputs) =
      (p', end?)) :
    ∃ q', (q.shows node inputs).performAll l' node (node.actions q.bindings inputs) =
      (q', end?) ∧ AlikeBut (l.Alike l') p' q' := by
  have bound : q.bindings = p.bindings := by
    obtain ⟨messages, log, rfl, -⟩ := h
    rfl
  obtain ⟨same, after⟩ := (h.modify node.id fun s => { s with inputs := inputs }).performAll node
    (node.actions p.bindings inputs)
  rw [shows] at done
  rw [done] at same after
  rw [shows, bound]
  exact ⟨_, Prod.ext rfl same.symm, after⟩

theorem AlikeBut.turns (h : AlikeBut same p q) (node : Node) (taken : Option Int) (next : Int) :
    AlikeBut same (p.turns node taken next) (q.turns node taken next) :=
  (h.modify node.id _).modify node.id _

theorem AlikeBut.follow (h : AlikeBut same p q) (flow : Flow) (node : Node) (next : Int) :
    AlikeBut same (Progress.follow flow node p next).1 (Progress.follow flow node q next).1 := by
  obtain ⟨before, first⟩ := follow_logs node p flow next
  obtain ⟨after, second⟩ := follow_logs node q flow next
  obtain ⟨messages, log, rfl, size, equal⟩ := h
  rw [first, second]
  exact ⟨messages, after, rfl, size, equal⟩

/-- A step ends in the same way, whoever listens. -/
theorem AlikeBut.stepped (h : AlikeBut (l.Alike l') p q) {p' : Progress}
    {result : Except Failure (Option Node)} (ran : p.Stepped flow l node p' result) :
    ∃ q', q.Stepped flow l' node q' result ∧ AlikeBut (l.Alike l') p' q' := by
  have reads : resolve flow q = resolve flow p := by
    obtain ⟨messages, log, rfl, -⟩ := h
    rfl
  cases ran with
  | unread read => exact ⟨q, .unread (reads ▸ read), h⟩
  | unacted read acted =>
    obtain ⟨q', acted', after⟩ := h.acted acted
    exact ⟨q', .unacted (reads ▸ read) acted', after⟩
  | unbranched read acted took =>
    obtain ⟨q', acted', after⟩ := h.acted acted
    exact ⟨q', .unbranched (reads ▸ read) acted' took, after⟩
  | unfollowed read acted took goes =>
    obtain ⟨q', acted', after⟩ := h.acted acted
    exact ⟨_, .unfollowed (reads ▸ read) acted' took goes, after.modify node.id _⟩
  | lost read acted took goes unsaid =>
    obtain ⟨q', acted', after⟩ := h.acted acted
    exact ⟨_, .lost (reads ▸ read) acted' took goes unsaid, after.turns node _ _⟩
  | done read acted took goes nameable =>
    obtain ⟨q', acted', after⟩ := h.acted acted
    exact ⟨_, .done (reads ▸ read) acted' took goes nameable,
      (after.turns node _ _).follow flow node _⟩

theorem AlikeBut.record (h : AlikeBut same p q) (id : Int) :
    AlikeBut same (p.record id) (q.record id) := by
  obtain ⟨messages, log, rfl, size, equal⟩ := h
  have seen : status? { p with messages := messages, log := log } id = p.status? id := rfl
  unfold Progress.record
  rw [seen]
  cases p.status? id <;> exact ⟨messages, log, rfl, size, equal⟩

theorem AlikeBut.walk (h : AlikeBut (l.Alike l') p q) (flow : Flow) (limit : Int) (steps : Nat)
    (node : Node) :
    (p.walk flow l limit steps node).2 = (q.walk flow l' limit steps node).2 ∧
      AlikeBut (l.Alike l') (p.walk flow l limit steps node).1
        (q.walk flow l' limit steps node).1 := by
  induction steps generalizing node p q with
  | zero => exact ⟨rfl, h⟩
  | succ steps ih =>
    unfold Progress.walk
    cases ran : p.step flow l node with
    | mk p' result =>
      obtain ⟨q', ran', after⟩ := h.stepped (stepped_of_step ran)
      rw [ran'.step_eq]
      cases result with
      | error failure => exact ⟨rfl, after⟩
      | ok next? =>
        cases next? with
        | none => exact ⟨rfl, after.record node.id⟩
        | some next => exact ih (after.record node.id) next

end AlikeBut

end Progress

namespace Run

variable {flow : Flow} {limit : Int} {r : Run}

theorem execute_eq (r : Run) (payload : List Value) (bindings : Bindings) :
    r.execute payload bindings =
      r.conclude (outcome r.flow r.limit r.listener payload bindings) :=
  rfl

/-- Where a run ends does not depend on who listens. -/
theorem outcome_alike (flow : Flow) (limit : Int) (l l' : Listener) (payload : List Value)
    (bindings : Bindings) :
    (outcome flow limit l payload bindings).2 = (outcome flow limit l' payload bindings).2 ∧
      Progress.AlikeBut (l.Alike l') (outcome flow limit l payload bindings).1
        (outcome flow limit l' payload bindings).1 := by
  unfold outcome
  split
  · exact ⟨rfl, .refl _⟩
  · exact (Progress.AlikeBut.refl _).walk flow limit (allowance limit) _

/-- A run over a flow that a reset makes new again. -/
structure Renewable (flow : Flow) (limit : Int) (r : Run) : Prop where
  sameFlow : r.flow = flow
  sameLimit : r.limit = limit
  cleared : r.statuses.map Status.reset = flow.nodes.map Status.fresh

theorem renewable_pending (flow : Flow) (limit : Int) (l : Listener) :
    (pending flow limit l).Renewable flow limit where
  sameFlow := rfl
  sameLimit := rfl
  cleared := by
    simp only [pending, List.map_map]
    exact List.map_congr_left fun n _ => Status.reset_fresh n

theorem Renewable.hear (h : r.Renewable flow limit) (l : Listener) :
    { r with listener := l }.Renewable flow limit :=
  ⟨h.sameFlow, h.sameLimit, h.cleared⟩

theorem Renewable.progress_reset (h : r.Renewable flow limit) :
    r.reset.progress = ⟨flow.nodes.map Status.fresh, [], #[], 0, #[], #[]⟩ := by
  simp only [progress, reset, h.cleared]

/-- The walk of a run after a reset is that of a new run. -/
theorem Renewable.proceed_eq (h : r.Renewable flow limit) (payload : List Value)
    (bindings : Bindings) :
    r.reset.proceed payload bindings = outcome flow limit r.listener payload bindings := by
  have same : r.reset.flow = flow := h.sameFlow
  have ceiling : r.reset.limit = limit := h.sameLimit
  unfold proceed outcome
  rw [same, ceiling, h.progress_reset]
  cases there : flow.startNode? with
  | none => rfl
  | some start =>
    have entry : start.id = flow.start := (Flow.mem_of_node? there).2
    simp only [entry]
    rfl

theorem Renewable.again_eq (h : r.Renewable flow limit) (payload : List Value)
    (bindings : Bindings) :
    r.again payload bindings = (pending flow limit r.listener).execute payload bindings := by
  have walked := h.proceed_eq payload bindings
  obtain ⟨rfl, rfl, -⟩ := h
  rw [again, walked, execute_eq]
  rfl

theorem cleared_outcome (flow : Flow) (limit : Int) (l : Listener) (payload : List Value)
    (bindings : Bindings) :
    (outcome flow limit l payload bindings).1.cleared = flow.nodes.map Status.fresh := by
  have new : (pending flow limit l).statuses.map Status.reset = flow.nodes.map Status.fresh :=
    (renewable_pending flow limit l).cleared
  unfold outcome
  split
  · exact new
  · exact ((Progress.cleared_walk flow l limit _ _ _).trans
      (Progress.cleared_supply (pending flow limit l).progress flow.start payload
        bindings)).trans new

/-- A run that was executed can be reset again, however it ended. -/
theorem Renewable.again (h : r.Renewable flow limit) (payload : List Value)
    (bindings : Bindings) : (r.again payload bindings).1.Renewable flow limit := by
  rw [h.again_eq]
  exact ⟨rfl, rfl, cleared_outcome flow limit r.listener payload bindings⟩

/-- One execution of a run: who listens then, what its start puts out, and its variables. -/
structure Use where
  listener : Listener
  payload : List Value
  bindings : Bindings

/-- A run used once more, and what is logged of it. -/
def use (r : Run) (u : Use) : Run × Log :=
  { r with listener := u.listener }.again u.payload u.bindings

/-- A run after some uses. -/
def used (r : Run) (earlier : List Use) : Run :=
  earlier.foldl (fun r u => (r.use u).1) r

theorem Renewable.used (h : r.Renewable flow limit) (earlier : List Use) :
    (r.used earlier).Renewable flow limit := by
  induction earlier generalizing r with
  | nil => exact h
  | cons u rest ih => exact ih ((h.hear u.listener).again u.payload u.bindings)

theorem Renewable.use_eq (h : r.Renewable flow limit) (u : Use) :
    r.use u = (pending flow limit u.listener).execute u.payload u.bindings :=
  (h.hear u.listener).again_eq u.payload u.bindings

/-- The record of a run is that of another one, but for who listened and what was done to the
messages. -/
structure SameButHeard (r s : Run) : Prop where
  record : r = { s with listener := r.listener, messages := r.messages }
  count : r.messages.length = s.messages.length
  messages : r.listener.Alike s.listener → r.messages = s.messages

theorem conclude_alike {flow : Flow} {limit : Int} {l l' : Listener} {p q : Progress}
    (alike : Progress.AlikeBut (l.Alike l') p q) (failure : Option Failure) :
    ((pending flow limit l).conclude (p, failure)).1.SameButHeard
      ((pending flow limit l').conclude (q, failure)).1 := by
  obtain ⟨messages, log, rfl, size, equal⟩ := alike
  exact ⟨rfl, size.symm, fun same => congrArg Array.toList (equal same).symm⟩

/-- The record of an execution does not depend on who listens. -/
theorem execute_alike (flow : Flow) (limit : Int) (l l' : Listener) (payload : List Value)
    (bindings : Bindings) :
    ((pending flow limit l).execute payload bindings).1.SameButHeard
      ((pending flow limit l').execute payload bindings).1 := by
  obtain ⟨failure, alike⟩ := outcome_alike flow limit l l' payload bindings
  rw [execute_eq, execute_eq]
  change ((pending flow limit l).conclude (outcome flow limit l payload bindings)).1.SameButHeard
    ((pending flow limit l').conclude (outcome flow limit l' payload bindings)).1
  generalize outcome flow limit l payload bindings = out at failure alike
  generalize outcome flow limit l' payload bindings = out' at failure alike
  obtain ⟨p, end?⟩ := out
  obtain ⟨q, end?'⟩ := out'
  obtain rfl : end? = end?' := failure
  exact conclude_alike alike end?

/-- However often a run was used, and however those uses ended, one more use does the same and logs
the same as the first use of a new run; who listens to the new one shows in its log, and in its
messages if the listener changes them, and in nothing else. Both are what an execution makes of a
new run. -/
theorem used_as_new (flow : Flow) (limit : Int) (first : Listener) (earlier : List Use)
    (last : Use) (other : Listener) :
    let old := (pending flow limit first).used earlier
    let new := pending flow limit other
    old.use last = new.use last ∧
      (old.use last).1.SameButHeard (new.again last.payload last.bindings).1 ∧
      new.again last.payload last.bindings = new.execute last.payload last.bindings := by
  intro old new
  have worn : old.Renewable flow limit := (renewable_pending flow limit first).used earlier
  have unworn : new.Renewable flow limit := renewable_pending flow limit other
  refine ⟨(worn.use_eq last).trans (unworn.use_eq last).symm, ?_, unworn.again_eq _ _⟩
  rw [worn.use_eq, unworn.again_eq]
  exact execute_alike flow limit last.listener other last.payload last.bindings

end Run

end EventFlow
