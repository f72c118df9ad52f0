import EventFlow.Proofs.Run.Effects

/-!
What the limit of a run changes: nothing but where the run is cut off.

* `Grows`: a walk only adds to its trace and its messages;
* `walk_longer`: a walk that may take more steps ends in the same way, or it goes on from where the
  other one was cut off;
* `execute_longer`: so a run with a higher limit is the same run, or it begins with the other one.
-/

namespace EventFlow

namespace Progress

/-- The trace and the messages of a progress are the beginnings of those of another one, where the
listener leaves the messages alone. -/
structure Grows (listener : Listener) (p q : Progress) : Prop where
  trace : p.trace.toList <+: q.trace.toList
  messages : listener.IsDiscreet → p.messages.toList <+: q.messages.toList

theorem Grows.refl (listener : Listener) (p : Progress) : Grows listener p p :=
  ⟨List.prefix_refl _, fun _ => List.prefix_refl _⟩

theorem Grows.trans {listener : Listener} {p q r : Progress} (h : Grows listener p q)
    (later : Grows listener q r) : Grows listener p r :=
  ⟨h.trace.trans later.trace,
    fun discreet => (h.messages discreet).trans (later.messages discreet)⟩

section Walk

variable {flow : Flow} {listener : Listener} {node : Node} {p : Progress}

theorem performAll_messages {q : Progress} {actions : List Action} {end? : Option Failure}
    (acted : p.performAll listener node actions = (q, end?)) (discreet : listener.IsDiscreet) :
    p.messages.toList <+: q.messages.toList := by
  obtain ⟨done, -, -, -, sent, -⟩ := p.performAll_effects listener node actions
  rw [acted] at sent
  exact ⟨_, (sent discreet).symm⟩

/-- A step adds no entry before it is recorded, and takes no message away. -/
theorem step_grows {q : Progress} {result : Except Failure (Option Node)}
    (ran : p.step flow listener node = (q, result)) : Grows listener p q := by
  constructor
  · exact step_trace ran ▸ List.prefix_refl _
  · cases stepped_of_step ran with
    | unread read => exact fun _ => List.prefix_refl _
    | unacted _ acted | unbranched _ acted | unfollowed _ acted | lost _ acted =>
      exact (performAll_messages acted :)
    | @done _ q taken next _ acted =>
      obtain ⟨log, followed⟩ := follow_logs node (q.turns node taken next) flow next
      rw [followed]
      exact (performAll_messages acted :)

theorem record_grows (p : Progress) (id : Int) : Grows listener p (p.record id) := by
  unfold record
  cases p.status? id with
  | none => exact .refl listener p
  | some s => exact ⟨by simp, fun _ => List.prefix_refl _⟩

theorem walk_grows (limit : Int) (steps : Nat) (node : Node) (p : Progress) :
    Grows listener p (walk flow listener limit steps node p).1 := by
  induction steps generalizing node p with
  | zero => exact .refl listener p
  | succ steps ih =>
    unfold walk
    cases ran : p.step flow listener node with
    | mk q result =>
      have grown := step_grows ran
      cases result with
      | error failure => exact grown
      | ok next? =>
        have recorded := grown.trans (q.record_grows node.id)
        cases next? with
        | none => exact recorded
        | some next => exact recorded.trans (ih next (q.record node.id))

/-- What a walk of some steps has to do with one that may take more of them: either it was not cut
off and the other one ends in the same way, or it was and the other one goes on from there. -/
inductive Longer (flow : Flow) (listener : Listener) (limit : Int) (size : Nat) :
    Progress × Option Failure → Progress × Option Failure → Prop where
  | same {out : Progress × Option Failure} (whole : Run.ending out.2 ≠ .cutOff) :
      Longer flow listener limit size out out
  | cutOff {p : Progress} {out : Progress × Option Failure} (steps : p.trace.size = size)
      (balanced : p.Balanced) (grows : Grows listener p out.1) :
      Longer flow listener limit size (p, some (.deadLoop flow.name limit)) out

theorem walk_longer (listener : Listener) {limit : Int} (brief : Brief limit) (higher : Int)
    {steps more : Nat} (le : steps ≤ more) (known : p.Known flow) (balanced : p.Balanced)
    (there : flow.node? node.id = some node) :
    Longer flow listener limit (p.trace.size + steps) (walk flow listener limit steps node p)
      (walk flow listener higher more node p) := by
  -- Both walks take the same step first, for as long as the one with fewer of them has any.
  induction steps generalizing node p more with
  | zero =>
    rw [walk, Failure.showing_brief brief]
    exact .cutOff rfl balanced (walk_grows higher more node p)
  | succ steps ih =>
    obtain ⟨more, rfl⟩ := Nat.exists_eq_add_of_le' (Nat.lt_of_lt_of_le steps.succ_pos le)
    unfold walk
    cases ran : p.step flow listener node with
    | mk q result =>
      cases result with
      | error failure =>
        apply Longer.same
        rw [Run.ending_failed (step_failure ran)]
        decide
      | ok next? =>
        cases next? with
        | none => exact .same (show Run.ending none ≠ .cutOff by decide)
        | some next =>
          have rest := ih (Nat.le_of_succ_le_succ le) (known.step there ran)
            ((balanced.step ran).record node.id) (known.present_next there ran)
          rw [known.counts there ran, Nat.add_assoc, Nat.add_comm 1 steps] at rest
          exact rest

end Walk

end Progress

namespace Run

theorem allowance_mono {limit higher : Int} (le : limit ≤ higher) :
    allowance limit ≤ allowance higher := by
  unfold allowance
  omega

theorem outcome_longer (flow : Flow) (listener : Listener) (payload : List Value)
    (bindings : Bindings) {limit higher : Int} (brief : Brief limit) (le : limit ≤ higher) :
    Progress.Longer flow listener limit (allowance limit)
      (outcome flow limit listener payload bindings)
      (outcome flow higher listener payload bindings) := by
  cases begins : flow.startNode? with
  | none =>
    rw [outcome_missing begins, outcome_missing begins]
    exact .same (by simp [ending])
  | some start =>
    have walks := Progress.walk_longer listener brief higher (allowance_mono le)
      (Progress.known_initial flow payload bindings) rfl (Progress.node?_of_start begins)
    have none : (Progress.initial flow payload bindings).trace.size = 0 := rfl
    rw [none, Nat.zero_add] at walks
    unfold outcome
    rw [begins]
    exact walks

/-- A run is cut down to another one by a limit. -/
structure Truncates (short long : Run) : Prop where
  trace : short.trace <+: long.trace
  messages : short.listener.IsDiscreet → short.messages <+: long.messages
  /-- A run that is not cut off is the same with a higher limit. -/
  whole : ending short.failure ≠ .cutOff → long = { short with limit := long.limit }
  /-- A run that is cut off shows as many entries as its limit allows. -/
  cut : ending short.failure = .cutOff → short.stepCount = (short.limit + 1).toNat ∧
    short.trace = long.trace.take (short.limit + 1).toNat

/-- **A higher limit changes nothing but where a run is cut off.** The lower one has to be a limit
that the host can write. -/
theorem execute_longer (r : Run) (payload : List Value) (bindings : Bindings) {higher : Int}
    (brief : Brief r.limit) (le : r.limit ≤ higher) :
    Truncates (r.execute payload bindings).1
      ({ r with limit := higher }.execute payload bindings).1 := by
  rw [execute_concluded, execute_concluded]
  have longer := outcome_longer r.flow r.listener payload bindings brief le
  change Truncates (r.concluded (outcome r.flow r.limit r.listener payload bindings))
    ({ r with limit := higher }.concluded (outcome r.flow higher r.listener payload bindings))
  generalize outcome r.flow r.limit r.listener payload bindings = out at longer
  generalize outcome r.flow higher r.listener payload bindings = out' at longer
  cases longer with
  | same whole =>
    exact ⟨List.prefix_refl _, fun _ => List.prefix_refl _, fun _ => rfl,
      fun cut => absurd cut whole⟩
  | @cutOff p _ steps balanced grows =>
    have length : p.trace.toList.length = allowance r.limit := by
      rw [Array.length_toList, steps]
    refine ⟨grows.trace, grows.messages, fun whole => absurd rfl whole,
      fun _ => ⟨balanced.trans steps, ?_⟩⟩
    change p.trace.toList = out'.1.trace.toList.take (allowance r.limit)
    rw [← length]
    exact List.prefix_iff_eq_take.mp grows.trace

theorem execute_longer_echoFlow :
    Brief 3 ∧ (3 : Int) ≤ 6 ∧
      Truncates ((pending echoFlow 3 .absent).execute [.text "new"] []).1
        ((pending echoFlow 6 .absent).execute [.text "new"] []).1 :=
  have brief : Brief 3 := brief_of_natAbs_le (by decide)
  ⟨brief, by decide, execute_longer (pending echoFlow 3 .absent) _ _ brief (by decide)⟩

/-- A run under a limit that cannot be said is no shorter version of other runs, though it does not
show that it was cut off; and a listener that meddles with the messages keeps them from being
one. -/
theorem execute_untruncated :
    (let short := ((pending echoFlow (-10 ^ Text.digitLimit) .absent).execute [.text "new"] []).1
      let long := ((pending echoFlow 6 .absent).execute [.text "new"] []).1
      (-10 ^ Text.digitLimit : Int) ≤ 6 ∧ ending short.failure ≠ .cutOff ∧
        short.failure ≠ long.failure) ∧
    let meddler :=
      Listener.reacts [⟨[], none⟩, ⟨[(0, ⟨"nobody", "none", "changed", "listener"⟩)], none⟩]
    ¬((pending echoFlow 3 meddler).execute [.text "new"] []).1.messages <+:
      ((pending echoFlow 6 meddler).execute [.text "new"] []).1.messages := by
  refine ⟨?_, by decide +kernel⟩
  obtain ⟨long, negative⟩ := long_neg_limit
  generalize (-10 ^ Text.digitLimit : Int) = limit at long negative
  obtain ⟨unsaid, -⟩ := execute_unsaid (rfl : echoFlow.startNode? = some _) negative long .absent
    [.text "new"] []
  have cut : ((pending echoFlow 6 .absent).execute [.text "new"] []).1.failure =
      some (.deadLoop "echo" 6) := by decide +kernel
  refine ⟨by omega, ?_, ?_⟩
  · rw [unsaid]
    decide
  · rw [unsaid, cut]
    simp [Failure.unsaid]

end Run

end EventFlow
