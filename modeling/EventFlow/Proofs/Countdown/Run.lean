import EventFlow.Proofs.Countdown.Build
import EventFlow.Proofs.Flow.Copy
import EventFlow.Proofs.Number.Integer
import EventFlow.Proofs.Operator.Binary
import EventFlow.Proofs.Run.Passage

/-!
Runs of the countdown flow.

* `Stands`: the values that stand for a count;
* `passage_round`: a round of the loop takes five steps and counts one down;
* `passage_announce`: the way to the announcement, in `5 * n + 2` steps;
* `countdown_counts`: what every run of the flow shows, whatever its limit.
-/

namespace EventFlow.Countdown

open Operator Progress

/-! ## Counts -/

/-- The values that stand for a count: the integer and the float. -/
inductive Stands (n : Nat) : Value → Prop where
  | int : Stands n (.int n)
  | float : Stands n (.float (Number.ofInt n))

theorem stands_of_same {n : Nat} (positive : 0 < n) {v : Value} (number : v.isNumber = true)
    (same : v.same (.int n) = true) : Stands n v := by
  cases v with
  | int m =>
    obtain rfl : m = n := of_decide_eq_true same
    exact .int
  | float x =>
    have equal : Number.equalsInt x.toFloat n = true := same
    cases x with
    | ofFloat x =>
      obtain rfl := Number.eq_ofInt_of_equalsInt positive equal
      exact .float
    | negativeNaN =>
      have infinite : Number.isFinite Number.notANumber = false := by decide +kernel
      simp [Number.equalsInt, Scalar.toFloat, infinite] at equal
  | absent | bool | text | vec2 | vec3 => cases number

section Counts

variable {n : Nat} {v : Value}

theorem Stands.number? (stands : Stands n v) (small : n ≤ 2 ^ 53) :
    number? v = some (.ok (Number.ofInt n : Float)) := by
  cases stands with
  | int => simp only [Operator.number?, Number.ofInt?, Number.isFinite_ofInt small]; rfl
  | float => rfl

theorem Stands.decremented (stands : Stands n v) (positive : 0 < n) (small : n ≤ 2 ^ 53) :
    binary v (.float 1) "-" = .ok (.float (Number.ofInt (n - 1 : Nat))) := by
  have less : n - 1 ≤ 2 ^ 53 := Nat.le_trans (Nat.sub_le n 1) small
  rw [binary_numbers (stands.number? small) rfl (by decide : _ = some .subtract)]
  change Except.ok (Value.float (Scalar.afterBoth _ _ (Number.ofInt n - 1))) = _
  rw [Number.ofInt_sub_one positive small]
  simp only [Scalar.afterBoth, Scalar.after, Scalar.isNaN, Scalar.toFloat,
    Number.isNaN_ofInt small, Number.isNaN_ofInt less, Bool.false_eq_true, ↓reduceIte]

theorem Stands.positive (stands : Stands n v) (small : n < 2 ^ 53) :
    binary v (.float 0) ">" = .ok (.bool (decide (0 < n))) := by
  rw [binary_numbers (stands.number? small.le) rfl (by decide : _ = some .greater)]
  change Except.ok (Value.bool (decide (0 < Number.ofInt n))) = _
  simp only [Number.zero_lt_ofInt_iff small]

end Counts

/-! ## Steps -/

section Steps

variable (name message : String) {listener : Listener} (discreet : listener.IsDiscreet)
  {payload : List Value} {source v y : Value} {values : Bindings}

theorem variable_n (n : Node) : n.variableName (.text "n") = .ok "n" :=
  Node.variableName_eq_ok_iff.mpr ⟨"n", rfl, by decide, by decide⟩

theorem operator_minus : Node.operatorName (.text "-") = .ok "-" :=
  congrArg Except.ok (by decide)

theorem operator_greater : Node.operatorName (.text ">") = .ok ">" :=
  congrArg Except.ok (by decide)

theorem set_first {outputs : List Value} (one : outputs.length = 1) (value : Value) :
    outputs.set 0 value = [value] := by
  obtain ⟨old, rfl⟩ := List.length_eq_one_iff.1 one
  rfl

include discreet

/-- The trigger hands its payload on. -/
theorem passage_start (begins : Bindings) :
    Passage (flow name message) listener start
      (· = initial (flow name message) [source, v] begins) 1 init
      (At (flow name message) (Bindings.update [] begins) [(1, [source, v])]) := by
  have idle (bindings : Bindings) : start.actions bindings [] = [] := rfl
  refine .of_step discreet rfl ?_ ?_ (fun p _ => idle p.bindings) (fun _ => rfl) rfl rfl rfl ?_
  · rintro p rfl
    exact known_initial _ _ _
  · rintro p rfl
    rfl
  · rintro p q rfl after
    refine ⟨after.known, after.bindings, ?_, after.messages⟩
    rintro h known
    obtain rfl := List.mem_singleton.1 known
    exact after.own _ (status?_initial _ _ _ _)

/-- The parameter of the trigger becomes the variable. -/
theorem passage_init :
    Passage (flow name message) listener init
      (At (flow name message) values [(1, [source, v])]) 1 read
      (At (flow name message) (values.set "n" v) [(1, [source, v])]) := by
  have acts : init.actions values [.text "n", v] =
      [.bind "n" v, .write 0 (values.get "n")] := by
    change init.writeVariable values (.text "n") v = _
    simp only [Node.writeVariable, variable_n]
  refine At.passage discreet rfl ?_ acts (fun _ => rfl) rfl (fun _ one => set_first one _)
    rfl rfl rfl ?_
  · exact .cons (.constant _) (.cons (.output rfl (.head _) (by decide) rfl) .nil)
  · simp [init]

/-- The variable is read. -/
theorem passage_read :
    Passage (flow name message) listener read
      (At (flow name message) (values.set "n" v) [(1, payload)]) 1 decrement
      (At (flow name message) (values.set "n" v) [(1, payload), (3, [v])]) := by
  have acts : read.actions (values.set "n" v) [.text "n"] = [.write 0 v] := by
    change read.readVariable (values.set "n" v) (.text "n") = _
    simp only [Node.readVariable, variable_n, values.get_set]
  refine At.passage discreet rfl ?_ acts (fun _ => rfl) rfl (fun _ one => set_first one _)
    rfl rfl rfl ?_
  · exact .cons (.constant _) .nil
  · simp [read]

/-- One is taken away. -/
theorem passage_decrement (less : binary v (.float 1) "-" = .ok y) :
    Passage (flow name message) listener decrement
      (At (flow name message) values [(1, payload), (3, [v])]) 1 store
      (At (flow name message) values [(1, payload), (4, [y])]) := by
  have acts : decrement.actions values [v, .float 1, .text "-"] = [.write 0 y] := by
    change decrement.writeResult (Node.operatorName (.text "-") >>= binary v (.float 1)) = _
    rw [operator_minus, Except.ok_bind, less]
    rfl
  refine At.passage discreet rfl ?_ acts (fun _ => rfl) rfl (fun _ one => set_first one _)
    rfl rfl rfl ?_
  · exact .cons (.output rfl (.tail _ (.head _)) (by decide) rfl)
      (.cons (.constant _) (.cons (.constant _) .nil))
  · simp [decrement]

/-- The variable is set to what is left. -/
theorem passage_store :
    Passage (flow name message) listener store
      (At (flow name message) (values.set "n" v) [(1, payload), (4, [y])]) 1 check
      (At (flow name message) (values.set "n" y) [(1, payload), (4, [y])]) := by
  have acts : store.actions (values.set "n" v) [.text "n", y] = [.bind "n" y, .write 0 v] := by
    change store.writeVariable (values.set "n" v) (.text "n") y = _
    simp only [Node.writeVariable, variable_n, values.get_set]
  rw [← values.set_set "n" v y]
  refine At.passage discreet rfl ?_ acts (fun _ => rfl) rfl (fun _ one => set_first one _)
    rfl rfl rfl ?_
  · exact .cons (.constant _) (.cons (.output rfl (.tail _ (.head _)) (by decide) rfl) .nil)
  · simp [store]

/-- It is compared with zero. -/
theorem passage_check {more : Bool} (compared : binary y (.float 0) ">" = .ok (.bool more)) :
    Passage (flow name message) listener check
      (At (flow name message) values [(1, payload), (4, [y])]) 1 loop
      (At (flow name message) values [(1, payload), (6, [.bool more])]) := by
  have acts : check.actions values [y, .float 0, .text ">"] = [.write 0 (.bool more)] := by
    change check.writeResult (Node.operatorName (.text ">") >>= binary y (.float 0)) = _
    rw [operator_greater, Except.ok_bind, compared]
    rfl
  refine At.passage discreet rfl ?_ acts (fun _ => rfl) rfl (fun _ one => set_first one _)
    rfl rfl rfl ?_
  · exact .cons (.output rfl (.tail _ (.head _)) (by decide) rfl)
      (.cons (.constant _) (.cons (.constant _) .nil))
  · simp [check]

/-- The loop goes on for as long as something is left. -/
theorem passage_loop (more : Bool) :
    Passage (flow name message) listener loop
      (At (flow name message) values [(1, payload), (6, [.bool more])]) 1
      (if more then read else announce message)
      (At (flow name message) values [(1, payload)]) := by
  have reads : List.Forall₂ (ReadsHeld (flow name message) [(1, payload), (6, [.bool more])])
      loop.inputs [.bool more] :=
    .cons (.output rfl (.tail _ (.head _)) (by decide) rfl) .nil
  have writes (outputs : List Value) (none : outputs.length = 0) : outputs = [] :=
    List.eq_nil_of_length_eq_zero none
  have keeps : ∀ h ∈ [((1 : Int), payload)], h = (loop.id, []) ∨
      h ∈ [(1, payload), (6, [.bool more])] ∧ h.1 ≠ loop.id := by
    simp [loop]
  cases more with
  | true => exact At.passage discreet rfl reads rfl (fun _ => rfl) rfl writes rfl rfl rfl keeps
  | false => exact At.passage discreet rfl reads rfl (fun _ => rfl) rfl writes rfl rfl rfl keeps

/-- What runs after a round that leaves a count. -/
def afterRound (n : Nat) : Node :=
  if 0 < n then read else announce message

/-- A round of the loop counts one down. -/
theorem passage_round {n : Nat} (stands : Stands (n + 1) v) (small : n + 1 ≤ 2 ^ 53) :
    Passage (flow name message) listener read
      (At (flow name message) (values.set "n" v) [(1, payload)]) 5 (afterRound message n)
      (At (flow name message) (values.set "n" (.float (Number.ofInt n))) [(1, payload)]) := by
  have less : binary v (.float 1) "-" = .ok (.float (Number.ofInt n)) :=
    stands.decremented n.succ_pos small
  have compared := (Stands.float (n := n)).positive small
  change Passage _ _ _ _ (1 + 1 + 1 + 1 + 1) _ _
  refine ((((passage_read name message discreet).trans
    (passage_decrement name message discreet less)).trans
    (passage_store name message discreet)).trans
    (passage_check name message discreet compared)).trans ?_
  simpa only [afterRound, decide_eq_true_eq] using
    passage_loop name message discreet (decide (0 < n))

/-- The rounds that are left once a round has left a count. -/
theorem passage_rounds (n : Nat) (small : n ≤ 2 ^ 53) :
    Passage (flow name message) listener (afterRound message n)
      (At (flow name message) (values.set "n" (.float (Number.ofInt n))) [(1, payload)])
      (5 * n) (announce message)
      (At (flow name message) (values.set "n" (.float 0)) [(1, payload)]) := by
  refine Passage.iterate (afterRound message) (fun i =>
    At (flow name message) (values.set "n" (.float (Number.ofInt i))) [(1, payload)]) n ?_
  intro i fewer
  exact passage_round name message discreet .float (Nat.le_trans fewer small)

/-- The way from the start to the announcement. -/
theorem passage_announce {n : Nat} (positive : 0 < n) (small : n ≤ 2 ^ 53) (stands : Stands n v)
    (begins : Bindings) :
    Passage (flow name message) listener start
      (· = initial (flow name message) [source, v] begins) (5 * n + 2) (announce message)
      (At (flow name message) ((Bindings.update [] begins).set "n" (.float 0))
        [(1, [source, v])]) := by
  obtain ⟨k, rfl⟩ := Nat.exists_eq_succ_of_ne_zero (Nat.ne_of_gt positive)
  rw [show 5 * (k + 1) + 2 = 1 + 1 + 5 + 5 * k by omega]
  exact (((passage_start name message discreet begins).trans
    (passage_init name message discreet)).trans
    (passage_round name message discreet stands small)).trans
    (passage_rounds name message discreet k (Nat.le_of_lt small))

/-- The message that ends a countdown. -/
def announcement (receiver : String) : Message where
  receiver := if receiver = "" then "all" else receiver
  channel := "chat"
  text := message
  node := "announce"

/-- The announcement goes to the source of the trigger, and the run is over. -/
theorem step_announce {receiver : String} (said : source.asText = .ok receiver) {p : Progress}
    (h : At (flow name message) values [(1, [source, v])] p) :
    ∃ q, p.step (flow name message) listener (announce message) = (q, .ok none) ∧
      (q.record (announce message).id).bindings = values ∧
      (q.record (announce message).id).messages.toList = [announcement message receiver] := by
  have reads : List.Forall₂ (ReadsHeld (flow name message) [(1, [source, v])])
      (announce message).inputs [source, .text "chat", .text message] :=
    .cons (.output rfl (.head _) (by decide) rfl) (.cons (.constant _) (.cons (.constant _) .nil))
  have acts (bindings : Bindings) :
      (announce message).actions bindings [source, .text "chat", .text message] =
        [.send (announcement message receiver)] := by
    have made : (announce message).message source (.text "chat") (.text message) =
        .ok (announcement message receiver) :=
      Node.message_eq_ok_iff.mpr ⟨receiver, "chat", message, said, rfl, rfl, rfl⟩
    change (announce message).sendMessage source (.text "chat") (.text message) = _
    rw [Node.sendMessage, if_neg (by simp), made]
  have ends : Nameable (flow name message) (-1) := fun natural => absurd natural (by decide)
  obtain ⟨q, ran, after⟩ := step_after discreet h.known
    (rfl : (flow name message).node? (announce message).id = some (announce message))
    (h.read reads) (by rw [acts]; rfl) rfl rfl ends
  refine ⟨q, ran, ?_, ?_⟩
  · rw [after.bindings, acts, h.bindings]
    rfl
  · rw [after.messages, acts, h.silent]
    rfl

omit discreet in
/-- A source that cannot be said is told nothing. -/
theorem step_unannounced (listener : Listener) {error : TextError}
    (unsaid : source.asText = .error error) {p : Progress}
    (h : At (flow name message) values [(1, [source, v])] p) :
    ∃ q, p.step (flow name message) listener (announce message) =
      (q, .error (.broken "announce" (.wording error))) := by
  have reads : List.Forall₂ (ReadsHeld (flow name message) [(1, [source, v])])
      (announce message).inputs [source, .text "chat", .text message] :=
    .cons (.output rfl (.head _) (by decide) rfl) (.cons (.constant _) (.cons (.constant _) .nil))
  have acts (bindings : Bindings) :
      (announce message).actions bindings [source, .text "chat", .text message] =
        [.fail (.broken "announce" (.wording error))] := by
    have made : (announce message).message source (.text "chat") (.text message) =
        .error error := by
      rw [Node.message, unsaid]
      rfl
    change (announce message).sendMessage source (.text "chat") (.text message) = _
    rw [Node.sendMessage, if_neg (by simp), made]
    rfl
  have failed : p.step (flow name message) listener (announce message) =
      (p.shows (announce message) [source, .text "chat", .text message],
        .error (.broken "announce" (.wording error))) := by
    rw [step, h.read reads]
    simp only [acts, performAll, perform]
    rfl
  exact ⟨_, failed⟩

end Steps

/-! ## Runs -/

/-- What a run of the countdown flow shows that was to count from `n` in a number of steps, and then
to tell a receiver. -/
structure Counted (name message : String) (limit : Int) (n : Nat) (receiver : String)
    (begins : Bindings) (r : Run) : Prop where
  /-- With enough of them it comes to an end, with one message. -/
  done : 5 * n + 2 ≤ limit →
    r.phase = .completed ∧ r.failure = none ∧ r.stepCount = 5 * n + 3 ∧
      r.bindings = (Bindings.update [] begins).set "n" (.float 0) ∧
      r.messages = [announcement message receiver]
  /-- With fewer it is cut off, without any. -/
  cutOff : limit < 5 * n + 2 →
    r.phase = .failed ∧ r.failure = some (.deadLoop name limit) ∧
      (r.stepCount : Int) = max 0 (limit + 1) ∧ r.messages = []

theorem execute_counted (name message : String) {n : Nat} {source v : Value} {receiver : String}
    (said : source.asText = .ok receiver) {limit : Int} (brief : Brief limit) {listener : Listener}
    (discreet : listener.IsDiscreet) (begins : Bindings) (positive : 0 < n) (small : n ≤ 2 ^ 53)
    (stands : Stands n v) :
    Counted name message limit n receiver begins
      ((Run.pending (flow name message) limit listener).execute [source, v] begins).1 := by
  have known := known_initial (flow name message) [source, v] begins
  obtain ⟨p, reached, comes⟩ := passage_announce name message discreet positive small stands begins
    (initial (flow name message) [source, v] begins) rfl
  have allowed := Run.allowance_eq limit
  have concluded : ((Run.pending (flow name message) limit listener).execute
      [source, v] begins).1 = (Run.pending (flow name message) limit listener).concluded
        (walk (flow name message) listener limit (Run.allowance limit) start
          (initial (flow name message) [source, v] begins)) := rfl
  have counted := Run.execute_stepCount (Run.pending (flow name message) limit listener)
    [source, v] begins
  rw [concluded] at counted ⊢
  constructor
  · intro enough
    obtain ⟨rest, split⟩ : ∃ rest, Run.allowance limit = 5 * n + 2 + (rest + 1) :=
      ⟨Run.allowance limit - (5 * n + 3), by omega⟩
    obtain ⟨q, ran, bindings, messages⟩ := step_announce name message discreet said comes
    obtain ⟨known, present, size⟩ := reached.size known rfl
    have steps : (q.record (announce message).id).trace.toList.length = 5 * n + 3 := by
      rw [Array.length_toList, known.counts present ran, size]
      change 0 + (5 * n + 2) + 1 = 5 * n + 3
      omega
    rw [split, reached.walk_eq, walk, ran] at counted ⊢
    exact ⟨rfl, rfl, counted.trans steps, bindings, messages⟩
  · intro few
    obtain ⟨q, ended, size, messages⟩ := reached.walk_cutOff discreet known rfl rfl brief
      (by omega : Run.allowance limit ≤ 5 * n + 2)
    rw [comes.silent, List.prefix_nil] at messages
    have steps : (q.trace.toList.length : Int) = max 0 (limit + 1) := by
      rw [Array.length_toList, size, ← allowed]
      change ((0 + Run.allowance limit : Nat) : Int) = Run.allowance limit
      rw [Nat.zero_add]
    rw [ended] at counted ⊢
    exact ⟨rfl, rfl, (congrArg Nat.cast counted).trans steps, messages⟩

/-- A countdown whose source cannot be said comes to the announcement and fails there. -/
theorem execute_unannounced (name message : String) {n : Nat} {source v : Value} {error : TextError}
    (unsaid : source.asText = .error error) {limit : Int} {listener : Listener}
    (discreet : listener.IsDiscreet) (begins : Bindings) (positive : 0 < n) (small : n ≤ 2 ^ 53)
    (stands : Stands n v) (enough : 5 * n + 2 ≤ limit) :
    ((Run.pending (flow name message) limit listener).execute [source, v] begins).1.phase =
      .failed := by
  obtain ⟨p, reached, comes⟩ := passage_announce name message discreet positive small stands begins
    (initial (flow name message) [source, v] begins) rfl
  obtain ⟨q, ran⟩ := step_unannounced name message listener unsaid comes
  have allowed := Run.allowance_eq limit
  obtain ⟨rest, split⟩ : ∃ rest, Run.allowance limit = 5 * n + 2 + (rest + 1) :=
    ⟨Run.allowance limit - (5 * n + 3), by omega⟩
  change ((Run.pending (flow name message) limit listener).concluded
    (walk (flow name message) listener limit (Run.allowance limit) start
      (initial (flow name message) [source, v] begins))).phase = .failed
  rw [split, reached.walk_eq, walk, ran]
  rfl

/-- The editor that the building of the countdown flow leaves, with the flow started once. -/
theorem build_started (name message : String) (limit : Int) (listener : Listener) :
    ∃ e log, build Catalog.standard name message = .ok (e, log) ∧ e.enabled = true ∧
      e.start Catalog.standard limit listener =
        .ok (.pending (flow name message) limit listener) := by
  obtain ⟨e, log, built, made, enabled⟩ := build_flow name message
  have registered : ∀ node ∈ (flow name message).nodes, node.Registered Catalog.standard := by
    simp only [flow, List.forall_mem_cons]
    exact ⟨rfl, rfl, rfl, rfl, rfl, rfl, rfl, rfl, by simp⟩
  refine ⟨e, log, built, enabled, ?_⟩
  rw [Editor.start, made, Flow.copy_registered registered]
  rfl

/-- **The countdown is correct for every count**: whatever its name and message, the source and the
variables of the run, the flow that the editing interface builds counts down in `5 * n + 3` steps
and tells the source, unless the limit cuts it off before. The source has to be a value with a text,
the limit one that the host can write, and the listener one that leaves the messages alone. -/
theorem countdown_counts (name message : String) {source : Value} {receiver : String}
    (said : source.asText = .ok receiver) (v : Value) (begins : Bindings) {limit : Int}
    (brief : Brief limit) {listener : Listener} (discreet : listener.IsDiscreet) {n : Nat}
    (positive : 1 ≤ n) (small : n ≤ 2 ^ 53) (number : v.isNumber = true)
    (same : v.same (.int n) = true) :
    ∃ e log r, build Catalog.standard name message = .ok (e, log) ∧ e.enabled = true ∧
      e.start Catalog.standard limit listener = .ok r ∧
      Counted name message limit n receiver begins (r.execute [source, v] begins).1 := by
  obtain ⟨e, log, built, enabled, started⟩ := build_started name message limit listener
  exact ⟨e, log, _, built, enabled, started, execute_counted name message said brief discreet begins
    positive small (stands_of_same positive number same)⟩

/-- From the greatest count, as a float, with too few steps. -/
theorem countdown_counts_greatest :
    (Value.text "Ann").asText = .ok "Ann" ∧ Brief 10000 ∧ Listener.hears.IsDiscreet ∧
      1 ≤ 2 ^ 53 ∧ 2 ^ 53 ≤ 2 ^ 53 ∧ (Value.float 9007199254740992).isNumber = true ∧
      (Value.float 9007199254740992).same (.int (2 ^ 53 : Nat)) = true ∧
      ∃ e log r, build Catalog.standard "countdown" "done" = .ok (e, log) ∧ e.enabled = true ∧
        e.start Catalog.standard 10000 .hears = .ok r ∧
        Counted "countdown" "done" 10000 (2 ^ 53) "Ann" [("n", .absent)]
          (r.execute [.text "Ann", .float 9007199254740992] [("n", .absent)]).1 := by
  have brief : Brief 10000 := brief_of_natAbs_le (by decide)
  have discreet : Listener.hears.IsDiscreet := fun _ => rfl
  have same : (Value.float 9007199254740992).same (.int (2 ^ 53 : Nat)) = true := by
    decide +kernel
  refine ⟨rfl, brief, discreet, by decide, Nat.le_refl _, rfl, same, ?_⟩
  exact countdown_counts "countdown" "done" rfl (.float 9007199254740992) [("n", .absent)] brief
    discreet (by decide) (Nat.le_refl _) rfl same

/-- Under a limit that cannot be said, a countdown from one is not reported as a loop; a source that
cannot be said is not told that the countdown is over; and a listener that meddles with the messages
leaves another one behind. -/
theorem countdown_uncounted :
    (∃ e log r, build Catalog.standard "countdown" "done" = .ok (e, log) ∧
      e.start Catalog.standard (-10 ^ Text.digitLimit) .absent = .ok r ∧
      ¬Counted "countdown" "done" (-10 ^ Text.digitLimit) 1 "Ann" []
        (r.execute [.text "Ann", .int 1] []).1) ∧
    (∃ e log r, build Catalog.standard "countdown" "done" = .ok (e, log) ∧
      e.start Catalog.standard 7 .absent = .ok r ∧
      ∀ receiver, ¬Counted "countdown" "done" 7 1 receiver []
        (r.execute [.int (10 ^ Text.digitLimit), .int 1] []).1) ∧
    ∃ e log r, build Catalog.standard "countdown" "done" = .ok (e, log) ∧
      e.start Catalog.standard 7
        (.reacts [⟨[(0, ⟨"Bob", "chat", "changed", "listener"⟩)], none⟩]) = .ok r ∧
      ¬Counted "countdown" "done" 7 1 "Ann" [] (r.execute [.text "Ann", .int 1] []).1 := by
  refine ⟨?_, ?_, ?_⟩
  · obtain ⟨e, log, built, -, started⟩ := build_started "countdown" "done" (-10 ^ Text.digitLimit)
      .absent
    refine ⟨e, log, _, built, started, fun counted => ?_⟩
    obtain ⟨long, negative⟩ := long_neg_limit
    generalize (-10 ^ Text.digitLimit : Int) = limit at long negative counted
    obtain ⟨unsaid, -⟩ := Run.execute_unsaid
      (rfl : (flow "countdown" "done").startNode? = some start) negative long .absent
      [.text "Ann", .int 1] []
    obtain ⟨-, looped, -⟩ := counted.cutOff (by omega)
    exact absurd (unsaid.symm.trans looped) (by simp [Failure.unsaid])
  · obtain ⟨e, log, built, -, started⟩ := build_started "countdown" "done" 7 .absent
    refine ⟨e, log, _, built, started, fun receiver counted => ?_⟩
    have long := not_brief_limit
    generalize (10 ^ Text.digitLimit : Int) = source at long counted
    obtain ⟨completed, -⟩ := counted.done (by decide)
    have unsaid : (Value.int source).asText = .error .tooManyDigits := by
      simp [Value.asText, Value.format, Value.isBrief, long]
    have discreet : Listener.absent.IsDiscreet := fun _ => rfl
    have stands : Stands 1 (.int 1) := .int
    have failed := execute_unannounced "countdown" "done" unsaid discreet [] Nat.one_pos
      (by decide) stands (by decide : (5 : Int) * (1 : Nat) + 2 ≤ 7)
    exact absurd (completed.symm.trans failed) (by decide)
  · obtain ⟨e, log, built, -, started⟩ := build_started "countdown" "done" 7
      (.reacts [⟨[(0, ⟨"Bob", "chat", "changed", "listener"⟩)], none⟩])
    refine ⟨e, log, _, built, started, fun counted => ?_⟩
    obtain ⟨-, -, -, -, told⟩ := counted.done (by decide)
    revert told
    decide +kernel

end EventFlow.Countdown
