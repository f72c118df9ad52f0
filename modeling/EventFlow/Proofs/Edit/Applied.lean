import EventFlow.Node.Standard
import EventFlow.Proofs.Edit.Command

/-!
When a command is carried out, and what it leaves of an editor if it is not.

* `Command.Applies`: the condition, in terms of the nodes that names stand for;
* `Command.Spends`: a command that is not carried out may still use up an id;
* `Command.Blames`: why a command breaks off;
* `edit_answers`: every command gets one of five answers, each under its condition;
* `edit_settled`: a command that is not carried out changes nothing besides, and one that is carried
  out is recorded once.
-/

namespace EventFlow

/-- No node has the name. -/
def Flow.Unused (f : Flow) (name : String) : Prop :=
  ∀ n ∈ f.nodes, n.name ≠ name

/-- The name stands for no node, or for the start. -/
def Flow.FitsStart (f : Flow) (name : String) : Prop :=
  ∀ n, f.Addresses name n → n.id = f.start

namespace Command

/-- Whether a command makes a node. -/
def makesNode : Command → Bool
  | createNode .. => true
  | replaceStart .. => true
  | _ => false

/-- A command that can be carried out: its names stand for nodes, its indices are slots of these, a
new name is not in use, the catalog has the types that are asked for and those of nodes that are
copied, and a constant or a successor can be put into words. -/
def Applies (c : Catalog) (f : Flow) : Command → Prop
  | createNode type name => f.Unused name ∧ c.has type = true
  | removeNode name => ∃ n, f.Addresses name n ∧ n.id ≠ f.start ∧ c.has n.type.key = true
  | renameNode name newName => (∃ n, f.Addresses name n) ∧ f.Unused newName
  | replaceStart type name => c.isEvent type = true ∧ f.FitsStart name ∧
      ∀ old, f.startNode? = some old → c.has old.type.key = true
  | setConstant name index value =>
    (∃ n, f.Addresses name n ∧ 0 ≤ index ∧ index < n.inputCount) ∧ value.isBrief = true
  | setReference name index source sourceIndex =>
    ∃ n m, f.Addresses name n ∧ f.Addresses source m ∧ (0 ≤ index ∧ index < n.inputCount) ∧
      0 ≤ sourceIndex ∧ sourceIndex < m.outputCount
  | disconnectInput name index => ∃ n, f.Addresses name n ∧ 0 ≤ index ∧ index < n.inputCount
  | setNext name index next => ∃ n m, f.Addresses name n ∧ f.Addresses next m ∧
      (0 ≤ index ∧ index < n.branchCount) ∧ Brief m.id
  | disconnectNext name index => ∃ n, f.Addresses name n ∧ 0 ≤ index ∧ index < n.branchCount

/-- A command that uses up an id in vain: only the catalog stands in its way. -/
def Spends (c : Catalog) (f : Flow) : Command → Prop
  | createNode type name => f.Unused name ∧ c.has type = false
  | replaceStart type name => c.isEvent type = true ∧ f.FitsStart name ∧
      ∃ old, f.startNode? = some old ∧ c.has old.type.key = false
  | _ => False

/-- The errors that a command can break off with: a type that is asked for is unknown or no event,
the type of a node that is copied is unknown, or an integer has too many digits to be put into
words. -/
def Blames (c : Catalog) (f : Flow) : Command → EditError → Prop
  | createNode type _, .unknownType error => error.key = type ∧ c.has error.key = false
  | removeNode _, .unknownType error =>
    c.has error.key = false ∧ ∃ n ∈ f.nodes, n.type.key = error.key
  | replaceStart type _, .unknownType error =>
    c.has error.key = false ∧ (error.key = type ∨ ∃ n ∈ f.nodes, n.type.key = error.key)
  | replaceStart type _, .notEvent key =>
    key = type ∧ c.has key = true ∧ c.isEvent key = false
  | setConstant _ index value, .wording _ => ¬Brief index ∨ value.isBrief = false
  | setReference _ index _ sourceIndex, .wording _ => ¬Brief index ∨ ¬Brief sourceIndex
  | disconnectInput _ index, .wording _ => ¬Brief index
  | setNext _ index next, .wording _ => ¬Brief index ∨ ∃ m, f.Addresses next m ∧ ¬Brief m.id
  | disconnectNext _ index, .wording _ => ¬Brief index
  | _, _ => False

end Command

namespace Refusal

/-- The index that a refusal shows. -/
def index? : Refusal → Option Int
  | noInput _ index | noOutput _ index | noBranch _ index => some index
  | _ => none

theorem long_of_mute {reason : Refusal} {error : TextError} {index : Int}
    (shows : reason.index? = some index) (failed : reason.message = .error error) :
    ¬Brief index := by
  cases reason with
  | noInput name i | noOutput name i | noBranch name i =>
    obtain rfl : i = index := Option.some.inj shows
    rw [message] at failed
    exact Text.not_brief_of_map failed
  | noNode | nodeExists | startNode | nameTaken => cases shows

end Refusal

namespace Editor

/-- How a command is answered. -/
inductive Answers (c : Catalog) (e : Editor) (command : Command) : Edited → Prop
  | refused {reason : Refusal} (unfit : ¬command.Applies c e.flow)
      (spare : ¬command.Spends c e.flow)
      (blames : ∀ error, reason.message = .error error → command.Blames c e.flow (.wording error)) :
      Answers c e command (e.refuse reason)
  | failed {error : EditError} (unfit : ¬command.Applies c e.flow)
      (spare : ¬command.Spends c e.flow) (blames : command.Blames c e.flow error) :
      Answers c e command (e.fail error)
  | spent {error : EditError} (unfit : ¬command.Applies c e.flow)
      (spends : command.Spends c e.flow) (blames : command.Blames c e.flow error) :
      Answers c e command (e.reserve.fail error)
  | altered {outcome : Outcome} {edit : Edit} (fit : command.Applies c e.flow)
      (old : command.makesNode = false) (took : outcome.took = true)
      (alters : Alters c e.flow edit) : Answers c e command (e.perform c outcome edit)
  | added {outcome : Outcome} {edit : Edit} (fit : command.Applies c e.flow)
      (new : command.makesNode = true) (took : outcome.took = true)
      (adds : Adds c e.flow edit) : Answers c e command (e.reserve.perform c outcome edit)

variable {c : Catalog} {e : Editor}

theorem has_of_find? {key : String} {type : NodeType} (found : c.find? key = some type) :
    c.has key = true := by
  rw [Catalog.has, found]
  rfl

theorem has_of_missing {key : String} (missing : c.find? key = none) : c.has key = false := by
  rw [Catalog.has, missing]
  rfl

/-- A refusal that is put into words whatever the indices. -/
theorem Answers.refusedPlainly {command : Command} {reason : Refusal} {text : String}
    (plain : reason.message = .ok text) (unfit : ¬command.Applies c e.flow)
    (spare : ¬command.Spends c e.flow) : Answers c e command (e.refuse reason) := by
  refine .refused unfit spare fun error failed => ?_
  rw [plain] at failed
  cases failed

/-- What a node offers can be put into words. -/
theorem exists_describe {f : Flow} (distinct : f.Distinct) {source : Reference}
    (offered : f.Offers source) (worded : source.isWorded = true) :
    ∃ text, source.describe (some f) = .ok text := by
  cases source with
  | constant value => exact ⟨_, Value.format_brief worded⟩
  | output id index =>
    obtain ⟨n, present, rfl, lower, upper⟩ := offered
    obtain ⟨i, rfl⟩ := Int.eq_ofNat_of_zero_le lower
    have slot : i < n.type.layout.outputs.length := Int.ofNat_lt.mp upper
    have named : n.outputName (Int.ofNat i) = .ok n.type.layout.outputs[i].name := by
      simp only [Node.outputName, Port.label, List.getElem?_eq_getElem slot]
    refine ⟨"from [" ++ n.name ++ "]." ++ n.type.layout.outputs[i].name, ?_⟩
    simp only [Reference.describe, Option.bind_some, Flow.node?_of_mem distinct present]
    exact congrArg (Except.map _) named

section Command

variable (h : e.flow.WellFormed)

theorem createNode_answers (type name : String) :
    Answers c e (.createNode type name) (e.createNode c type name) := by
  unfold createNode
  cases named : e.flow.nodeNamed? name with
  | some n =>
    obtain ⟨present, same⟩ := Flow.mem_of_nodeNamed? named
    simp only [Option.isSome_some, ↓reduceIte]
    exact .refusedPlainly rfl (fun fit => fit.1 n present same) fun spends =>
      spends.1 n present same
  | none =>
    have unused : e.flow.Unused name := Flow.nodeNamed?_eq_none.mp named
    simp only [Option.isSome_none, Bool.false_eq_true, ↓reduceIte, Catalog.make]
    cases found : c.find? type with
    | none =>
      have missing := has_of_missing found
      exact .spent (fun fit => by simp [missing, Command.Applies] at fit) ⟨unused, missing⟩
        ⟨rfl, missing⟩
    | some nodeType =>
      exact .added ⟨unused, has_of_find? found⟩ rfl rfl (.created (Catalog.find?_self found) named)

theorem not_addressed {name : String} (missing : e.flow.nodeNamed? name = none) (n : Node) :
    ¬e.flow.Addresses name n :=
  fun named => Flow.nodeNamed?_eq_none.mp missing n named.present named.named

theorem renameNode_answers (name newName : String) :
    Answers c e (.renameNode name newName) (e.renameNode c name newName) := by
  unfold renameNode
  cases named : e.flow.nodeNamed? name with
  | none => exact .refusedPlainly rfl (fun ⟨⟨n, there⟩, _⟩ => not_addressed named n there) id
  | some node =>
    obtain ⟨present, rfl⟩ := Flow.mem_of_nodeNamed? named
    dsimp only
    split
    · rename_i taken
      refine .refusedPlainly rfl (fun ⟨_, unused⟩ => ?_) id
      simp only [Bool.or_eq_true, decide_eq_true_eq, Option.isSome_iff_exists] at taken
      obtain same | ⟨other, there⟩ := taken
      · exact unused node present same
      · obtain ⟨present, same⟩ := Flow.mem_of_nodeNamed? there
        exact unused other present same
    · rename_i free
      simp only [Bool.or_eq_true, not_or, Bool.not_eq_true, Option.isSome_eq_false_iff,
        Option.isNone_iff_eq_none] at free
      exact .altered ⟨⟨node, Flow.addresses_of_nodeNamed? named⟩, Flow.nodeNamed?_eq_none.mp free.2⟩
        rfl rfl (.renamed present free.2)

include h

/-- A name that is found stands for one node only. -/
theorem addressed {name : String} {n m : Node} (named : e.flow.nodeNamed? name = some n)
    (other : e.flow.Addresses name m) : m = n := by
  rw [← Flow.nodeNamed?_eq_some_iff h.distinct, named] at other
  exact (Option.some.inj other).symm

theorem removeNode_answers (name : String) :
    Answers c e (.removeNode name) (e.removeNode c name) := by
  unfold removeNode
  cases named : e.flow.nodeNamed? name with
  | none => exact .refusedPlainly rfl (fun ⟨n, there, _⟩ => not_addressed named n there) id
  | some node =>
    have present := (Flow.mem_of_nodeNamed? named).1
    dsimp only
    split
    · rename_i starts
      refine .refusedPlainly rfl (fun ⟨n, there, other, _⟩ => other ?_) id
      rw [addressed h named there, starts]
    · rename_i other
      unfold Catalog.copy
      cases found : c.find? node.type.key with
      | none =>
        have missing := has_of_missing found
        refine .failed (fun ⟨n, there, _, held⟩ => ?_) id ⟨missing, node, present, rfl⟩
        rw [addressed h named there, missing] at held
        cases held
      | some type =>
        refine .altered
          ⟨node, Flow.addresses_of_nodeNamed? named, other, has_of_find? found⟩ rfl rfl
          (.removed present other ?_)
        rw [Catalog.copy, found]

theorem connectInput_answers {command : Command} (fit : command.Applies c e.flow)
    (old : command.makesNode = false) {node : Node} (present : node ∈ e.flow.nodes) {index : Int}
    (lower : 0 ≤ index) (upper : index < node.inputCount) {source : Reference}
    (offered : e.flow.Offers source) (worded : source.isWorded = true) :
    Answers c e command (e.connectInput c node index.toNat source) := by
  have bound : index.toNat < node.inputs.length := by
    rw [(h.fits node present).inputs]
    omega
  have before := List.getElem?_eq_getElem bound
  obtain ⟨text, described⟩ := exists_describe h.distinct offered worded
  unfold connectInput
  rw [described, before]
  exact .altered fit old rfl (.inputSet present before offered worded)

omit h in
/-- A constant that cannot be put into words is not set. -/
theorem connectInput_mute {node : Node} {index : Nat} {source : Reference}
    (long : source.isWorded = false) :
    e.connectInput c node index source = e.fail (.wording .tooManyDigits) := by
  cases source with
  | output => cases long
  | constant value =>
    unfold connectInput
    rw [Reference.describe, Value.format_long long]

theorem connectNext_answers {command : Command} (fit : command.Applies c e.flow)
    (old : command.makesNode = false) {node : Node} (present : node ∈ e.flow.nodes) {index : Int}
    (lower : 0 ≤ index) (upper : index < node.branchCount) {next : Int} (brief : Brief next)
    (known : next = -1 ∨ ∃ m ∈ e.flow.nodes, m.id = next) :
    Answers c e command (e.connectNext c node index.toNat next) := by
  have bound : index.toNat < node.next.length := by
    rw [(h.fits node present).next]
    omega
  have before := List.getElem?_eq_getElem bound
  unfold connectNext
  rw [Text.ofInt_brief brief, before]
  exact .altered fit old rfl (.nextSet present before known brief)

/-- To set an input to a constant or to nothing takes the input, and words for the constant. -/
theorem setInput_answers {command : Command} {name : String} {index : Int} {source : Reference}
    (needs : command.Applies c e.flow ↔
      (∃ n, e.flow.Addresses name n ∧ 0 ≤ index ∧ index < n.inputCount) ∧ source.isWorded = true)
    (blames : ∀ error, ¬Brief index ∨ source.isWorded = false →
      command.Blames c e.flow (.wording error))
    (spare : ¬command.Spends c e.flow) (old : command.makesNode = false)
    (offered : e.flow.Offers source) : Answers c e command (e.setInput c name index source) := by
  unfold setInput
  cases named : e.flow.nodeNamed? name with
  | none =>
    refine .refusedPlainly rfl (fun fit => ?_) spare
    obtain ⟨⟨n, there, -⟩, -⟩ := needs.mp fit
    exact not_addressed named n there
  | some node =>
    dsimp only
    split
    · rename_i slot
      obtain ⟨lower, upper⟩ := isSlot_iff.mp slot
      have there := Flow.addresses_of_nodeNamed? named
      cases worded : source.isWorded with
      | true =>
        exact connectInput_answers h (needs.mpr ⟨⟨node, there, lower, upper⟩, worded⟩) old
          there.present lower upper offered worded
      | false =>
        rw [connectInput_mute worded]
        refine .failed (fun fit => ?_) spare (blames _ (.inr worded))
        rw [(needs.mp fit).2] at worded
        cases worded
    · rename_i noSlot
      refine .refused (fun fit => ?_) spare fun error failed =>
        blames error (.inl (Refusal.long_of_mute rfl failed))
      obtain ⟨⟨n, there, slot⟩, -⟩ := needs.mp fit
      rw [addressed h named there] at slot
      exact noSlot (isSlot_iff.mpr slot)

theorem setReference_answers (name : String) (index : Int) (source : String) (sourceIndex : Int) :
    Answers c e (.setReference name index source sourceIndex)
      (e.setReference c name index source sourceIndex) := by
  unfold setReference
  split
  · rename_i named
    exact .refusedPlainly rfl (fun ⟨n, m, there, _⟩ => not_addressed named n there) id
  · rename_i named
    exact .refusedPlainly rfl (fun ⟨n, m, _, there, _⟩ => not_addressed named m there) id
  · rename_i node from_ named sourceNamed
    split
    · rename_i noSlot
      refine .refused (fun ⟨n, m, there, _, slot, _⟩ => ?_) id fun _ failed =>
        .inl (Refusal.long_of_mute rfl failed)
      rw [addressed h named there, ← isSlot_iff] at slot
      simp [slot] at noSlot
    · rename_i slot
      split
      · rename_i noSlot
        refine .refused (fun ⟨n, m, _, there, _, slot⟩ => ?_) id fun _ failed =>
          .inr (Refusal.long_of_mute rfl failed)
        rw [addressed h sourceNamed there, ← isSlot_iff] at slot
        simp [slot] at noSlot
      · rename_i sourceSlot
        obtain ⟨lower, upper⟩ := isSlot_iff.mp (by simpa using slot)
        have offered := isSlot_iff.mp (by simpa using sourceSlot)
        have there := Flow.addresses_of_nodeNamed? named
        have origin := Flow.addresses_of_nodeNamed? sourceNamed
        have fit : (Command.setReference name index source sourceIndex).Applies c e.flow :=
          ⟨node, from_, there, origin, ⟨lower, upper⟩, offered⟩
        exact connectInput_answers h fit rfl there.present lower upper
          ⟨from_, origin.present, rfl, offered⟩ rfl

theorem setNext_answers (name : String) (index : Int) (next : String) :
    Answers c e (.setNext name index next) (e.setNext c name index next) := by
  unfold setNext
  split
  · rename_i named
    exact .refusedPlainly rfl (fun ⟨n, m, there, _⟩ => not_addressed named n there) id
  · rename_i named
    exact .refusedPlainly rfl (fun ⟨n, m, _, there, _⟩ => not_addressed named m there) id
  · rename_i node target named targetNamed
    split
    · rename_i slot
      obtain ⟨lower, upper⟩ := isSlot_iff.mp slot
      have there := Flow.addresses_of_nodeNamed? named
      have aim := Flow.addresses_of_nodeNamed? targetNamed
      by_cases brief : Brief target.id
      · have fit : (Command.setNext name index next).Applies c e.flow :=
          ⟨node, target, there, aim, ⟨lower, upper⟩, brief⟩
        exact connectNext_answers h fit rfl there.present lower upper brief
          (.inr ⟨target, aim.present, rfl⟩)
      · unfold connectNext
        rw [Text.ofInt_long brief]
        refine .failed (fun ⟨n, m, _, other, _, fits⟩ => brief ?_) id (.inr ⟨target, aim, brief⟩)
        rwa [← addressed h targetNamed other]
    · rename_i noSlot
      refine .refused (fun ⟨n, m, there, _, slot, _⟩ => ?_) id fun _ failed =>
        .inl (Refusal.long_of_mute rfl failed)
      rw [addressed h named there] at slot
      exact noSlot (isSlot_iff.mpr slot)

theorem disconnectNext_answers (name : String) (index : Int) :
    Answers c e (.disconnectNext name index) (e.disconnectNext c name index) := by
  unfold disconnectNext
  cases named : e.flow.nodeNamed? name with
  | none => exact .refusedPlainly rfl (fun ⟨n, there, _⟩ => not_addressed named n there) id
  | some node =>
    dsimp only
    split
    · rename_i slot
      obtain ⟨lower, upper⟩ := isSlot_iff.mp slot
      have there := Flow.addresses_of_nodeNamed? named
      have fit : (Command.disconnectNext name index).Applies c e.flow := ⟨node, there, lower, upper⟩
      have brief : Brief (-1) := brief_of_natAbs_le (by decide)
      exact connectNext_answers h fit rfl there.present lower upper brief (.inl rfl)
    · rename_i noSlot
      refine .refused (fun ⟨n, there, slot⟩ => ?_) id
        fun _ failed => Refusal.long_of_mute rfl failed
      rw [addressed h named there] at slot
      exact noSlot (isSlot_iff.mpr slot)

theorem fitsStart_iff (name : String) :
    isTakenBesides e.flow e.flow.startNode? name = false ↔ e.flow.FitsStart name := by
  unfold isTakenBesides
  cases named : e.flow.nodeNamed? name with
  | none => exact iff_of_true rfl fun n there => absurd there (not_addressed named n)
  | some node =>
    have there := Flow.addresses_of_nodeNamed? named
    have only : e.flow.FitsStart name ↔ node.id = e.flow.start :=
      ⟨fun fits => fits node there, fun starts n other => by rw [addressed h named other, starts]⟩
    rw [only]
    cases starts : e.flow.startNode? with
    | none => simpa using Flow.node?_eq_none.mp starts node there.present
    | some old => simp [(Flow.mem_of_node? starts).2]

omit h in
theorem isEvent_of_eventType {key : String} {type : NodeType} (event : eventType c key = .ok type) :
    c.isEvent key = true := by
  unfold eventType at event
  split at event
  · cases event
  · rename_i found
    split at event
    · rwa [Catalog.isEvent, found]
    · cases event

omit h in
theorem blames_of_eventType {key : String} {error : EditError} (name : String)
    (event : eventType c key = .error error) :
    c.isEvent key = false ∧ (Command.replaceStart key name).Blames c e.flow error := by
  unfold eventType at event
  cases found : c.find? key with
  | none =>
    rw [found] at event
    cases event
    exact ⟨by rw [Catalog.isEvent, found], has_of_missing found, .inl rfl⟩
  | some type =>
    rw [found] at event
    dsimp only at event
    split at event
    · cases event
    · rename_i noEvent
      cases event
      have noEvent : c.isEvent key = false := by simpa [Catalog.isEvent, found] using noEvent
      exact ⟨noEvent, rfl, has_of_find? found, noEvent⟩

omit h in
/-- A node with a slot for each of its branches can hand them on. -/
theorem exists_inheritNext {old : Node} (fits : old.Fits) (new : Node) :
    ∃ node, inheritNext new old = .ok node := by
  unfold inheritNext
  rw [if_neg (by rw [fits.next]; omega)]
  exact ⟨_, rfl⟩

theorem replaceStart_answers (key name : String) :
    Answers c e (.replaceStart key name) (e.replaceStart c key name) := by
  unfold replaceStart
  cases event : eventType c key with
  | error error =>
    obtain ⟨noEvent, blames⟩ := blames_of_eventType (e := e) name event
    exact .failed (fun ⟨isEvent, _⟩ => by simp [noEvent] at isEvent)
      (fun ⟨isEvent, _⟩ => by simp [noEvent] at isEvent) blames
  | ok type =>
    have isEvent := isEvent_of_eventType event
    obtain ⟨found, typeEvent⟩ := find?_of_eventType event
    dsimp only
    split
    · rename_i taken
      have unfit : ¬e.flow.FitsStart name := by
        rw [← fitsStart_iff h, taken]
        exact Bool.noConfusion
      exact .refusedPlainly rfl (fun ⟨_, fits, _⟩ => unfit fits) fun ⟨_, fits, _⟩ => unfit fits
    · rename_i free
      rw [Bool.not_eq_true] at free
      have fits := (fitsStart_iff h name).mp free
      cases starts : e.flow.startNode? with
      | none =>
        refine .added ⟨isEvent, fits, fun old there => ?_⟩ rfl rfl (.started found starts)
        rw [starts] at there
        cases there
      | some old =>
        have present := (Flow.mem_of_node? starts).1
        obtain ⟨new, inherited⟩ := exists_inheritNext (h.fits old present)
          (Node.fresh type e.reserve.flow.counter name)
        dsimp only
        rw [inherited, Catalog.copy]
        cases held : c.find? old.type.key with
        | none =>
          have missing := has_of_missing held
          refine .spent (fun ⟨_, _, all⟩ => ?_) ⟨isEvent, fits, old, starts, missing⟩
            ⟨missing, .inr ⟨old, present, rfl⟩⟩
          rw [all old starts] at missing
          cases missing
        | some oldType =>
          rw [starts] at free
          refine .added ⟨isEvent, fits, fun other there => ?_⟩ rfl rfl
            (.restarted found typeEvent starts free inherited (by rw [Catalog.copy, held]))
          rw [starts] at there
          cases there
          exact has_of_find? held

/-- Every command gets one of the answers. -/
theorem edit_answers (command : Command) : Answers c e command (e.edit c command) := by
  cases command with
  | createNode type name => exact createNode_answers type name
  | removeNode name => exact removeNode_answers h name
  | renameNode name newName => exact renameNode_answers name newName
  | replaceStart type name => exact replaceStart_answers h type name
  | setConstant name index value =>
    exact setInput_answers h Iff.rfl (fun _ mute => mute) id rfl trivial
  | setReference name index source sourceIndex =>
    exact setReference_answers h name index source sourceIndex
  | disconnectInput name index =>
    have nothing : (Reference.constant .absent).isWorded = true := rfl
    exact setInput_answers h (and_iff_left nothing).symm (fun _ mute => mute.resolve_right nofun) id
      rfl trivial
  | setNext name index next => exact setNext_answers h name index next
  | disconnectNext name index => exact disconnectNext_answers h name index

end Command

/-- Changes go through and leave the counter where it is. -/
theorem Alters.fine {f : Flow} {edit : Edit} (alters : Alters c f edit) (distinct : f.Distinct) :
    (applyAll c f edit.forward).error = none ∧
      (applyAll c f edit.forward).flow.counter = f.counter := by
  cases alters with
  | removed | renamed => exact ⟨rfl, rfl⟩
  | inputSet present slot offered =>
    have bound := (List.getElem?_eq_some_iff.mp slot).1
    simp [applyAll, Change.apply, Flow.node?_of_mem distinct present, bound, Flow.modifyNode]
  | nextSet present slot known =>
    have bound := (List.getElem?_eq_some_iff.mp slot).1
    simp [applyAll, Change.apply, Flow.node?_of_mem distinct present, bound, Flow.modifyNode]

/-- A node of a registered type goes in as it is. -/
theorem applyAll_addNode {f : Flow} {n : Node} (registered : n.Registered c) (rest : List Change) :
    (applyAll c f (.addNode n :: rest)).error = (applyAll c (f.addNode n) rest).error ∧
      (applyAll c f (.addNode n :: rest)).flow = (applyAll c (f.addNode n) rest).flow := by
  simp only [applyAll, Change.apply, Catalog.copy_registered registered, and_self]

/-- A node that was put in can be made the start. -/
theorem applyAll_setStart (f : Flow) (n : Node) (rest : List Change) :
    (applyAll c (f.addNode n) (.setStart n.id :: rest)).error =
        (applyAll c ((f.addNode n).setStart n.id) rest).error ∧
      (applyAll c (f.addNode n) (.setStart n.id :: rest)).flow =
        (applyAll c ((f.addNode n).setStart n.id) rest).flow := by
  have present : ((f.addNode n).node? n.id).isSome = true := by simp
  obtain ⟨log, said⟩ := Flow.exists_setStartLog (.inl present)
  simp only [applyAll, Change.apply, said, and_self]

/-- A node under the id that was reserved goes in, and with it the counter stays there. -/
theorem Adds.fine {f : Flow} {edit : Edit} (adds : Adds c f edit) :
    (applyAll c f.reserveId edit.forward).error = none ∧
      (applyAll c f.reserveId edit.forward).flow.counter = f.counter + 1 := by
  have counter {n : Node} (id : n.id = f.counter + 1) :
      (f.reserveId.addNode n).counter = f.counter + 1 := by
    rw [Flow.addNode, id]
    exact Int.max_self _
  cases adds with
  | @created _ type name found free =>
    have registered : (Node.fresh type (f.counter + 1) name).Registered c := found
    rw [(applyAll_addNode registered _).1, (applyAll_addNode registered _).2]
    exact ⟨rfl, counter rfl⟩
  | @started _ type name found missing =>
    have registered : (Node.fresh type (f.counter + 1) name).Registered c := found
    obtain ⟨error, flow⟩ := applyAll_setStart (c := c) f.reserveId
      (Node.fresh type (f.counter + 1) name) []
    rw [(applyAll_addNode registered _).1, (applyAll_addNode registered _).2]
    exact ⟨error, (congrArg Flow.counter flow).trans (counter rfl)⟩
  | @restarted _ type name old new snapshot found event starts free inherits copied =>
    obtain ⟨newId, newType, -⟩ := inheritNext_keeps inherits
    have registered : new.Registered c := by
      rw [Node.Registered, newType]
      exact found
    obtain ⟨error, flow⟩ := applyAll_setStart (c := c) f.reserveId new [.removeNode old.id]
    rw [(applyAll_addNode registered _).1, (applyAll_addNode registered _).2]
    exact ⟨error, (congrArg Flow.counter flow).trans (counter newId)⟩

/-- An edit that goes through is recorded on top of those before, and no edit is left to redo. -/
structure Records (before after : Editor) (command : Command) : Prop where
  undoable : ∃ edit, after.undoable = edit :: before.undoable
  redoable : after.redoable = []
  enabled : after.enabled = false
  counter : after.flow.counter = before.flow.counter + if command.makesNode then 1 else 0

theorem perform_fine {edit : Edit} (fine : (applyAll c e.flow edit.forward).error = none)
    (outcome : Outcome) :
    (e.perform c outcome edit).outcome = outcome ∧ (e.perform c outcome edit).editor =
      ⟨(applyAll c e.flow edit.forward).flow, false, edit :: e.undoable, []⟩ := by
  simp only [perform, fine, and_self]

/-- **Commands change an editor as a whole or not at all.** A command is carried out if and only if
its condition holds. One that is not changes nothing, except that it may use up an id; one that is
is recorded as one edit. -/
theorem edit_settled (c : Catalog) (e : Editor) (h : e.flow.WellFormed) (command : Command) :
    ((e.edit c command).outcome.took = true ↔ command.Applies c e.flow) ∧
      ((e.edit c command).outcome.took = false →
        (command.Spends c e.flow → (e.edit c command).editor = e.reserve) ∧
          (¬command.Spends c e.flow → (e.edit c command).editor = e)) ∧
      ((e.edit c command).outcome.took = true → e.Records (e.edit c command).editor command) := by
  have answers := edit_answers (c := c) h command
  generalize e.edit c command = d at answers
  cases answers with
  | refused unfit spare =>
    rw [refuse_took, refuse_editor]
    refine ⟨iff_of_false Bool.noConfusion unfit, fun _ => ⟨fun spends => ?_, fun _ => rfl⟩, nofun⟩
    exact absurd spends spare
  | failed unfit spare =>
    refine ⟨iff_of_false Bool.noConfusion unfit, fun _ => ⟨fun spends => ?_, fun _ => rfl⟩, nofun⟩
    exact absurd spends spare
  | spent unfit spends =>
    refine ⟨iff_of_false Bool.noConfusion unfit, fun _ => ⟨fun _ => rfl, fun spare => ?_⟩, nofun⟩
    exact absurd spends spare
  | @altered outcome edit fit old took alters =>
    obtain ⟨fine, counter⟩ := alters.fine h.distinct
    obtain ⟨same, after⟩ := perform_fine fine outcome
    rw [same, after, took]
    refine ⟨iff_of_true rfl fit, nofun, fun _ => ⟨⟨_, rfl⟩, rfl, rfl, ?_⟩⟩
    simp [counter, old]
  | @added outcome edit fit new took adds =>
    obtain ⟨fine, counter⟩ := adds.fine
    obtain ⟨same, after⟩ := perform_fine (e := e.reserve) fine outcome
    rw [same, after, took]
    refine ⟨iff_of_true rfl fit, nofun, fun _ => ⟨⟨_, rfl⟩, rfl, rfl, ?_⟩⟩
    rw [if_pos new]
    exact counter

/-- An editor of a flow with two nodes of one name, in which an edit was taken back. -/
def twinEditor : Editor where
  flow := ⟨"twins", [⟨1, .trigger, "start", [], [3]⟩,
    ⟨3, .condition, "twin", [.constant (.bool true)], [2, -1]⟩,
    ⟨2, .condition, "twin", [.output 1 0], [-1, -1]⟩], 1, 3⟩
  enabled := true
  undoable := []
  redoable := [⟨"rename 'start' to 'first'", [.rename 1 "first"], [.rename 1 "start"]⟩]

theorem edit_settled_twinEditor :
    twinEditor.flow.WellFormed ∧
      twinEditor.Records (twinEditor.edit .standard (.removeNode "twin")).editor
        (.removeNode "twin") ∧
      (twinEditor.edit .standard (.replaceStart "DummyNode" "twin")).editor = twinEditor := by
  have formed : twinEditor.flow.WellFormed := by
    refine ⟨by decide, ?_⟩
    simp only [twinEditor, List.forall_mem_cons]
    exact ⟨⟨rfl, rfl⟩, ⟨rfl, rfl⟩, ⟨rfl, rfl⟩, by simp⟩
  obtain ⟨-, -, recorded⟩ := edit_settled .standard twinEditor formed (.removeNode "twin")
  obtain ⟨-, kept, -⟩ := edit_settled .standard twinEditor formed (.replaceStart "DummyNode" "twin")
  refine ⟨formed, recorded rfl, (kept rfl).2 ?_⟩
  rintro ⟨-, fits, -⟩
  have starts := fits ⟨2, .condition, "twin", [.output 1 0], [-1, -1]⟩ ⟨by decide, rfl, by decide⟩
  cases starts

/-- An editor of a flow with an addition. -/
def sumEditor : Editor :=
  ofFlow ⟨"sums", [⟨1, .trigger, "start", [], [2]⟩, ⟨2, .addition, "sum", [.empty, .empty], [-1]⟩],
    1, 2⟩

theorem sumEditor_wellFormed : sumEditor.flow.WellFormed := by
  refine ⟨by decide, ?_⟩
  simp only [sumEditor, ofFlow, List.forall_mem_cons]
  exact ⟨⟨rfl, rfl⟩, ⟨rfl, rfl⟩, by simp⟩

theorem setConstant_mute {value : Value} (long : value.isBrief = false) :
    (sumEditor.edit .standard (.setConstant "sum" 0 value)).outcome =
      .failed (.wording .tooManyDigits) := by
  have mute : (Reference.constant value).isWorded = false := long
  change (sumEditor.connectInput .standard _ 0 _).outcome = _
  rw [connectInput_mute mute]
  rfl

/-- A start of a type that the catalog no longer has cannot be replaced, but an id is used up; and
an input that is there is not set to an integer of too many digits. -/
theorem edit_breaks :
    (let e := ofFlow (startFlow "f" .trigger "start")
     let edited := e.edit (Catalog.standard.remove "TriggerNode") (.replaceStart "DummyNode" "x")
     (e.flow.WellFormed ∧ e.flow.Bounded) ∧
       edited.outcome = .failed (.unknownType ⟨"TriggerNode"⟩) ∧
       edited.editor.flow.counter = e.flow.counter + 1) ∧
    (sumEditor.flow.WellFormed ∧ sumEditor.flow.Bounded) ∧
      (sumEditor.edit .standard (.setConstant "sum" 0 (.int (10 ^ Text.digitLimit)))).outcome =
        .failed (.wording .tooManyDigits) := by
  refine ⟨⟨⟨⟨by decide, fun n hn => ?_⟩, by decide⟩, by decide, by decide⟩,
    ⟨sumEditor_wellFormed, by decide⟩, setConstant_mute ?_⟩
  · rw [List.mem_singleton.mp hn]
    exact Node.fits_fresh ..
  · exact Value.isBrief_eq_false_iff.mpr ⟨_, rfl, not_brief_limit⟩

end Editor

end EventFlow
