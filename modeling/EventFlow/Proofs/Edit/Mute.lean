import EventFlow.Proofs.Edit.Applied

/-!
Commands that break off for lack of words: what their answer shows has too many digits.

* `Command.Mute`: the condition, in terms of the nodes that names stand for;
* `blames_of_failed`: a command breaks off for what it can be blamed for only;
* `edit_mute_iff`: it breaks off for lack of words if and only if it is mute.
-/

namespace EventFlow

/-- A command whose answer shows an integer that cannot be said: an index that is refused, or else
the constant or the successor that is set. -/
def Command.Mute (f : Flow) : Command → Prop
  | setConstant name index value => ∃ n, f.Addresses name n ∧
      if isSlot index n.inputCount then value.isBrief = false else ¬Brief index
  | setReference name index source sourceIndex =>
    ∃ n m, f.Addresses name n ∧ f.Addresses source m ∧
      if isSlot index n.inputCount then
        isSlot sourceIndex m.outputCount = false ∧ ¬Brief sourceIndex
      else ¬Brief index
  | disconnectInput name index => ∃ n, f.Addresses name n ∧
      isSlot index n.inputCount = false ∧ ¬Brief index
  | setNext name index next => ∃ n m, f.Addresses name n ∧ f.Addresses next m ∧
      if isSlot index n.branchCount then ¬Brief m.id else ¬Brief index
  | disconnectNext name index => ∃ n, f.Addresses name n ∧
      isSlot index n.branchCount = false ∧ ¬Brief index
  | _ => False

/-- A command was not answered for lack of words. -/
def Edited.IsMute (d : Edited) : Prop :=
  ∃ error, d.outcome = .failed (.wording error)

namespace Editor

variable {c : Catalog} {e : Editor}

theorem fail_mute (error : TextError) : (e.fail (.wording error)).IsMute :=
  ⟨error, rfl⟩

theorem took_not_mute {d : Edited} (took : d.outcome.took = true) : ¬d.IsMute := by
  rintro ⟨error, failed⟩
  rw [failed] at took
  cases took

theorem refuse_plain {reason : Refusal} {text : String} (plain : reason.message = .ok text) :
    ¬(e.refuse reason).IsMute := by
  rintro ⟨error, failed⟩
  rw [refuse, plain] at failed
  cases failed

/-- A refusal that shows an index is mute if the index cannot be said. -/
theorem refuse_mute_iff {reason : Refusal} {index : Int} (shows : reason.index? = some index) :
    (e.refuse reason).IsMute ↔ ¬Brief index := by
  constructor
  · rintro ⟨error, failed⟩
    unfold refuse at failed
    split at failed
    · cases failed
    · rename_i error' mute
      exact Refusal.long_of_mute shows mute
  · intro long
    cases reason with
    | noInput name i | noOutput name i | noBranch name i =>
      obtain rfl : i = index := Option.some.inj shows
      unfold refuse
      rw [Refusal.message, Text.ofInt_long long]
      exact fail_mute _
    | noNode | nodeExists | startNode | nameTaken => cases shows

section Connect

variable (h : e.flow.WellFormed) {node : Node} (present : node ∈ e.flow.nodes) {index : Int}
include h present

theorem connectInput_mute_iff (slot : isSlot index node.inputCount = true) {source : Reference}
    (offered : e.flow.Offers source) :
    (e.connectInput c node index.toNat source).IsMute ↔ source.isWorded = false := by
  cases worded : source.isWorded with
  | false =>
    rw [connectInput_mute worded]
    exact iff_of_true (fail_mute _) rfl
  | true =>
    obtain ⟨lower, upper⟩ := isSlot_iff.mp slot
    have bound : index.toNat < node.inputs.length := by
      rw [(h.fits node present).inputs]
      omega
    have before := List.getElem?_eq_getElem bound
    obtain ⟨text, described⟩ := exists_describe h.distinct offered worded
    unfold connectInput
    rw [described, before]
    refine iff_of_false (took_not_mute ?_) Bool.noConfusion
    dsimp only
    rw [(perform_fine (Alters.fine (.inputSet present before offered worded) h.distinct).1 _).1]
    rfl

theorem connectNext_mute_iff (slot : isSlot index node.branchCount = true) {next : Int}
    (known : next = -1 ∨ ∃ m ∈ e.flow.nodes, m.id = next) :
    (e.connectNext c node index.toNat next).IsMute ↔ ¬Brief next := by
  unfold connectNext
  by_cases brief : Brief next
  · obtain ⟨lower, upper⟩ := isSlot_iff.mp slot
    have bound : index.toNat < node.next.length := by
      rw [(h.fits node present).next]
      omega
    have before := List.getElem?_eq_getElem bound
    rw [Text.ofInt_brief brief, before]
    refine iff_of_false (took_not_mute ?_) (not_not_intro brief)
    dsimp only
    rw [(perform_fine (Alters.fine (.nextSet present before known brief) h.distinct).1 _).1]
    rfl
  · rw [Text.ofInt_long brief]
    exact iff_of_true (fail_mute _) brief

end Connect

section Command

variable (h : e.flow.WellFormed)
include h

theorem exists_addressed_iff {name : String} {node : Node}
    (named : e.flow.nodeNamed? name = some node) {P : Node → Prop} :
    (∃ n, e.flow.Addresses name n ∧ P n) ↔ P node := by
  constructor
  · rintro ⟨n, other, holds⟩
    exact addressed h named other ▸ holds
  · exact fun holds => ⟨node, Flow.addresses_of_nodeNamed? named, holds⟩

theorem exists_both_addressed_iff {name other : String} {node target : Node}
    (named : e.flow.nodeNamed? name = some node)
    (otherNamed : e.flow.nodeNamed? other = some target) {P : Node → Node → Prop} :
    (∃ n m, e.flow.Addresses name n ∧ e.flow.Addresses other m ∧ P n m) ↔ P node target := by
  constructor
  · rintro ⟨n, m, first, second, holds⟩
    rwa [addressed h named first, addressed h otherNamed second] at holds
  · exact fun holds => ⟨node, target, Flow.addresses_of_nodeNamed? named,
      Flow.addresses_of_nodeNamed? otherNamed, holds⟩

/-- To set an input is mute for lack of a slot with a short index, or for its constant. -/
theorem setInput_mute_iff {name : String} {index : Int} {source : Reference}
    (offered : e.flow.Offers source) :
    (e.setInput c name index source).IsMute ↔ ∃ n, e.flow.Addresses name n ∧
      if isSlot index n.inputCount then source.isWorded = false else ¬Brief index := by
  unfold setInput
  cases named : e.flow.nodeNamed? name with
  | none =>
    exact iff_of_false (refuse_plain rfl) fun ⟨n, there, _⟩ => not_addressed named n there
  | some node =>
    have there := Flow.addresses_of_nodeNamed? named
    refine Iff.trans ?_ (exists_addressed_iff h named).symm
    dsimp only
    split
    · rename_i slot
      exact connectInput_mute_iff h there.present slot offered
    · exact refuse_mute_iff rfl

theorem setReference_mute_iff (name : String) (index : Int) (source : String) (sourceIndex : Int) :
    (e.setReference c name index source sourceIndex).IsMute ↔
      (Command.setReference name index source sourceIndex).Mute e.flow := by
  unfold setReference
  split
  · rename_i named
    exact iff_of_false (refuse_plain rfl) fun ⟨n, m, there, _⟩ => not_addressed named n there
  · rename_i named
    exact iff_of_false (refuse_plain rfl) fun ⟨n, m, _, there, _⟩ => not_addressed named m there
  · rename_i node from_ named sourceNamed
    have there := Flow.addresses_of_nodeNamed? named
    have origin := Flow.addresses_of_nodeNamed? sourceNamed
    refine Iff.trans ?_ (exists_both_addressed_iff h named sourceNamed).symm
    cases slot : isSlot index node.inputCount with
    | false => exact refuse_mute_iff rfl
    | true =>
      cases sourceSlot : isSlot sourceIndex from_.outputCount with
      | false => simpa using refuse_mute_iff rfl
      | true =>
        have offered : e.flow.Offers (.output from_.id sourceIndex) :=
          ⟨from_, origin.present, rfl, isSlot_iff.mp sourceSlot⟩
        simpa [Reference.isWorded] using connectInput_mute_iff (c := c) h there.present slot offered

theorem setNext_mute_iff (name : String) (index : Int) (next : String) :
    (e.setNext c name index next).IsMute ↔ (Command.setNext name index next).Mute e.flow := by
  unfold setNext
  split
  · rename_i named
    exact iff_of_false (refuse_plain rfl) fun ⟨n, m, there, _⟩ => not_addressed named n there
  · rename_i named
    exact iff_of_false (refuse_plain rfl) fun ⟨n, m, _, there, _⟩ => not_addressed named m there
  · rename_i node target named targetNamed
    have there := Flow.addresses_of_nodeNamed? named
    have aim := Flow.addresses_of_nodeNamed? targetNamed
    refine Iff.trans ?_ (exists_both_addressed_iff h named targetNamed).symm
    split
    · rename_i slot
      exact connectNext_mute_iff h there.present slot (.inr ⟨target, aim.present, rfl⟩)
    · exact refuse_mute_iff rfl

theorem disconnectNext_mute_iff (name : String) (index : Int) :
    (e.disconnectNext c name index).IsMute ↔
      (Command.disconnectNext name index).Mute e.flow := by
  unfold disconnectNext
  cases named : e.flow.nodeNamed? name with
  | none =>
    exact iff_of_false (refuse_plain rfl) fun ⟨n, there, _⟩ => not_addressed named n there
  | some node =>
    have there := Flow.addresses_of_nodeNamed? named
    refine Iff.trans ?_ (exists_addressed_iff h named).symm
    dsimp only
    split
    · rename_i slot
      have brief : Brief (-1) := brief_of_natAbs_le (by decide)
      rw [connectNext_mute_iff h there.present slot (.inl rfl)]
      simp [brief, slot]
    · rename_i slot
      simpa [slot] using refuse_mute_iff rfl

/-- A command breaks off for what it can be blamed for only. -/
theorem blames_of_failed {command : Command} {error : EditError}
    (failed : (e.edit c command).outcome = .failed error) : command.Blames c e.flow error := by
  have answers := edit_answers (c := c) h command
  generalize e.edit c command = edited at answers failed
  cases answers with
  | @refused reason unfit spare blames =>
    unfold refuse at failed
    split at failed
    · cases failed
    · rename_i error' mute
      cases failed
      exact blames error' mute
  | failed unfit spare blames | spent unfit spends blames =>
    cases failed
    exact blames
  | @altered outcome edit fit old took alters =>
    rw [(perform_fine (alters.fine h.distinct).1 outcome).1] at failed
    rw [failed] at took
    cases took
  | @added outcome edit fit new took adds =>
    rw [(perform_fine (e := e.reserve) adds.fine.1 outcome).1] at failed
    rw [failed] at took
    cases took

/-- A command breaks off for lack of words if and only if it is mute. -/
theorem edit_mute_iff (c : Catalog) (command : Command) :
    (e.edit c command).IsMute ↔ command.Mute e.flow := by
  cases command with
  | setConstant name index value =>
    exact setInput_mute_iff h (show e.flow.Offers (.constant value) from trivial)
  | setReference name index source sourceIndex =>
    exact setReference_mute_iff h name index source sourceIndex
  | disconnectInput name index =>
    refine (setInput_mute_iff h (show e.flow.Offers .empty from trivial)).trans ?_
    simp only [Command.Mute]
    refine exists_congr fun n => and_congr_right fun _ => ?_
    split
    · rename_i slot
      simp [slot, Reference.empty, Reference.isWorded, Value.isBrief]
    · rename_i slot
      simp [slot]
  | setNext name index next => exact setNext_mute_iff h name index next
  | disconnectNext name index => exact disconnectNext_mute_iff h name index
  | createNode | removeNode | renameNode | replaceStart =>
    refine iff_of_false ?_ id
    rintro ⟨error, failed⟩
    exact blames_of_failed h failed

end Command

end Editor

end EventFlow
