import EventFlow.Proofs.Document.RoundTrip
import EventFlow.Proofs.Value.Wire

/-!
The values that texts stand for.

* `autoCast_spelled`: a value of a kind with a notation of its own is read back from its text;
* `fixed_iff`: which values are read back from their text;
* `survives_iff`: which values a flow keeps as constants when it is saved;
* `autoCast_inverts_format`: the values that are read back are those that some text stands for, and
  saving a flow keeps them if their text can be sent.
-/

namespace EventFlow.Value

/-- A value of a kind whose text form is a notation of its own. A text is its own text form, and an
integer is written like a number, but read as a float. -/
inductive Spelled : Value → Prop
  | absent : Spelled absent
  | bool (b : Bool) : Spelled (bool b)
  | float (x : Scalar) : Spelled (float x)
  | vec2 (v : Vec2) : Spelled (vec2 v)
  | vec3 (v : Vec3) : Spelled (vec3 v)

/-- The numbers in a value. -/
def components : Value → List Scalar
  | float x => [x]
  | vec2 v => [v.x, v.y]
  | vec3 v => [v.x, v.y, v.z]
  | _ => []

/-- The value without the signs of its NaNs, which texts do not show. -/
def unsigned : Value → Value
  | float x => float x.toFloat
  | vec2 v => vec2 ⟨v.x.toFloat, v.y.toFloat⟩
  | vec3 v => vec3 ⟨v.x.toFloat, v.y.toFloat, v.z.toFloat⟩
  | v => v

theorem ofFloat_toFloat {x : Scalar} (positive : x ≠ .negativeNaN) : .ofFloat x.toFloat = x := by
  cases x with
  | ofFloat x => rfl
  | negativeNaN => exact absurd rfl positive

/-- Only a negative NaN has a sign that texts do not show. -/
theorem unsigned_eq {v : Value} (positive : .negativeNaN ∉ v.components) : v.unsigned = v := by
  cases v with
  | absent | bool | int | text => rfl
  | float x =>
    have first : x ≠ .negativeNaN := fun h => positive (by simp [components, h])
    simp only [unsigned, ofFloat_toFloat first]
  | vec2 v =>
    simp only [components, List.mem_cons, List.not_mem_nil, or_false, not_or] at positive
    simp only [unsigned, ofFloat_toFloat (Ne.symm positive.1), ofFloat_toFloat (Ne.symm positive.2)]
  | vec3 v =>
    simp only [components, List.mem_cons, List.not_mem_nil, or_false, not_or] at positive
    simp only [unsigned, ofFloat_toFloat (Ne.symm positive.1),
      ofFloat_toFloat (Ne.symm positive.2.1), ofFloat_toFloat (Ne.symm positive.2.2)]

/-- The text of a value stands for another one. -/
def RereadAs (v w : Value) : Prop :=
  ∃ s, v.format = .ok s ∧ autoCast s = w

theorem rereadAs_iff {v w : Value} (brief : v.isBrief = true) :
    v.RereadAs w ↔ autoCast v.wire = w := by
  simp [RereadAs, format_brief brief]

theorem Spelled.isBrief {v : Value} (spelled : v.Spelled) : v.isBrief = true := by
  cases spelled <;> rfl

/-- A value with a notation of its own is read back from its text. -/
theorem autoCast_spelled {v : Value} (spelled : v.Spelled) : autoCast v.wire = v.unsigned := by
  cases spelled with
  | absent => rfl
  | bool b => exact autoCast_bool b
  | float x => exact autoCast_number x.toFloat
  | vec2 v => exact autoCast_vec2 v.x.toFloat v.y.toFloat
  | vec3 v => exact autoCast_vec3 v.x.toFloat v.y.toFloat v.z.toFloat

/-- What a text stands for has a notation of its own, or is the text. -/
theorem autoCast_cases (s : String) : (autoCast s).Spelled ∨ autoCast s = text s := by
  unfold autoCast
  split
  · exact .inl .absent
  split
  · exact .inl (.vec3 _)
  split
  · exact .inl (.vec2 _)
  split
  · exact .inl (.float _)
  split
  · exact .inl (.bool _)
  · exact .inr rfl

/-- A text stands for itself if it stands for a text at all. -/
theorem autoCast_eq_text_iff (s : String) : autoCast s = text s ↔ (autoCast s).kind = .text := by
  refine ⟨fun same => congrArg kind same, fun isText => ?_⟩
  rcases autoCast_cases s with spelled | same
  · generalize autoCast s = v at spelled isText
    cases spelled <;> cases isText
  · exact same

/-- The values that are read back from their text: those with a notation of their own, as long as no
NaN in them is negative, and the texts that look like nothing else. -/
theorem fixed_iff (v : Value) :
    v.RereadAs v ↔ (v.Spelled ∧ v.unsigned = v) ∨ ∃ s, v = text s ∧ autoCast s = text s := by
  constructor
  · rintro ⟨wire, written, fixed⟩
    obtain ⟨-, rfl⟩ := format_eq_ok_iff.mp written
    cases v with
    | text s => exact .inr ⟨s, rfl, fixed⟩
    | int n =>
      rcases autoCast_cases (int n).wire with spelled | same
      · rw [fixed] at spelled
        cases spelled
      · rw [fixed] at same
        cases same
    | absent => exact .inl ⟨.absent, rfl⟩
    | bool b => exact .inl ⟨.bool b, rfl⟩
    | float x => exact .inl ⟨.float x, (autoCast_spelled (.float x)).symm.trans fixed⟩
    | vec2 v => exact .inl ⟨.vec2 v, (autoCast_spelled (.vec2 v)).symm.trans fixed⟩
    | vec3 v => exact .inl ⟨.vec3 v, (autoCast_spelled (.vec3 v)).symm.trans fixed⟩
  · rintro (⟨spelled, same⟩ | ⟨s, rfl, same⟩)
    · rw [rereadAs_iff spelled.isBrief, autoCast_spelled spelled, same]
    · exact ⟨s, rfl, same⟩

theorem rereadAs_autoCast (s : String) : (autoCast s).RereadAs (autoCast s) :=
  (rereadAs_iff (isBrief_autoCast s)).mpr (autoCast_wire s)

/-- A value stands in some text if and only if it is read back from its own. -/
theorem exists_autoCast_iff (v : Value) : (∃ s, autoCast s = v) ↔ v.RereadAs v := by
  constructor
  · rintro ⟨s, rfl⟩
    exact rereadAs_autoCast s
  · rintro ⟨s, -, fixed⟩
    exact ⟨s, fixed⟩

section Saved

variable {c : Catalog} {f g : Flow} {n : Node} {i : Nat} {v : Value}

/-- What saving and loading a flow makes of a constant. -/
theorem input_reloaded (sound : f.Sound c) (reloads : f.Reloads c g) (present : n ∈ f.nodes)
    (input : n.inputs[i]? = some (.constant v)) :
    (g.node? n.id).bind (fun m => m.inputs[i]?) = some (.constant (autoCast v.wire)) := by
  have found : g.node? n.id = some n.stored := by
    rw [reloads.eq sound, Flow.node?_reloaded sound.distinct,
      Flow.node?_of_mem sound.distinct present]
    rfl
  simp [found, Node.stored, input, Reference.stored]

/-- A constant of a flow that was written can be put into words. -/
theorem isBrief_of_reloads (sound : f.Sound c) (reloads : f.Reloads c g) (present : n ∈ f.nodes)
    (input : n.inputs[i]? = some (.constant v)) : v.isBrief = true := by
  obtain ⟨version, text, written, -⟩ := reloads
  have writable := Flow.writable_of_write written n ((Flow.mem_ordered sound.distinct).mpr present)
  exact writable.worded _ (List.mem_of_getElem? input)

theorem kept_iff (sound : f.Sound c) (reloads : f.Reloads c g) (present : n ∈ f.nodes)
    (input : n.inputs[i]? = some (.constant v)) :
    (g.node? n.id).bind (fun m => m.inputs[i]?) = some (.constant v) ↔ ∃ s, autoCast s = v := by
  rw [exists_autoCast_iff, rereadAs_iff (isBrief_of_reloads sound reloads present input),
    input_reloaded sound reloads present input, Option.some.injEq, Reference.constant.injEq]

/-- Some flow that holds a value as a constant can be saved, and still holds it when it is
loaded. -/
def Survives (v : Value) : Prop :=
  ∃ (c : Catalog) (f : Flow) (version : String) (text : List Char) (g : Flow), f.Sound c ∧
    f.dump = .ok text ∧ (Flow.read c version text).result = .ok g ∧
    ∃ n ∈ f.nodes, ∃ i : Nat, n.inputs[i]? = some (.constant v) ∧
      (g.node? n.id).bind (fun m => m.inputs[i]?) = some (.constant v)

/-- A value that a text stands for survives as the constant of a node, unless its text has half of a
pair in it. -/
theorem survives_iff (v : Value) :
    v.Survives ↔ (∃ s, autoCast s = v) ∧ ∀ ch ∈ v.wire.toList, Text.halfPair? ch = none := by
  constructor
  · rintro ⟨c, f, version, text, g, sound, dumped, loaded, n, present, i, input, kept⟩
    obtain ⟨written, encodable⟩ := Flow.dump_eq_ok_iff.mp dumped
    have whole := (Flow.encodable_iff sound.distinct).mp encodable
    refine ⟨(kept_iff sound ⟨version, text, written, loaded⟩ present input).mp kept, ?_⟩
    exact (whole.nodes n present).inputs _ (List.mem_of_getElem? input)
  · rintro ⟨stands, whole⟩
    have sound := Flow.sound_holding v
    have present : _ ∈ (Flow.holding v).nodes := List.mem_cons_self
    have worded : v.isBrief = true := by
      obtain ⟨s, rfl⟩ := stands
      exact isBrief_autoCast s
    obtain ⟨text, g, dumped, loaded⟩ := (Flow.readable_holding v "1").mpr ⟨worded, whole⟩
    have reloads : (Flow.holding v).Reloads .standard g :=
      ⟨"1", text, (Flow.dump_eq_ok_iff.mp dumped).1, loaded⟩
    exact ⟨.standard, _, "1", text, g, sound, dumped, loaded, _, present, 0, rfl,
      (kept_iff sound reloads present rfl).mpr stands⟩

end Saved

/-- **Reading undoes writing on every value that a text stands for.** A value with a notation of its
own is read back from its text, but for the sign of a NaN. What a text stands for is read back from
its own text, so a text comes back as itself if and only if it stands for a text. The values that
texts stand for are those that are read back. Of a flow that is saved they are the constants that it
keeps, and one survives in this way unless its text has half of a pair in it. -/
theorem autoCast_inverts_format :
    (∀ v : Value, v.Spelled → v.RereadAs v.unsigned ∧
      (.negativeNaN ∉ v.components → v.RereadAs v)) ∧
    (∀ s, (autoCast s).RereadAs (autoCast s)) ∧
    (∀ s, (text s).RereadAs (text s) ↔ (autoCast s).kind = .text) ∧
    (∀ v : Value, (∃ s, autoCast s = v) ↔ v.RereadAs v) ∧
    (∀ v : Value, v.RereadAs v ↔
      (v.Spelled ∧ v.unsigned = v) ∨ ∃ s, v = text s ∧ autoCast s = text s) ∧
    (∀ (c : Catalog) (f g : Flow), f.Sound c → f.Reloads c g → ∀ n ∈ f.nodes,
      ∀ (i : Nat) (v : Value), n.inputs[i]? = some (.constant v) →
        ((g.node? n.id).bind (fun m => m.inputs[i]?) = some (.constant v) ↔
          ∃ s, autoCast s = v)) ∧
    ∀ v : Value, v.Survives ↔
      (∃ s, autoCast s = v) ∧ ∀ ch ∈ v.wire.toList, Text.halfPair? ch = none := by
  refine ⟨fun v spelled => ⟨?_, fun positive => ?_⟩, rereadAs_autoCast, fun s => ?_,
    exists_autoCast_iff, fixed_iff, ?_, survives_iff⟩
  · exact (rereadAs_iff spelled.isBrief).mpr (autoCast_spelled spelled)
  · rw [rereadAs_iff spelled.isBrief, autoCast_spelled spelled, unsigned_eq positive]
  · rw [← autoCast_eq_text_iff]
    exact rereadAs_iff rfl
  · exact fun c f g sound reloads n present i v input => kept_iff sound reloads present input

/-- A constant that looks like a number is not kept. -/
theorem autoCast_inverts_format_one :
    (vec3 ⟨Float.ofBits 0x8000000000000000, .negativeNaN, Float.ofBits 1⟩).RereadAs
        (vec3 ⟨Float.ofBits 0x8000000000000000, Number.notANumber, Float.ofBits 1⟩) ∧
      (vec2 ⟨Float.ofBits 0x8000000000000000, Number.notANumber⟩).RereadAs
        (vec2 ⟨Float.ofBits 0x8000000000000000, Number.notANumber⟩) ∧
      (Flow.holding (.text "1.0")).Sound .standard ∧
      ∃ g, (Flow.holding (.text "1.0")).Reloads .standard g ∧
        (g.node? 1).bind (fun m => m.inputs[0]?) ≠ some (.constant (.text "1.0")) := by
  obtain ⟨inverts, -, -, -, -, kept, -⟩ := autoCast_inverts_format
  have sound := Flow.sound_holding (.text "1.0")
  obtain ⟨text, g, dumped, loaded⟩ :=
    (Flow.readable_holding (.text "1.0") "1").mpr ⟨rfl, Text.halfPair?_ascii rfl⟩
  have reloads : (Flow.holding (.text "1.0")).Reloads .standard g :=
    ⟨"1", text, (Flow.dump_eq_ok_iff.mp dumped).1, loaded⟩
  refine ⟨(inverts _ (.vec3 _)).1, (inverts _ (.vec2 _)).2 (by simp [components]), sound, g,
    reloads, ?_⟩
  have constant := kept _ _ g sound reloads _ List.mem_cons_self 0 (.text "1.0") rfl
  rw [ne_eq, constant, exists_autoCast_iff, rereadAs_iff rfl]
  decide +kernel

/-- Half of a pair is read back from its text, and does not survive. -/
theorem halfText_not_survives :
    (∃ s, autoCast s = Flow.halfText) ∧ Flow.halfText.RereadAs Flow.halfText ∧
      ¬Flow.halfText.Survives := by
  have fixed : autoCast (String.ofList [Text.standIn 0xd800]) = Flow.halfText := by decide +kernel
  refine ⟨⟨_, fixed⟩, ⟨_, rfl, fixed⟩, fun survives => ?_⟩
  obtain ⟨-, whole⟩ := (survives_iff _).mp survives
  have half : Text.halfPair? (Text.standIn 0xd800) = none :=
    whole _ (by simp [Flow.halfText, wire])
  cases half

end EventFlow.Value
