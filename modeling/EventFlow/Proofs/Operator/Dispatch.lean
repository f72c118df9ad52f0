import EventFlow.Proofs.Operator.Binary

/-!
Operators of one operand, and what operators do on any operands that are present.

* `unary_dispatched`: operators of one operand;
* `operators_dispatch`: an operator on operands that it takes gives a value of its kind or one of
  its own failures, and on any others it is refused by name.
-/

namespace EventFlow.Operator

/-! ## One operand -/

theorem NumberFn.takes_iff {op : String} {k : Kind} :
    UnaryTakes .number op k ↔ ∃ f, names.lookup op = some f ∧ .number = k := by
  constructor
  · intro takes
    cases takes with
    | number name =>
      have table : ∀ op ∈ ["-", "abs", "sqrt", "cbrt", "exp", "ln", "lg", "sin", "cos", "tan",
          "asin", "acos", "atan", "sinh", "cosh", "tanh", "ceil", "floor", "round", "rad", "deg",
          "sgn"], (names.lookup op).isSome := by decide
      obtain ⟨f, named⟩ := Option.isSome_iff_exists.1 (table op name)
      exact ⟨f, named, rfl⟩
    | length vector | normal vector | opposite vector | component vector =>
      simp [IsVector] at vector
  · rintro ⟨f, named, rfl⟩
    have table : ∀ p ∈ names, p.1 ∈ ["-", "abs", "sqrt", "cbrt", "exp", "ln", "lg", "sin", "cos",
      "tan", "asin", "acos", "atan", "sinh", "cosh", "tanh", "ceil", "floor", "round", "rad", "deg",
      "sgn"] := by decide
    exact .number (table _ (mem_of_lookup named))

theorem UnaryMishap.rounding {a : Value} {op : String} (name : op ∈ ["ceil", "floor", "round"])
    (e : ArithmeticError) (failed : e = .integerOfNaN ∨ e = .integerOfInfinity) :
    UnaryMishap a op (.arithmetic e) := by
  rcases failed with rfl | rfl
  · exact .integerOfNaN name
  · exact .integerOfInfinity name

/-- An operator on one number fails in ways of its own only. -/
theorem NumberFn.apply_gives {a : Value} {op : String} {f : NumberFn}
    (named : names.lookup op = some f) (x : Scalar) : FailsOnly (UnaryMishap a op) (f.apply x) := by
  have member := mem_of_lookup named
  have partly : ∀ p ∈ names, p.2 ∈ [sqrt, exp, ln, lg, sin, cos, tan, asin, acos, atan, sinh, cosh,
      tanh] → p.1 ∈ ["sqrt", "exp", "ln", "lg", "sin", "cos", "tan", "asin", "acos", "atan", "sinh",
      "cosh", "tanh"] := by decide
  have grows : ∀ p ∈ names, p.2 ∈ [exp, sinh, cosh] → p.1 ∈ ["exp", "sinh", "cosh"] := by decide
  have rounds : ∀ p ∈ names, p.2 ∈ [ceil, floor, round] → p.1 ∈ ["ceil", "floor", "round"] := by
    decide
  cases f with
  | negate | abs | sgn | cbrt | rad | deg => exact .value trivial
  | sqrt | sin | cos | tan | asin | acos | atan | tanh =>
    refine onFloat_gives x (checked_gives _ _ _) ?_
    rintro _ (rfl | rfl) <;> exact .domain (partly _ member (by simp))
  | exp | sinh | cosh =>
    refine onFloat_gives x (checked_gives _ _ _) ?_
    rintro _ (rfl | rfl)
    · exact .domain (partly _ member (by simp))
    · exact .range (grows _ member (by simp))
  | ln | lg =>
    refine onFloat_gives x (logarithm_gives _ _) ?_
    rintro _ rfl
    exact .domain (partly _ member (by simp))
  | ceil | floor =>
    exact onFloat_gives x (viaInteger_gives _ _) (.rounding (rounds _ member (by simp)))
  | round =>
    change FailsOnly _ (onFloat (fun y => Number.viaInteger Number.floor (y + 0.5)) x)
    exact onFloat_gives x (viaInteger_gives _ _) (.rounding (rounds _ member (by simp)))

/-- The kind of what an operator on one text gives. -/
def TextFn.kind : TextFn → Kind
  | length => .number
  | lower | upper | strip => .text
  | isEmpty => .boolean

theorem TextFn.takes_iff {op : String} {k : Kind} :
    UnaryTakes .text op k ↔ ∃ f, names.lookup op = some f ∧ f.kind = k := by
  constructor
  · intro takes
    cases takes with
    | count => exact ⟨.length, rfl, rfl⟩
    | emptiness => exact ⟨.isEmpty, rfl, rfl⟩
    | text name =>
      have table : ∀ op ∈ ["lower", "upper", "strip"],
        (names.lookup op).map TextFn.kind = some .text := by decide
      exact Option.map_eq_some_iff.1 (table op name)
    | length vector | normal vector | opposite vector | component vector =>
      simp [IsVector] at vector
  · rintro ⟨f, named, rfl⟩
    have table : ∀ p ∈ names, p = ("len", length) ∨ p = ("isempty", isEmpty) ∨
      p.2.kind = .text ∧ p.1 ∈ ["lower", "upper", "strip"] := by decide
    rcases table _ (mem_of_lookup named) with same | same | ⟨kind, name⟩
    · cases same
      exact .count
    · cases same
      exact .emptiness
    · exact kind ▸ .text name

theorem unary_number {a : Value} {x : Result Scalar} (number : number? a = some x) (op : String) :
    unary a op = match NumberFn.names.lookup op with
      | some f => do return .float (← f.apply (← x))
      | none => .error (.unsupported op [.number]) := by
  cases a with
  | int n =>
    cases number
    simp only [unary]
    cases NumberFn.names.lookup op with
    | none => rfl
    | some f => cases arithmetic (Number.ofInt? n) <;> rfl
  | float y =>
    cases number
    simp only [unary]
    cases NumberFn.names.lookup op with
    | none => rfl
    | some f =>
      change (f.apply y).map Value.float = f.apply y >>= fun z => pure (.float z)
      cases f.apply y <;> rfl
  | _ => cases number

theorem unary_number_dispatched {a : Value} (number : a.kind = .number) (op : String) :
    Dispatched (UnaryTakes .number op) (UnaryMishap a op) op [.number] (unary a op) := by
  obtain ⟨x, read⟩ := exists_number number
  rw [unary_number read]
  refine .of_lookup (fun _ => NumberFn.takes_iff) (fun f named => ?_) fun unnamed => ?_
  · simp only [named]
    refine ((number?_gives read).mono ?_).bind fun y _ => ?_
    · rintro _ ⟨rfl, large⟩
      exact .tooLarge large
    exact (NumberFn.apply_gives named y).bind fun _ _ => .value rfl
  · simp only [unnamed]

theorem unary_text_dispatched (s : String) {mishap : Failure → Prop} (op : String) :
    Dispatched (UnaryTakes .text op) mishap op [.text] (unary (.text s) op) := by
  refine .of_lookup (fun _ => TextFn.takes_iff) (fun f named => ?_) fun unnamed => ?_
  · simp only [unary, named]
    cases f <;> exact .value rfl
  · simp only [unary, unnamed, Value.kind]

theorem unary_boolean_dispatched (b : Bool) {mishap : Failure → Prop} (op : String) :
    Dispatched (UnaryTakes .boolean op) mishap op [.boolean] (unary (.bool b) op) := by
  constructor
  · intro k taken
    cases taken with
    | negation name =>
      simp only [List.mem_cons, List.not_mem_nil, or_false] at name
      rcases name with rfl | rfl
      · exact .value rfl
      · exact .value rfl
    | length vector | normal vector | opposite vector | component vector =>
      simp [IsVector] at vector
  · intro untaken
    have unnamed : ¬(op = "!" ∨ op = "not") := fun name =>
      untaken .boolean (.negation (by simpa using name))
    simp_all [unary, Value.kind]

/-- The names that both dimensions take. -/
theorem unnamed_of_untaken {k : Kind} (vector : IsVector k) {op : String}
    (untaken : ∀ result, ¬UnaryTakes k op result) :
    ¬(op = "len" ∨ op = "length") ∧ ¬(op = "norm" ∨ op = "normalize") ∧ op ≠ "-" ∧
      ¬(op = "x" ∨ op = "y") := by
  refine ⟨fun name => ?_, fun name => ?_, fun name => ?_, fun name => ?_⟩
  · exact untaken .number (.length vector (by simpa using name))
  · exact untaken k (.normal vector (by simpa using name))
  · exact untaken k (name ▸ .opposite vector)
  · exact untaken .number (.component vector (by simpa using name))

theorem unary_vec2_dispatched (v : Vec2) {mishap : Failure → Prop} (op : String) :
    Dispatched (UnaryTakes .vec2 op) mishap op [.vec2] (unary (.vec2 v) op) := by
  constructor
  · intro k taken
    cases taken with
    | length _ name | normal _ name | component _ name =>
      simp only [List.mem_cons, List.not_mem_nil, or_false] at name
      rcases name with rfl | rfl <;> exact .value rfl
    | opposite => exact .value rfl
  · intro untaken
    have unnamed := unnamed_of_untaken (.inl rfl) untaken
    simp_all [unary, Value.kind]

theorem unary_vec3_dispatched (v : Vec3) {mishap : Failure → Prop} (op : String) :
    Dispatched (UnaryTakes .vec3 op) mishap op [.vec3] (unary (.vec3 v) op) := by
  constructor
  · intro k taken
    cases taken with
    | length _ name | normal _ name | component _ name =>
      simp only [List.mem_cons, List.not_mem_nil, or_false] at name
      rcases name with rfl | rfl <;> exact .value rfl
    | opposite => exact .value rfl
    | third => exact .value rfl
  · intro untaken
    have unnamed := unnamed_of_untaken (.inr rfl) untaken
    have third : op ≠ "z" := fun name => untaken .number (name ▸ .third)
    simp_all [unary, Value.kind]

/-- An operator on one operand that is present. -/
theorem unary_dispatched {a : Value} (present : a ≠ .absent) (op : String) :
    Dispatched (UnaryTakes a.kind op) (UnaryMishap a op) op [a.kind] (unary a op) := by
  cases a with
  | absent => exact absurd rfl present
  | bool b => exact unary_boolean_dispatched b op
  | int | float => exact unary_number_dispatched rfl op
  | text s => exact unary_text_dispatched s op
  | vec2 v => exact unary_vec2_dispatched v op
  | vec3 v => exact unary_vec3_dispatched v op

/-- On operands that are present, an operator other than the two equalities gives a value of the
kind that the tables tell, or fails in a way of its own, if the tables have it for these kinds; if
they do not, it is refused by its name and the kinds of its operands. Putting an integer of too many
digits into words is one of these ways, for the operators on texts only. -/
theorem operators_dispatch {a b : Value} (first : a ≠ .absent) (second : b ≠ .absent)
    (op : String) :
    (op ≠ "==" → op ≠ "!=" →
      Dispatched (BinaryTakes a.kind b.kind op) (BinaryMishap a b op) op [a.kind, b.kind]
        (binary a b op)) ∧
    Dispatched (UnaryTakes a.kind op) (UnaryMishap a op) op [a.kind] (unary a op) :=
  ⟨binary_dispatched first second, unary_dispatched first op⟩

/-- A vector may be divided by a number, though the number may be zero; it has no quotient by a
text, and it has a length. -/
theorem operators_dispatch_vector :
    Gives (fun v => v.kind = .vec2) (BinaryMishap (.vec2 ⟨1, 2⟩) (.int 0) "/")
      (binary (.vec2 ⟨1, 2⟩) (.int 0) "/") ∧
    binary (.vec2 ⟨1, 2⟩) (.text "a") "/" = .error (.unsupported "/" [.vec2, .text]) ∧
    Gives (fun v => v.kind = .number) (UnaryMishap (.vec2 ⟨1, 2⟩) "len")
      (unary (.vec2 ⟨1, 2⟩) "len") := by
  have byZero := (operators_dispatch (a := .vec2 ⟨1, 2⟩) (b := .int 0) nofun nofun "/").1
  have byText := (operators_dispatch (a := .vec2 ⟨1, 2⟩) (b := .text "a") nofun nofun "/").1
  have length := (operators_dispatch (a := .vec2 ⟨1, 2⟩) (b := .int 0) nofun nofun "len").2
  refine ⟨(byZero (by decide) (by decide)).gives .vec2 (.scaled (.inl rfl) (by decide)),
    (byText (by decide) (by decide)).refuses fun k taken => ?_,
    length.gives .number (.length (.inl rfl) (by decide))⟩
  rcases vector_takes (.inl (.inl rfl)) taken with h | h | h <;> cases h

/-- A number and a text are joined, but not the least integer that is too long for a text. -/
theorem sum_unwritable :
    BinaryTakes .number .text "+" .text ∧
      binary (.int (10 ^ Text.digitLimit)) (.text "x") "+" =
        .error (.wording .tooManyDigits) := by
  refine ⟨.joined (by simp [IsVector]) (by simp [IsVector]) (.inr rfl) (by decide), ?_⟩
  have long : textOf (.int (10 ^ Text.digitLimit)) = .error (.wording .tooManyDigits) := by
    simp [textOf, Value.asText, Value.format, Value.isBrief, not_brief_limit, Except.mapError]
  have looked : binary (.int (10 ^ Text.digitLimit)) (.text "x") "+" =
      (do
        let a ← textOf (.int (10 ^ Text.digitLimit))
        return TextOp.append.apply a (← textOf (.text "x"))) :=
    rfl
  rw [looked, long]
  rfl

end EventFlow.Operator
