import EventFlow.Operator.Binary
import EventFlow.Operator.Unary
import EventFlow.Proofs.Number.Bits
import EventFlow.Proofs.Text.Wording

/-!
Which operators there are for which operands, and what they may give.

* `BinaryTakes`, `UnaryTakes`: the kinds that an operator takes, and the kind of its results;
* `BinaryMishap`, `UnaryMishap`: the failures of an operator on operands that it takes;
* `Dispatched`: an operator gives a value of its kind or one of its own failures, or is refused.
-/

namespace EventFlow.Operator

/-! ## Results -/

/-- A value with one property, or a failure with another. -/
inductive Gives {ε α : Type} (good : α → Prop) (bad : ε → Prop) : Except ε α → Prop
  | value {x : α} : good x → Gives good bad (.ok x)
  | failure {e : ε} : bad e → Gives good bad (.error e)

section Gives

variable {ε α β : Type} {good : α → Prop} {fine : β → Prop} {bad worse : ε → Prop}

theorem Gives.map {r : Except ε α} (given : Gives good bad r) {f : α → β}
    (each : ∀ x, good x → fine (f x)) : Gives fine bad (r.map f) := by
  cases given with
  | value h => exact .value (each _ h)
  | failure h => exact .failure h

theorem Gives.bind {r : Except ε α} (given : Gives good bad r) {f : α → Except ε β}
    (each : ∀ x, good x → Gives fine bad (f x)) : Gives fine bad (r >>= f) := by
  cases given with
  | value h => exact each _ h
  | failure h => exact .failure h

theorem Gives.mono {r : Except ε α} (given : Gives good bad r) (wider : ∀ e, bad e → worse e) :
    Gives good worse r := by
  cases given with
  | value h => exact .value h
  | failure h => exact .failure (wider _ h)

/-- A failure of arithmetic is handed on as one of the operator. -/
theorem Gives.arithmetic {r : Except ArithmeticError α} {bad : ArithmeticError → Prop}
    {worse : Failure → Prop} (given : Gives good bad r)
    (wider : ∀ e, bad e → worse (.arithmetic e)) : Gives good worse (Operator.arithmetic r) := by
  cases given with
  | value h => exact .value h
  | failure h => exact .failure (wider _ h)

end Gives

/-- A result of which only the failure is told. -/
abbrev FailsOnly {ε α : Type} (bad : ε → Prop) (r : Except ε α) : Prop :=
  Gives (fun _ => True) bad r

/-- An operator whose operands have the kinds `kinds` gives a value of a kind that `takes` tells, or
one of its own failures; where `takes` tells none, the operator is refused. -/
structure Dispatched (takes : Kind → Prop) (mishap : Failure → Prop) (op : String)
    (kinds : List Kind) (r : Result Value) : Prop where
  gives : ∀ k, takes k → Gives (fun v => v.kind = k) mishap r
  refuses : (∀ k, ¬takes k) → r = .error (.unsupported op kinds)

/-- Operators that are looked up in a table. -/
theorem Dispatched.of_lookup {α : Type} {takes : Kind → Prop} {mishap : Failure → Prop}
    {op : String} {kinds : List Kind} {r : Result Value} {found : Option α} {kind : α → Kind}
    (table : ∀ k, takes k ↔ ∃ f, found = some f ∧ kind f = k)
    (named : ∀ f, found = some f → Gives (fun v => v.kind = kind f) mishap r)
    (unnamed : found = none → r = .error (.unsupported op kinds)) :
    Dispatched takes mishap op kinds r := by
  refine ⟨fun k taken => ?_, fun untaken => unnamed ?_⟩
  · obtain ⟨f, found, rfl⟩ := (table k).1 taken
    exact named f found
  · cases found with
    | none => rfl
    | some f => exact absurd ((table (kind f)).2 ⟨f, rfl, rfl⟩) (untaken _)

/-! ## The operators -/

def IsVector (k : Kind) : Prop := k = .vec2 ∨ k = .vec3

/-- The operators on two operands: the kinds of these, its name, and the kind of the result. -/
inductive BinaryTakes : Kind → Kind → String → Kind → Prop
  | sum {k op} : IsVector k → op ∈ ["+", "-"] → BinaryTakes k k op k
  | dot {k} : IsVector k → BinaryTakes k k "@" .number
  | cross : BinaryTakes .vec3 .vec3 "#" .vec3
  | scaled {k op} : IsVector k → op ∈ ["*", "x", "/"] → BinaryTakes k .number op k
  | scaling {k op} : IsVector k → op ∈ ["*", "x"] → BinaryTakes .number k op k
  | numbers {op} :
      op ∈ ["+", "-", "*", "x", "/", "%", "^", "max", "min", "log", "atan2", "hypot"] →
      BinaryTakes .number .number op .number
  | comparison {op} : op ∈ [">", "<", ">=", "<="] → BinaryTakes .number .number op .boolean
  | logic {op} : op ∈ ["and", "&&", "or", "||", "xor"] → BinaryTakes .boolean .boolean op .boolean
  | joined {j k op} : ¬IsVector j → ¬IsVector k → j = .text ∨ k = .text →
      op ∈ ["+", "append"] → BinaryTakes j k op .text
  | matched {j k op} : ¬IsVector j → ¬IsVector k → j = .text ∨ k = .text →
      op ∈ ["contains", "startswith", "endswith"] → BinaryTakes j k op .boolean
  | placed {j k op} : ¬IsVector j → ¬IsVector k → j = .text ∨ k = .text →
      op ∈ ["indexof", "lastindexof"] → BinaryTakes j k op .number

/-- The operators on one operand: its kind, the name, and the kind of the result. -/
inductive UnaryTakes : Kind → String → Kind → Prop
  | length {k op} : IsVector k → op ∈ ["len", "length"] → UnaryTakes k op .number
  | normal {k op} : IsVector k → op ∈ ["norm", "normalize"] → UnaryTakes k op k
  | opposite {k} : IsVector k → UnaryTakes k "-" k
  | component {k op} : IsVector k → op ∈ ["x", "y"] → UnaryTakes k op .number
  | third : UnaryTakes .vec3 "z" .number
  | negation {op} : op ∈ ["!", "not"] → UnaryTakes .boolean op .boolean
  | number {op} :
      op ∈ ["-", "abs", "sqrt", "cbrt", "exp", "ln", "lg", "sin", "cos", "tan", "asin", "acos",
        "atan", "sinh", "cosh", "tanh", "ceil", "floor", "round", "rad", "deg", "sgn"] →
      UnaryTakes .number op .number
  | count : UnaryTakes .text "len" .number
  | text {op} : op ∈ ["lower", "upper", "strip"] → UnaryTakes .text op .text
  | emptiness : UnaryTakes .text "isempty" .boolean

/-! ## The failures -/

/-- An integer that is beyond the floats. -/
def Oversized (v : Value) : Prop :=
  ∃ n, v = .int n ∧ Number.isFinite (Number.ofInt n) = false

/-- A number that is zero, with either sign. -/
def IsZero (v : Value) : Prop :=
  ∃ x, number? v = some (.ok x) ∧ (x == 0) = true

/-- An integer that is beyond what the host puts into words. -/
def Unwritable (v : Value) : Prop :=
  v.isBrief = false

/-- The operators on texts, which put their operands into words first. -/
def textNames : List String :=
  ["+", "append", "contains", "startswith", "endswith", "indexof", "lastindexof"]

/-- What may go wrong with two operands that the operator takes. -/
inductive BinaryMishap (a b : Value) : String → Failure → Prop
  | divisionByZero : IsZero b → BinaryMishap a b "/" .divisionByZero
  | moduloByZero : IsZero b → BinaryMishap a b "%" .moduloByZero
  | domain {op} : op ∈ ["%", "^", "log"] → BinaryMishap a b op (.arithmetic .domain)
  | range : BinaryMishap a b "^" (.arithmetic .range)
  | zeroDivisor : BinaryMishap a b "log" (.arithmetic .zeroDivisor)
  | tooLarge {op} : Oversized a ∨ Oversized b → BinaryMishap a b op (.arithmetic .integerTooLarge)
  | unwritable {op} : op ∈ textNames → Unwritable a ∨ Unwritable b →
      BinaryMishap a b op (.wording .tooManyDigits)

/-- What may go wrong with one operand that the operator takes. -/
inductive UnaryMishap (a : Value) : String → Failure → Prop
  | domain {op} :
      op ∈ ["sqrt", "exp", "ln", "lg", "sin", "cos", "tan", "asin", "acos", "atan", "sinh", "cosh",
        "tanh"] → UnaryMishap a op (.arithmetic .domain)
  | range {op} : op ∈ ["exp", "sinh", "cosh"] → UnaryMishap a op (.arithmetic .range)
  | integerOfNaN {op} : op ∈ ["ceil", "floor", "round"] →
      UnaryMishap a op (.arithmetic .integerOfNaN)
  | integerOfInfinity {op} : op ∈ ["ceil", "floor", "round"] →
      UnaryMishap a op (.arithmetic .integerOfInfinity)
  | tooLarge {op} : Oversized a → UnaryMishap a op (.arithmetic .integerTooLarge)

/-! ## Functions on floats -/

section Floats

variable (x y : Float)

theorem checked_gives (pole : ArithmeticError) :
    FailsOnly (fun e => e = .domain ∨ e = pole) (Number.checked pole x y) := by
  unfold Number.checked
  split
  · exact .failure (.inl rfl)
  split
  · exact .failure (.inr rfl)
  · exact .value trivial

theorem logarithm_gives (f : Float → Float) :
    FailsOnly (· = .domain) (Number.logarithm f x) := by
  unfold Number.logarithm
  split
  · exact .failure rfl
  · exact .value trivial

theorem logBase_gives :
    FailsOnly (fun e => e = .domain ∨ e = .zeroDivisor) (Number.logBase x y) := by
  refine ((logarithm_gives x _).mono fun _ => Or.inl).bind fun _ _ => ?_
  refine ((logarithm_gives y _).mono fun _ => Or.inl).bind fun _ _ => ?_
  split
  · exact .failure (.inr rfl)
  · exact .value trivial

theorem power_gives : FailsOnly (fun e => e = .domain ∨ e = .range) (Number.power x y) := by
  unfold Number.power
  simp only
  split
  · split
    · exact .failure (.inl rfl)
    split
    · split
      · exact .failure (.inl rfl)
      · exact .failure (.inr rfl)
    · exact .value trivial
  · exact .value trivial

theorem remainder_gives : FailsOnly (· = .domain) (Number.remainder x y) := by
  unfold Number.remainder
  split
  · exact .value trivial
  split
  · exact .failure rfl
  split
  · exact .value trivial
  · exact .value trivial

theorem viaInteger_gives (f : Float → Int) :
    FailsOnly (fun e => e = .integerOfNaN ∨ e = .integerOfInfinity) (Number.viaInteger f x) := by
  unfold Number.viaInteger
  split
  · exact .failure (.inl rfl)
  split
  · exact .failure (.inr rfl)
  · exact .value trivial

end Floats

/-! ## Numbers -/

theorem decode_fraction_pos {bits : Nat} (positive : 0 < bits) :
    0 < (Number.decode bits).fraction.1 := by
  have significand : 0 < (Number.decode bits).significand := by
    unfold Number.decode
    split
    · exact positive
    · simp only [Number.fractionUnit]
      omega
  unfold Number.Scaled.fraction
  split
  · exact Nat.mul_pos significand (Nat.pow_pos (by decide))
  · exact significand

/-- A float that is the integer zero is a zero, of either sign. -/
theorem eq_zero_of_equalsInt {x : Float} (zero : Number.equalsInt x 0 = true) :
    (x == 0) = true := by
  have numerator : (Number.fraction x).1 = 0 := by
    simp only [Number.equalsInt, Int.zero_mul, Bool.and_eq_true, beq_iff_eq] at zero
    exact zero.2
  have magnitude : Number.magnitude x = 0 := by
    by_contra nonzero
    have positive := decode_fraction_pos (Nat.pos_of_ne_zero nonzero)
    simp only [Number.fraction] at numerator
    split at numerator <;> omega
  rw [← Number.ofMagnitude_magnitude x, magnitude]
  cases Number.isNegative x <;> decide +kernel

theorem number?_eq_none {v : Value} : number? v = none ↔ v.kind ≠ .number := by
  cases v <;> simp [number?, Value.kind]

theorem exists_number {v : Value} (number : v.kind = .number) : ∃ r, number? v = some r :=
  Option.ne_none_iff_exists'.1 fun none => number?_eq_none.1 none number

/-- A number is a float, or an integer beyond the floats. -/
theorem number?_gives {v : Value} {r : Result Scalar} (number : number? v = some r) :
    Gives (fun x => number? v = some (.ok x))
      (fun f => f = .arithmetic .integerTooLarge ∧ Oversized v) r := by
  rw [number]
  cases v with
  | int n =>
    cases number
    by_cases finite : Number.isFinite (Number.ofInt n) = true
    · simp only [Number.ofInt?, finite]
      exact .value rfl
    · simp only [Number.ofInt?, finite]
      exact .failure ⟨rfl, n, rfl, Bool.eq_false_of_not_eq_true finite⟩
  | float x =>
    cases number
    exact .value rfl
  | _ => cases number

/-- A number that equals zero is zero as a float. -/
theorem isZero_of_same {v : Value} (number : v.kind = .number) (zero : v.same (.int 0) = true) :
    IsZero v := by
  cases v with
  | int n =>
    have same : n = 0 := of_decide_eq_true zero
    subst same
    exact ⟨Number.ofInt 0, rfl, by decide +kernel⟩
  | float x => exact ⟨x, rfl, eq_zero_of_equalsInt zero⟩
  | _ => cases number

/-- Only an integer of too many digits is not put into words. -/
theorem textOf_gives (v : Value) :
    FailsOnly (fun f => f = .wording .tooManyDigits ∧ Unwritable v) (textOf v) := by
  cases v with
  | absent => exact .value trivial
  | int n =>
    by_cases brief : Brief n
    · have text : textOf (.int n) = .ok (Text.decimal n) := by
        simp [textOf, Value.asText, Value.format, Value.isBrief, Value.wire, brief, Except.mapError]
      exact text ▸ .value trivial
    · have text : textOf (.int n) = .error (.wording .tooManyDigits) := by
        simp [textOf, Value.asText, Value.format, Value.isBrief, brief, Except.mapError]
      exact text ▸ .failure ⟨rfl, by simp [Unwritable, Value.isBrief, brief]⟩
  | bool | float | text | vec2 | vec3 => exact .value trivial

theorem onFloat_gives {f : Float → Except ArithmeticError Float} {bad : ArithmeticError → Prop}
    {worse : Failure → Prop} (x : Scalar) (given : FailsOnly bad (f x.toFloat))
    (wider : ∀ e, bad e → worse (.arithmetic e)) : FailsOnly worse (onFloat f x) :=
  (given.arithmetic wider).map fun _ _ => trivial

theorem onFloats_gives {f : Float → Float → Except ArithmeticError Float}
    {bad : ArithmeticError → Prop} {worse : Failure → Prop} (x y : Scalar)
    (given : FailsOnly bad (f x.toFloat y.toFloat)) (wider : ∀ e, bad e → worse (.arithmetic e)) :
    FailsOnly worse (onFloats f x y) :=
  (given.arithmetic wider).map fun _ _ => trivial

end EventFlow.Operator
