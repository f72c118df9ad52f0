import EventFlow.Proofs.Operator.Outcome

/-!
Operators of two operands that are present. Two numbers, two booleans and texts have a table each;
vectors go with their like and with numbers.

* `scalar_dispatched`: values that are no vectors;
* `vector_dispatched`: values of which one is a vector;
* `binary_dispatched`: both.
-/

namespace EventFlow.Operator

/-! ## Tables of operators -/

theorem mem_of_lookup {α : Type} {table : List (String × α)} {op : String} {f : α}
    (named : table.lookup op = some f) : (op, f) ∈ table := by
  obtain ⟨before, after, split, -⟩ := List.lookup_eq_some_iff.1 named
  rw [split]
  exact List.mem_append_right before List.mem_cons_self

/-- The kind of what an operator on two numbers gives. -/
def NumberOp.kind : NumberOp → Kind
  | greater | less | atLeast | atMost => .boolean
  | _ => .number

theorem NumberOp.takes_iff {op : String} {k : Kind} :
    BinaryTakes .number .number op k ↔ ∃ f, names.lookup op = some f ∧ f.kind = k := by
  constructor
  · intro takes
    rw [← Option.map_eq_some_iff]
    cases takes with
    | numbers name =>
      have table : ∀ op ∈ ["+", "-", "*", "x", "/", "%", "^", "max", "min", "log", "atan2",
        "hypot"], (names.lookup op).map NumberOp.kind = some .number := by decide
      exact table op name
    | comparison name =>
      have table : ∀ op ∈ [">", "<", ">=", "<="],
        (names.lookup op).map NumberOp.kind = some .boolean := by decide
      exact table op name
    | sum vector | dot vector | scaled vector | scaling vector => simp [IsVector] at vector
    | joined _ _ text | matched _ _ text | placed _ _ text => simp at text
  · rintro ⟨f, named, rfl⟩
    have table : ∀ p ∈ names,
        p.2.kind = .number ∧
          p.1 ∈ ["+", "-", "*", "x", "/", "%", "^", "max", "min", "log", "atan2", "hypot"] ∨
        p.2.kind = .boolean ∧ p.1 ∈ [">", "<", ">=", "<="] := by decide
    rcases table _ (mem_of_lookup named) with ⟨kind, name⟩ | ⟨kind, name⟩
    · exact kind ▸ .numbers name
    · exact kind ▸ .comparison name

/-- An operator on two numbers gives a value of its kind, or a failure of its own. -/
theorem NumberOp.apply_gives {a b : Value} {op : String} {f : NumberOp}
    (named : NumberOp.names.lookup op = some f) (x : Scalar) {y : Scalar}
    (second : number? b = some (.ok y)) :
    Gives (fun v => v.kind = f.kind) (BinaryMishap a b op) (f.apply x y) := by
  have table : ∀ p ∈ NumberOp.names, (p.2 = .divide → p.1 = "/") ∧ (p.2 = .modulo → p.1 = "%") ∧
      (p.2 = .power → p.1 = "^") ∧ (p.2 = .log → p.1 = "log") := by decide
  obtain ⟨divides, remains, raises, takesLog⟩ := table _ (mem_of_lookup named)
  cases f with
  | divide =>
    obtain rfl : op = "/" := divides rfl
    have divided : FailsOnly (BinaryMishap a b "/") (Operator.divide x y) := by
      unfold Operator.divide
      split
      case isTrue zero => exact .failure (.divisionByZero ⟨y, second, zero⟩)
      case isFalse => exact .value trivial
    exact divided.map fun _ _ => rfl
  | modulo =>
    obtain rfl : op = "%" := remains rfl
    have divided : FailsOnly (BinaryMishap a b "%") (Operator.modulo x y) := by
      unfold Operator.modulo
      split
      case isTrue zero => exact .failure (.moduloByZero ⟨y, second, zero⟩)
      case isFalse =>
        refine onFloats_gives x y (remainder_gives _ _) ?_
        rintro _ rfl
        exact .domain (by decide)
    exact divided.map fun _ _ => rfl
  | power =>
    obtain rfl : op = "^" := raises rfl
    have raised : FailsOnly (BinaryMishap a b "^") (onFloats Number.power x y) := by
      refine onFloats_gives x y (power_gives _ _) ?_
      rintro _ (rfl | rfl)
      · exact .domain (by decide)
      · exact .range
    exact raised.map fun _ _ => rfl
  | log =>
    obtain rfl : op = "log" := takesLog rfl
    have found : FailsOnly (BinaryMishap a b "log") (onFloats Number.logBase x y) := by
      refine onFloats_gives x y (logBase_gives _ _) ?_
      rintro _ (rfl | rfl)
      · exact .domain (by decide)
      · exact .zeroDivisor
    exact found.map fun _ _ => rfl
  | _ => exact .value rfl

theorem BooleanOp.takes_iff {op : String} {k : Kind} :
    BinaryTakes .boolean .boolean op k ↔ ∃ f, names.lookup op = some f ∧ .boolean = k := by
  constructor
  · intro takes
    cases takes with
    | logic name =>
      have table : ∀ op ∈ ["and", "&&", "or", "||", "xor"], (names.lookup op).isSome := by decide
      obtain ⟨f, named⟩ := Option.isSome_iff_exists.1 (table op name)
      exact ⟨f, named, rfl⟩
    | sum vector | dot vector => simp [IsVector] at vector
    | joined _ _ text | matched _ _ text | placed _ _ text => simp at text
  · rintro ⟨f, named, rfl⟩
    have table : ∀ p ∈ names, p.1 ∈ ["and", "&&", "or", "||", "xor"] := by decide
    exact .logic (table _ (mem_of_lookup named))

/-- The kind of what an operator on two texts gives. -/
def TextOp.kind : TextOp → Kind
  | append => .text
  | contains | startsWith | endsWith => .boolean
  | indexOf | lastIndexOf => .number

theorem TextOp.apply_kind (f : TextOp) (a b : String) : (f.apply a b).kind = f.kind := by
  have placed (found : Option Nat) : (position found).kind = .number := by
    cases found <;> rfl
  cases f with
  | indexOf | lastIndexOf => exact placed _
  | _ => rfl

theorem TextOp.takes_iff {op : String} {j k result : Kind} (first : ¬IsVector j)
    (second : ¬IsVector k) (text : j = .text ∨ k = .text) :
    BinaryTakes j k op result ↔ ∃ f, names.lookup op = some f ∧ f.kind = result := by
  constructor
  · intro takes
    rw [← Option.map_eq_some_iff]
    cases takes with
    | joined _ _ _ name =>
      have table : ∀ op ∈ ["+", "append"],
        (names.lookup op).map TextOp.kind = some .text := by decide
      exact table op name
    | matched _ _ _ name =>
      have table : ∀ op ∈ ["contains", "startswith", "endswith"],
        (names.lookup op).map TextOp.kind = some .boolean := by decide
      exact table op name
    | placed _ _ _ name =>
      have table : ∀ op ∈ ["indexof", "lastindexof"],
        (names.lookup op).map TextOp.kind = some .number := by decide
      exact table op name
    | sum vector | dot vector | scaled vector => exact absurd vector first
    | scaling vector => exact absurd vector second
    | cross | numbers | comparison | logic => simp at text
  · rintro ⟨f, named, rfl⟩
    have table : ∀ p ∈ names,
        p.2.kind = .text ∧ p.1 ∈ ["+", "append"] ∨
        p.2.kind = .boolean ∧ p.1 ∈ ["contains", "startswith", "endswith"] ∨
        p.2.kind = .number ∧ p.1 ∈ ["indexof", "lastindexof"] := by decide
    rcases table _ (mem_of_lookup named) with ⟨kind, name⟩ | ⟨kind, name⟩ | ⟨kind, name⟩
    · exact kind ▸ .joined first second text name
    · exact kind ▸ .matched first second text name
    · exact kind ▸ .placed first second text name

/-! ## Values that are no vectors -/

theorem scalar_numbers {a b : Value} {x y : Result Scalar} (first : number? a = some x)
    (second : number? b = some y) (op : String) :
    scalar a b op = match NumberOp.names.lookup op with
      | some f => do f.apply (← x) (← y)
      | none => .error (.unsupported op [a.kind, b.kind]) := by
  cases a with
  | int | float =>
    cases b with
    | int | float =>
      cases first
      cases second
      unfold scalar
      cases NumberOp.names.lookup op <;> rfl
    | _ => cases second
  | _ => cases first

theorem scalar_booleans (p q : Bool) (op : String) :
    scalar (.bool p) (.bool q) op = match BooleanOp.names.lookup op with
      | some f => .ok (.bool (f.apply p q))
      | none => .error (.unsupported op [.boolean, .boolean]) := by
  unfold scalar
  cases BooleanOp.names.lookup op <;> rfl

theorem scalar_text {a b : Value} (text : a.kind = .text ∨ b.kind = .text) (op : String) :
    scalar a b op = match TextOp.names.lookup op with
      | some f => do return f.apply (← textOf a) (← textOf b)
      | none => .error (.unsupported op [a.kind, b.kind]) := by
  rcases text with first | second
  · cases a with
    | text s => rfl
    | _ => cases first
  · cases b with
    | text s => cases a <;> rfl
    | _ => cases second

/-- No operator takes these. -/
theorem scalar_others {a b : Value} (numbers : ¬(a.kind = .number ∧ b.kind = .number))
    (booleans : ¬(a.kind = .boolean ∧ b.kind = .boolean))
    (text : ¬(a.kind = .text ∨ b.kind = .text)) (op : String) :
    scalar a b op = .error (.unsupported op [a.kind, b.kind]) := by
  cases a <;> cases b <;> simp_all [Value.kind, scalar, number?]

/-- No operator takes these kinds. -/
theorem not_takes_others {j k : Kind} (first : ¬IsVector j) (second : ¬IsVector k)
    (numbers : ¬(j = .number ∧ k = .number)) (booleans : ¬(j = .boolean ∧ k = .boolean))
    (text : ¬(j = .text ∨ k = .text)) (op : String) (result : Kind) :
    ¬BinaryTakes j k op result := by
  intro takes
  cases takes with
  | sum vector | dot vector | scaled vector => exact first vector
  | scaling vector => exact second vector
  | cross => exact first (.inr rfl)
  | numbers | comparison => exact numbers ⟨rfl, rfl⟩
  | logic => exact booleans ⟨rfl, rfl⟩
  | joined _ _ h | matched _ _ h | placed _ _ h => exact text h

theorem scalar_dispatched {a b : Value} (first : ¬IsVector a.kind) (second : ¬IsVector b.kind)
    (op : String) :
    Dispatched (BinaryTakes a.kind b.kind op) (BinaryMishap a b op) op [a.kind, b.kind]
      (scalar a b op) := by
  by_cases text : a.kind = .text ∨ b.kind = .text
  · rw [scalar_text text]
    refine .of_lookup (fun _ => TextOp.takes_iff first second text)
      (fun f named => ?_) fun unnamed => ?_
    · have table : ∀ p ∈ TextOp.names, p.1 ∈ textNames := by decide
      have name := table _ (mem_of_lookup named)
      simp only [named]
      refine ((textOf_gives a).mono ?_).bind fun s _ => ?_
      · rintro _ ⟨rfl, long⟩
        exact .unwritable name (.inl long)
      refine ((textOf_gives b).mono ?_).bind fun t _ => .value (f.apply_kind s t)
      rintro _ ⟨rfl, long⟩
      exact .unwritable name (.inr long)
    · simp only [unnamed]
  by_cases numbers : a.kind = .number ∧ b.kind = .number
  · obtain ⟨x, hx⟩ := exists_number numbers.1
    obtain ⟨y, hy⟩ := exists_number numbers.2
    rw [scalar_numbers hx hy, numbers.1, numbers.2]
    refine .of_lookup (fun _ => NumberOp.takes_iff) (fun f named => ?_) fun unnamed => ?_
    · simp only [named]
      refine ((number?_gives hx).mono ?_).bind fun x' _ => ?_
      · rintro _ ⟨rfl, large⟩
        exact .tooLarge (.inl large)
      refine ((number?_gives hy).mono ?_).bind fun y' number => ?_
      · rintro _ ⟨rfl, large⟩
        exact .tooLarge (.inr large)
      exact f.apply_gives named x' number
    · simp only [unnamed]
  by_cases booleans : a.kind = .boolean ∧ b.kind = .boolean
  · cases a with
    | bool p =>
      cases b with
      | bool q =>
        rw [scalar_booleans]
        refine .of_lookup (fun _ => BooleanOp.takes_iff) (fun f named => ?_) fun unnamed => ?_
        · simp only [named]
          exact .value rfl
        · simp only [unnamed]
          rfl
      | _ => cases booleans.2
    | _ => cases booleans.1
  · have untaken := not_takes_others first second numbers booleans text op
    rw [scalar_others numbers booleans text]
    exact ⟨fun k taken => absurd taken (untaken k), fun _ => rfl⟩

/-! ## Vectors -/

theorem vec2_dispatched (v w : Vec2) {mishap : Failure → Prop} (op : String) :
    Dispatched (BinaryTakes .vec2 .vec2 op) mishap op [.vec2, .vec2]
      (vector (.vec2 v) (.vec2 w) op) := by
  constructor
  · intro k taken
    cases taken with
    | sum _ name =>
      simp only [List.mem_cons, List.not_mem_nil, or_false] at name
      rcases name with rfl | rfl
      · exact .value rfl
      · exact .value rfl
    | dot => exact .value rfl
    | joined vector => exact absurd (.inl rfl) vector
    | matched vector => exact absurd (.inl rfl) vector
    | placed vector => exact absurd (.inl rfl) vector
  · intro untaken
    unfold vector
    simp only
    split
    case isTrue plus => exact absurd (.sum (.inl rfl) (by simp [plus])) (untaken .vec2)
    split
    case isTrue minus => exact absurd (.sum (.inl rfl) (by simp [minus])) (untaken .vec2)
    split
    case isTrue times => exact absurd (times ▸ .dot (.inl rfl)) (untaken .number)
    rfl

theorem vec3_dispatched (v w : Vec3) {mishap : Failure → Prop} (op : String) :
    Dispatched (BinaryTakes .vec3 .vec3 op) mishap op [.vec3, .vec3]
      (vector (.vec3 v) (.vec3 w) op) := by
  constructor
  · intro k taken
    cases taken with
    | sum _ name =>
      simp only [List.mem_cons, List.not_mem_nil, or_false] at name
      rcases name with rfl | rfl
      · exact .value rfl
      · exact .value rfl
    | dot => exact .value rfl
    | cross => exact .value rfl
    | joined vector => exact absurd (.inr rfl) vector
    | matched vector => exact absurd (.inr rfl) vector
    | placed vector => exact absurd (.inr rfl) vector
  · intro untaken
    unfold vector
    simp only
    split
    case isTrue plus => exact absurd (.sum (.inr rfl) (by simp [plus])) (untaken .vec3)
    split
    case isTrue minus => exact absurd (.sum (.inr rfl) (by simp [minus])) (untaken .vec3)
    split
    case isTrue at' => exact absurd (at' ▸ .dot (.inr rfl)) (untaken .number)
    split
    case isTrue hash => exact absurd (hash ▸ .cross) (untaken .vec3)
    rfl

theorem isTimes_iff {op : String} : isTimes op = true ↔ op ∈ ["*", "x"] := by
  simp [isTimes]

theorem takes_scaled_iff {k result : Kind} (vector : IsVector k) {op : String} :
    BinaryTakes k .number op result ↔ (isTimes op = true ∨ op = "/") ∧ result = k := by
  constructor
  · intro taken
    cases taken with
    | scaled _ name => exact ⟨by simpa [isTimes, or_assoc] using name, rfl⟩
    | sum other | dot other | scaling other => simp [IsVector] at other
    | numbers | comparison => simp [IsVector] at vector
    | joined none | matched none | placed none => exact absurd vector none
  · rintro ⟨name, rfl⟩
    exact .scaled vector (by simpa [isTimes, or_assoc] using name)

theorem takes_scaling_iff {k result : Kind} (vector : IsVector k) {op : String} :
    BinaryTakes .number k op result ↔ isTimes op = true ∧ result = k := by
  constructor
  · intro taken
    cases taken with
    | scaling _ name => exact ⟨isTimes_iff.2 name, rfl⟩
    | sum other | dot other | scaled other => simp [IsVector] at other
    | numbers | comparison => simp [IsVector] at vector
    | joined _ none | matched _ none | placed _ none => exact absurd vector none
  · rintro ⟨name, rfl⟩
    exact .scaling vector (isTimes_iff.1 name)

section Scaling

variable {a b : Value} {k : Kind} {x : Result Scalar} {scale : Scalar → Value}

theorem inverse_gives (number : number? b = some x) :
    FailsOnly (BinaryMishap a b "/") (inverse b x) := by
  have isNumber : b.kind = .number := by
    by_contra other
    simp [number?_eq_none.2 other] at number
  unfold inverse
  split
  case isTrue zero => exact .failure (.divisionByZero (isZero_of_same isNumber zero))
  refine ((number?_gives number).mono ?_).bind fun _ _ => .value trivial
  rintro _ ⟨rfl, large⟩
  exact .tooLarge (.inr large)

/-- A vector by a number. -/
theorem scaled_dispatched (vector : IsVector k) (number : number? b = some x)
    (scales : ∀ y, (scale y).kind = k) (op : String) :
    Dispatched (BinaryTakes k .number op) (BinaryMishap a b op) op [k, .number]
      (if isTimes op then x.map scale
      else if op = "/" then (inverse b x).map scale
      else .error (.unsupported op [k, .number])) := by
  constructor
  · intro result taken
    obtain ⟨name, rfl⟩ := (takes_scaled_iff vector).1 taken
    split
    case isTrue times =>
      refine ((number?_gives number).mono ?_).map fun y _ => scales y
      rintro _ ⟨rfl, large⟩
      exact .tooLarge (.inr large)
    case isFalse other =>
      obtain rfl := name.resolve_left other
      exact (inverse_gives number).map fun y _ => scales y
  · intro untaken
    have unnamed := fun name => untaken k ((takes_scaled_iff vector).2 ⟨name, rfl⟩)
    rw [if_neg fun times => unnamed (.inl times), if_neg fun slash => unnamed (.inr slash)]

/-- A number by a vector. -/
theorem scaling_dispatched (vector : IsVector k) (number : number? a = some x)
    (scales : ∀ y, (scale y).kind = k) (op : String) :
    Dispatched (BinaryTakes .number k op) (BinaryMishap a b op) op [.number, k]
      (if isTimes op then x.map scale else .error (.unsupported op [.number, k])) := by
  constructor
  · intro result taken
    obtain ⟨times, rfl⟩ := (takes_scaling_iff vector).1 taken
    rw [if_pos times]
    refine ((number?_gives number).mono ?_).map fun y _ => scales y
    rintro _ ⟨rfl, large⟩
    exact .tooLarge (.inl large)
  · intro untaken
    rw [if_neg fun times => untaken k ((takes_scaling_iff vector).2 ⟨times, rfl⟩)]

end Scaling

/-- A vector goes with its like and with numbers only. -/
theorem vector_takes {j k result : Kind} (vector : IsVector j ∨ IsVector k) {op : String}
    (taken : BinaryTakes j k op result) : j = k ∨ j = .number ∨ k = .number := by
  cases taken with
  | sum | dot | cross | numbers | comparison | logic => exact .inl rfl
  | scaled => exact .inr (.inr rfl)
  | scaling => exact .inr (.inl rfl)
  | joined first second | matched first second | placed first second =>
    exact absurd vector (not_or.2 ⟨first, second⟩)

theorem unlike_dispatched {a b : Value} (vector : IsVector a.kind ∨ IsVector b.kind)
    (unlike : a.kind ≠ b.kind ∧ a.kind ≠ .number ∧ b.kind ≠ .number)
    {mishap : Failure → Prop} (op : String) :
    Dispatched (BinaryTakes a.kind b.kind op) mishap op [a.kind, b.kind]
      (Operator.vector a b op) := by
  have untaken (k : Kind) : ¬BinaryTakes a.kind b.kind op k := fun taken =>
    (vector_takes vector taken).elim unlike.1 (·.elim unlike.2.1 unlike.2.2)
  have refused : Operator.vector a b op = .error (.unsupported op [a.kind, b.kind]) := by
    cases a <;> cases b <;> simp_all [Value.kind, Operator.vector, number?, IsVector]
  exact ⟨fun k taken => absurd taken (untaken k), fun _ => refused⟩

theorem vector_dispatched {a b : Value} (vector : IsVector a.kind ∨ IsVector b.kind) (op : String) :
    Dispatched (BinaryTakes a.kind b.kind op) (BinaryMishap a b op) op [a.kind, b.kind]
      (Operator.vector a b op) := by
  cases a with
  | vec2 v =>
    cases b with
    | vec2 w => exact vec2_dispatched v w op
    | int | float => exact scaled_dispatched (.inl rfl) rfl (fun _ => rfl) op
    | absent | bool | text | vec3 => exact unlike_dispatched vector (by simp [Value.kind]) op
  | vec3 v =>
    cases b with
    | vec3 w => exact vec3_dispatched v w op
    | int | float => exact scaled_dispatched (.inr rfl) rfl (fun _ => rfl) op
    | absent | bool | text | vec2 => exact unlike_dispatched vector (by simp [Value.kind]) op
  | int | float =>
    cases b with
    | vec2 w => exact scaling_dispatched (.inl rfl) rfl (fun _ => rfl) op
    | vec3 w => exact scaling_dispatched (.inr rfl) rfl (fun _ => rfl) op
    | _ => simp [Value.kind, IsVector] at vector
  | absent | bool | text =>
    cases b with
    | vec2 | vec3 => exact unlike_dispatched vector (by simp [Value.kind]) op
    | _ => simp [Value.kind, IsVector] at vector

/-- An operator other than the two equalities, on two operands that are present. -/
theorem binary_dispatched {a b : Value} (first : a ≠ .absent) (second : b ≠ .absent) {op : String}
    (equal : op ≠ "==") (unequal : op ≠ "!=") :
    Dispatched (BinaryTakes a.kind b.kind op) (BinaryMishap a b op) op [a.kind, b.kind]
      (binary a b op) := by
  simp only [binary, equal, unequal, first, second, ↓reduceIte]
  split
  case isTrue vector => exact vector_dispatched (by simpa [isVector, IsVector] using vector) op
  case isFalse others =>
    simp only [isVector, Bool.or_eq_true, decide_eq_true_eq, not_or] at others
    exact scalar_dispatched (not_or.2 others.1) (not_or.2 others.2) op

/-- An operator on two numbers is looked up in their table. -/
theorem binary_numbers {a b : Value} {x y : Scalar} {op : String} {f : NumberOp}
    (first : number? a = some (.ok x)) (second : number? b = some (.ok y))
    (named : NumberOp.names.lookup op = some f) : binary a b op = f.apply x y := by
  have other : op ≠ "==" ∧ op ≠ "!=" := by
    constructor <;> rintro rfl <;> cases named
  have plain {v : Value} {x : Scalar} (number : number? v = some (.ok x)) :
      v ≠ .absent ∧ isVector v = false := by
    cases v with
    | int | float => exact ⟨by simp, rfl⟩
    | absent | bool | text | vec2 | vec3 => cases number
  simp only [binary, other.1, other.2, plain first, plain second, Bool.or_self,
    Bool.false_eq_true, ↓reduceIte, scalar_numbers first second, named]
  rfl

end EventFlow.Operator
