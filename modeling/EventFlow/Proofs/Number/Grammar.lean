import EventFlow.Number.Reading

/-!
The grammar of numbers in text. `Numeral` says which texts denote a number, without a word about how
they are read.

* `takeDigits_split`, `takeDigits_append`: digits are taken up to the first character that is none;
* `takeMantissa_split`, `takeMantissa_append`: so are the digits on both sides of a point;
* `read?_isSome_iff`: a text is read as a number if and only if it is a numeral between blanks.
-/

namespace EventFlow

namespace Text

/-- A decimal digit: one of the ten characters from a zero of some script on. -/
def IsDigit (c : Char) : Prop :=
  ∃ first ∈ zeroDigits, first ≤ c.toNat ∧ c.toNat < first + 10

/-- Only the first script with digits is in ASCII. -/
theorem zeroDigits_wide : ∀ first ∈ zeroDigits, first = 0x30 ∨ 0x660 ≤ first := by
  decide

/-- A character has a value as a digit if and only if it is one. -/
theorem digitValue?_isSome_iff {c : Char} : (digitValue? c).isSome ↔ IsDigit c := by
  simp only [digitValue?, Bool.and_eq_true, decide_eq_true_eq]
  by_cases ascii : 0x30 ≤ c.toNat ∧ c.toNat ≤ 0x39
  · rw [if_pos ascii]
    exact iff_of_true rfl ⟨0x30, by decide, ascii.1, by omega⟩
  rw [if_neg ascii]
  by_cases low : c.toNat < 0x80
  · rw [if_pos low]
    refine iff_of_false Bool.noConfusion ?_
    rintro ⟨first, held, above, below⟩
    rcases zeroDigits_wide first held with rfl | high <;> omega
  · rw [if_neg low]
    simp [IsDigit, List.find?_isSome]

theorem digitValue?_eq_none_iff {c : Char} : digitValue? c = none ↔ ¬IsDigit c := by
  rw [← digitValue?_isSome_iff, Option.not_isSome_iff_eq_none]

instance (c : Char) : Decidable (IsDigit c) := decidable_of_iff _ digitValue?_isSome_iff

/-- Digits are taken off the front as far as they go. -/
theorem takeDigits_split (cs : List Char) : ∃ ds, cs = ds ++ (takeDigits cs).2 ∧
    (∀ c ∈ ds, IsDigit c) ∧ (takeDigits cs).1.isEmpty = ds.isEmpty := by
  induction cs with
  | nil => exact ⟨[], rfl, by simp, rfl⟩
  | cons c cs ih =>
    cases value : digitValue? c with
    | none => exact ⟨[], by simp [takeDigits, value], by simp, by simp [takeDigits, value]⟩
    | some d =>
      obtain ⟨ds, split, digits, -⟩ := ih
      have digit : IsDigit c := digitValue?_isSome_iff.mp (by rw [value]; rfl)
      simp only [takeDigits, value]
      exact ⟨c :: ds, congrArg (c :: ·) split, List.forall_mem_cons.mpr ⟨digit, digits⟩, rfl⟩

/-- Digits before a character that is none are what is taken. -/
theorem takeDigits_append {ds rest : List Char} (digits : ∀ c ∈ ds, IsDigit c)
    (stops : ∀ c ∈ rest.head?, ¬IsDigit c) :
    (takeDigits (ds ++ rest)).1.isEmpty = ds.isEmpty ∧ (takeDigits (ds ++ rest)).2 = rest := by
  induction ds with
  | nil =>
    cases rest with
    | nil => exact ⟨rfl, rfl⟩
    | cons c rest =>
      have other := digitValue?_eq_none_iff.mpr (stops c rfl)
      simp [takeDigits, other]
  | cons c ds ih =>
    obtain ⟨digit, others⟩ := List.forall_mem_cons.mp digits
    obtain ⟨d, value⟩ := Option.isSome_iff_exists.mp (digitValue?_isSome_iff.mpr digit)
    simp [takeDigits, value, ih others]

end Text

namespace Number

open Text (IsDigit takeDigits takeDigits_split takeDigits_append)

/-- One digit or more. -/
def Digits (cs : List Char) : Prop :=
  cs.isEmpty = false ∧ ∀ c ∈ cs, IsDigit c

inductive Sign : List Char → Prop
  | none : Sign []
  | plus : Sign ['+']
  | minus : Sign ['-']

/-- Digits with a point behind, among or before them, or without one. -/
inductive Mantissa : List Char → Prop
  | whole {ds : List Char} (digits : Digits ds) : Mantissa ds
  | point {whole places : List Char} (digits : Digits whole) (more : ∀ c ∈ places, IsDigit c) :
      Mantissa (whole ++ '.' :: places)
  | fraction {places : List Char} (digits : Digits places) : Mantissa ('.' :: places)

inductive Exponent : List Char → Prop
  | none : Exponent []
  | power {mark : Char} {sign digits : List Char} (marked : mark = 'e' ∨ mark = 'E')
      (signed : Sign sign) (run : Digits digits) : Exponent (mark :: (sign ++ digits))

/-- The texts that denote a number. -/
inductive Numeral : List Char → Prop
  | word {cs : List Char}
      (special : String.ofList cs ∈ ["NaN", "Infinity", "+Infinity", "-Infinity"]) : Numeral cs
  | decimal {sign mantissa exponent : List Char} (signed : Sign sign) (digits : Mantissa mantissa)
      (scaled : Exponent exponent) : Numeral (sign ++ (mantissa ++ exponent))

theorem takeSign_split (cs : List Char) : ∃ sign, Sign sign ∧ cs = sign ++ (takeSign cs).2 := by
  unfold takeSign
  split
  · exact ⟨_, .plus, rfl⟩
  · exact ⟨_, .minus, rfl⟩
  · exact ⟨_, .none, rfl⟩

/-- A sign is taken off a text that does not begin with one itself. -/
theorem takeSign_append {sign : List Char} (signed : Sign sign) {c : Char}
    (other : IsDigit c ∨ c = '.') (rest : List Char) :
    (takeSign (sign ++ c :: rest)).2 = c :: rest := by
  cases signed with
  | none =>
    change (takeSign (c :: rest)).2 = c :: rest
    unfold takeSign
    split
    · rename_i same
      cases same
      exact absurd other (by decide)
    · rename_i same
      cases same
      exact absurd other (by decide)
    · rfl
  | plus | minus => rfl

/-- All of a text is taken as digits if it is digits. -/
theorem digits_iff (cs : List Char) :
    Digits cs ↔ (takeDigits cs).1.isEmpty = false ∧ (takeDigits cs).2 = [] := by
  constructor
  · rintro ⟨nonempty, digits⟩
    have stop : ∀ c ∈ ([] : List Char).head?, ¬IsDigit c := by simp
    obtain ⟨isEmpty, after⟩ := takeDigits_append digits stop
    rw [List.append_nil] at isEmpty after
    exact ⟨isEmpty.trans nonempty, after⟩
  · rintro ⟨nonempty, after⟩
    obtain ⟨ds, split, digits, isEmpty⟩ := takeDigits_split cs
    rw [after, List.append_nil] at split
    rw [split]
    exact ⟨isEmpty ▸ nonempty, digits⟩

theorem Digits.head {cs : List Char} (digits : Digits cs) :
    ∃ c rest, cs = c :: rest ∧ IsDigit c := by
  obtain ⟨nonempty, all⟩ := digits
  cases cs with
  | nil => cases nonempty
  | cons c rest => exact ⟨c, rest, rfl, all c List.mem_cons_self⟩

/-- An exponent is read if a mark, a sign and digits make it up. -/
theorem exponent?_cons (c : Char) (rest : List Char) :
    (exponent? (c :: rest)).isSome ↔ (c = 'e' ∨ c = 'E') ∧ Digits (takeSign rest).2 := by
  rw [digits_iff, exponent?]
  by_cases marked : c = 'e' ∨ c = 'E'
  · simp only [marked, true_and, Bool.or_eq_true, decide_eq_true_eq, ↓reduceIte]
    generalize takeDigits (takeSign rest).2 = taken
    obtain ⟨ds, after⟩ := taken
    cases ds <;> cases after <;> simp
  · simp [marked]

theorem exponent?_isSome_iff (cs : List Char) : (exponent? cs).isSome ↔ Exponent cs := by
  constructor
  · intro isSome
    cases cs with
    | nil => exact .none
    | cons c rest =>
      obtain ⟨marked, digits⟩ := (exponent?_cons c rest).mp isSome
      obtain ⟨sign, signed, split⟩ := takeSign_split rest
      rw [split]
      exact .power marked signed digits
  · intro scaled
    cases scaled with
    | none => rfl
    | @power mark sign digits marked signed run =>
      rw [exponent?_cons]
      obtain ⟨c, rest, rfl, digit⟩ := run.head
      rw [takeSign_append signed (.inl digit)]
      exact ⟨marked, run⟩

/-- An exponent does not go on with the digits or the point before it. -/
theorem Exponent.head {cs : List Char} (scaled : Exponent cs) :
    ∀ c ∈ cs.head?, ¬(IsDigit c ∨ c = '.') := by
  cases scaled with
  | none => simp
  | power marked signed run =>
    rintro c ⟨⟩
    rcases marked with rfl | rfl <;> decide

/-- Digits are taken on both sides of a point that follows the first ones. -/
theorem takeMantissa_pointed {cs rest : List Char} (point : (takeDigits cs).2 = '.' :: rest) :
    takeMantissa cs = ((takeDigits cs).1, takeDigits rest) := by
  simp only [takeMantissa, point]

theorem takeMantissa_unpointed {cs : List Char} (other : ∀ c ∈ (takeDigits cs).2.head?, c ≠ '.') :
    takeMantissa cs = ((takeDigits cs).1, [], (takeDigits cs).2) := by
  simp only [takeMantissa]
  split
  · rename_i rest point
    exact absurd rfl (other '.' (by rw [point]; rfl))
  · rfl

/-- A mantissa is taken off the front as far as it goes. -/
theorem takeMantissa_split (cs : List Char) : ∃ front, cs = front ++ (takeMantissa cs).2.2 ∧
    (((takeMantissa cs).1.isEmpty && (takeMantissa cs).2.1.isEmpty) = false → Mantissa front) := by
  obtain ⟨whole, split, digits, isEmpty⟩ := takeDigits_split cs
  by_cases pointed : ∃ rest, (takeDigits cs).2 = '.' :: rest
  · obtain ⟨rest, point⟩ := pointed
    obtain ⟨places, split', digits', isEmpty'⟩ := takeDigits_split rest
    rw [takeMantissa_pointed point]
    refine ⟨whole ++ '.' :: places, ?_, ?_⟩
    · rw [List.append_assoc, List.cons_append, ← split', ← point]
      exact split
    · dsimp only
      rw [isEmpty, isEmpty']
      intro nonempty
      cases whole with
      | nil => exact .fraction ⟨nonempty, digits'⟩
      | cons c whole => exact .point ⟨rfl, digits⟩ digits'
  · have other : ∀ c ∈ (takeDigits cs).2.head?, c ≠ '.' := by
      rintro c head rfl
      obtain ⟨rest, point⟩ := List.head?_eq_some_iff.mp head
      exact pointed ⟨rest, point⟩
    rw [takeMantissa_unpointed other]
    refine ⟨whole, split, ?_⟩
    dsimp only
    rw [isEmpty, List.isEmpty_nil, Bool.and_true]
    exact fun nonempty => .whole ⟨nonempty, digits⟩

/-- A mantissa before what does not go on with it is what is taken. -/
theorem takeMantissa_append {front rest : List Char} (digits : Mantissa front)
    (stops : ∀ c ∈ rest.head?, ¬(IsDigit c ∨ c = '.')) :
    ((takeMantissa (front ++ rest)).1.isEmpty &&
        (takeMantissa (front ++ rest)).2.1.isEmpty) = false ∧
      (takeMantissa (front ++ rest)).2.2 = rest := by
  have stop : ∀ c ∈ rest.head?, ¬IsDigit c := fun c hc digit => stops c hc (.inl digit)
  have pointStop (tail : List Char) : ∀ c ∈ ('.' :: tail).head?, ¬IsDigit c := by
    rintro c ⟨⟩
    decide
  cases digits with
  | whole run =>
    obtain ⟨isEmpty, after⟩ := takeDigits_append run.2 stop
    have other : ∀ c ∈ (takeDigits (front ++ rest)).2.head?, c ≠ '.' := by
      rw [after]
      exact fun c hc same => stops c hc (.inr same)
    rw [takeMantissa_unpointed other]
    simp [isEmpty, run.1, after]
  | @point whole places run more =>
    obtain ⟨isEmpty, after⟩ := takeDigits_append run.2 (pointStop (places ++ rest))
    obtain ⟨-, end'⟩ := takeDigits_append more stop
    rw [List.append_assoc, List.cons_append, takeMantissa_pointed after]
    simp [isEmpty, run.1, end']
  | @fraction places run =>
    have none : ∀ c ∈ ([] : List Char), IsDigit c := by simp
    obtain ⟨isEmpty, after⟩ := takeDigits_append none (pointStop (places ++ rest))
    obtain ⟨isEmpty', end'⟩ := takeDigits_append run.2 stop
    rw [List.cons_append]
    rw [List.nil_append] at isEmpty after
    rw [takeMantissa_pointed after]
    simp [isEmpty', run.1, end']

/-- A mantissa begins with a digit or a point. -/
theorem Mantissa.head {cs : List Char} (digits : Mantissa cs) :
    ∃ c rest, cs = c :: rest ∧ (IsDigit c ∨ c = '.') := by
  cases digits with
  | whole run =>
    obtain ⟨c, rest, rfl, digit⟩ := run.head
    exact ⟨c, rest, rfl, .inl digit⟩
  | point run more =>
    obtain ⟨c, rest, rfl, digit⟩ := run.head
    exact ⟨c, _, rfl, .inl digit⟩
  | fraction run => exact ⟨_, _, rfl, .inr rfl⟩

theorem unsigned?_isSome_iff (cs : List Char) :
    (unsigned? cs).isSome ↔ ∃ front rest, Mantissa front ∧ Exponent rest ∧ cs = front ++ rest := by
  have parts : (unsigned? cs).isSome ↔
      ((takeMantissa cs).1.isEmpty && (takeMantissa cs).2.1.isEmpty) = false ∧
        Exponent (takeMantissa cs).2.2 := by
    rw [← exponent?_isSome_iff, unsigned?]
    generalize takeMantissa cs = taken
    obtain ⟨whole, places, rest⟩ := taken
    dsimp only
    cases whole.isEmpty && places.isEmpty <;> simp
  rw [parts]
  constructor
  · rintro ⟨nonempty, scaled⟩
    obtain ⟨front, split, mantissa⟩ := takeMantissa_split cs
    exact ⟨front, _, mantissa nonempty, scaled, split⟩
  · rintro ⟨front, rest, digits, scaled, rfl⟩
    obtain ⟨nonempty, after⟩ := takeMantissa_append digits scaled.head
    rw [after]
    exact ⟨nonempty, scaled⟩

theorem special?_isSome_iff (s : String) :
    (special? s).isSome ↔ s ∈ ["NaN", "Infinity", "+Infinity", "-Infinity"] := by
  simp only [special?, List.mem_cons, List.not_mem_nil, or_false]
  grind

/-- A numeral begins with a digit, a sign or a point, if it is none of the words. -/
theorem Numeral.head {cs : List Char} (numeral : Numeral cs) :
    String.ofList cs ∈ ["NaN", "Infinity", "+Infinity", "-Infinity"] ∨
      ∃ c rest, cs = c :: rest ∧ (IsDigit c ∨ c ∈ ['+', '-', '.']) := by
  cases numeral with
  | word special => exact .inl special
  | decimal signed digits scaled =>
    right
    cases signed with
    | plus | minus => exact ⟨_, _, rfl, .inr (by decide)⟩
    | none =>
      obtain ⟨c, rest, rfl, digit | rfl⟩ := digits.head
      · exact ⟨c, _, rfl, .inl digit⟩
      · exact ⟨_, _, rfl, .inr (by decide)⟩

/-- A text is read as a number if and only if it is a numeral between blanks. -/
theorem read?_isSome_iff (cs : List Char) : (read? cs).isSome ↔ Numeral (Text.strip cs) := by
  unfold read?
  generalize Text.strip cs = cs
  dsimp only
  cases special : special? (String.ofList cs) with
  | some x =>
    have word := (special?_isSome_iff _).mp (Option.isSome_of_eq_some special)
    exact iff_of_true rfl (.word word)
  | none =>
    have other : String.ofList cs ∉ ["NaN", "Infinity", "+Infinity", "-Infinity"] := by
      rw [← special?_isSome_iff, special]
      exact Bool.noConfusion
    dsimp only
    rw [Option.isSome_map, unsigned?_isSome_iff]
    constructor
    · rintro ⟨front, rest, digits, scaled, same⟩
      obtain ⟨sign, signed, split⟩ := takeSign_split cs
      rw [split, same]
      exact .decimal signed digits scaled
    · intro numeral
      cases numeral with
      | word word => exact absurd word other
      | decimal signed digits scaled =>
        obtain ⟨c, more, rfl, first⟩ := digits.head
        refine ⟨_, _, digits, scaled, ?_⟩
        rw [List.cons_append, takeSign_append signed first]

end Number

end EventFlow
