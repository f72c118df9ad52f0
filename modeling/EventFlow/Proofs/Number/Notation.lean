import EventFlow.Number.Notation
import EventFlow.Number.Reading
import EventFlow.Proofs.Number.Bits
import EventFlow.Proofs.Number.Rounding
import EventFlow.Proofs.Text.Numeral
import EventFlow.Proofs.Text.Pieces
import Mathlib.Tactic.FinCases

/-!
Reading a number from the text that it was written as.

* `shortest_magnitude`: the decimal that is written has the magnitude of the float;
* `decimalText_written`: significant digits are read with the point where they were written;
* `read?_chars`: every float is read back from its text.
-/

namespace EventFlow.Number

section Shortest

theorem neighbour?_magnitude {bits num den : Nat} {k : Int} {d : Decimal}
    (h : neighbour? bits num den k = some d) : d.magnitude = bits := by
  simp only [neighbour?] at h
  split at h
  · rename_i below
    split at h
    · rename_i above
      rw [Bool.and_eq_true, decide_eq_true_eq] at above
      obtain rfl := Option.some.inj h
      exact above.1
    · obtain rfl := Option.some.inj h
      exact below
  · split at h
    · rename_i above
      obtain rfl := Option.some.inj h
      exact above
    · cases h

theorem firstNeighbour_magnitude {bits num den : Nat} {exact : Decimal} {point : Int}
    (fallback : exact.magnitude = bits) (tries places : Nat) :
    (firstNeighbour bits num den exact point tries places).magnitude = bits := by
  induction tries generalizing places with
  | zero => exact fallback
  | succ tries ih =>
    rw [firstNeighbour]
    cases found : neighbour? bits num den (point - places) with
    | none => exact ih (places + 1)
    | some d => exact neighbour?_magnitude found

theorem Scaled.decimal_value (s : Scaled) :
    (s.decimal.digits : ℚ) * 10 ^ s.decimal.exponent = s.significand * 2 ^ s.exponent := by
  obtain ⟨m, e⟩ := s
  cases e with
  | ofNat e => simp [Scaled.decimal]
  | negSucc e =>
    have ten : (10 : ℚ) ^ (e + 1) = 5 ^ (e + 1) * 2 ^ (e + 1) := by
      rw [← mul_pow]
      norm_num
    simp only [Scaled.decimal, Nat.pow_eq, Nat.cast_mul, Nat.cast_pow, Nat.cast_ofNat,
      zpow_negSucc, ten]
    field_simp

/-- The decimal that is written has the magnitude of the float. -/
theorem shortest_magnitude {bits : Nat} (positive : 0 < bits) (finite : bits < infinite) :
    (shortest bits).magnitude = bits := by
  obtain ⟨a, b, hb, value⟩ := exists_fraction (decode bits).decimal.digits
    (decode bits).decimal.exponent
  have exact : (decode bits).decimal.magnitude = bits := by
    rw [Decimal.magnitude, nearestDecimal_eq hb value]
    exact nearest_decode positive finite hb (value.symm.trans (decode bits).decimal_value)
  exact firstNeighbour_magnitude exact 17 1

end Shortest

/-- The characters of unsigned numerals. -/
def Numeric (c : Char) : Prop :=
  c.isDigit = true ∨ c ∈ ['.', 'e', '+', '-']

/-- A text is an unsigned numeral of a magnitude. -/
structure Written (cs : List Char) (bits : Nat) : Prop where
  value : unsigned? cs = some bits
  head : ∃ c rest, cs = c :: rest ∧ c.isDigit = true
  chars : ∀ c ∈ cs, Numeric c

/-- What may follow the digits of a numeral: nothing, or an exponent. -/
structure Tail (cs : List Char) (e : Int) : Prop where
  value : exponent? cs = some e
  stops : ∀ c ∈ cs.head?, c = 'e'
  chars : ∀ c ∈ cs, Numeric c

section Parts

theorem digitValue?_stops {cs : List Char} (stops : ∀ c ∈ cs.head?, c = 'e') :
    ∀ c ∈ cs.head?, Text.digitValue? c = none := by
  intro c hc
  rw [stops c hc]
  rfl

theorem Tail.nil : Tail [] 0 :=
  ⟨rfl, by simp, by simp⟩

theorem exponent?_digits {negative : Bool} {sign : Char} {digits : List Char}
    (signed : takeSign (sign :: digits) = (negative, digits)) (nonempty : digits ≠ [])
    (all : ∀ c ∈ digits, c.isDigit = true) :
    exponent? ('e' :: sign :: digits) = some
      (if negative then -(Text.ofDigits (Text.values digits) : Int)
        else Text.ofDigits (Text.values digits)) := by
  have taken : Text.takeDigits digits = (Text.values digits, []) := by
    have whole : Text.takeDigits (digits ++ []) = (Text.values digits, []) :=
      Text.takeDigits_digits all (by simp)
    rwa [List.append_nil] at whole
  cases digits with
  | nil => exact absurd rfl nonempty
  | cons d ds =>
    simp [exponent?, signed, taken]

/-- An exponent is its sign and digits. -/
theorem exponentText_digits (e : Int) : ∃ digits,
    exponentText e = (if e < 0 then '-' else '+') :: digits ∧ digits ≠ [] ∧
      (∀ c ∈ digits, c.isDigit = true) ∧ Text.ofDigits (Text.values digits) = e.natAbs := by
  have digits (c : Char) (hc : c ∈ Nat.toDigits 10 e.natAbs) : c.isDigit = true :=
    Text.isDigit_toDigits hc
  have value : Text.ofDigits (Text.values (Nat.toDigits 10 e.natAbs)) = e.natAbs :=
    Text.ofDigits_numeral e.natAbs
  by_cases short : (Nat.toDigits 10 e.natAbs).length < 2
  · refine ⟨'0' :: Nat.toDigits 10 e.natAbs, by simp only [exponentText, short, ↓reduceIte],
      by simp, ?_, value⟩
    intro c hc
    rcases List.mem_cons.mp hc with rfl | hc
    · rfl
    · exact digits c hc
  · exact ⟨Nat.toDigits 10 e.natAbs, by simp only [exponentText, short, ↓reduceIte], by simp,
      digits, value⟩

theorem Tail.exponent (e : Int) : Tail ('e' :: exponentText e) e := by
  obtain ⟨digits, text, nonempty, all, value⟩ := exponentText_digits e
  have numeric {sign : Char} (signs : Numeric sign) :
      ∀ c ∈ 'e' :: sign :: digits, Numeric c := by
    intro c hc
    rcases List.mem_cons.mp hc with rfl | hc
    · exact Or.inr (by simp)
    rcases List.mem_cons.mp hc with rfl | hc
    · exact signs
    · exact Or.inl (all c hc)
  rw [text]
  by_cases negative : e < 0
  · have minus (ds : List Char) : takeSign ('-' :: ds) = (true, ds) := rfl
    rw [if_pos negative]
    refine ⟨?_, by simp, numeric (Or.inr (by simp))⟩
    rw [exponent?_digits (minus _) nonempty all, value, if_pos rfl]
    congr 1
    omega
  · have plus (ds : List Char) : takeSign ('+' :: ds) = (false, ds) := rfl
    rw [if_neg negative]
    refine ⟨?_, by simp, numeric (Or.inr (by simp))⟩
    rw [exponent?_digits (plus _) nonempty all, value, if_neg (by decide)]
    congr 1
    omega

variable {whole places tail : List Char} {e : Int}

theorem takeMantissa_point (hw : ∀ c ∈ whole, c.isDigit = true)
    (hp : ∀ c ∈ places, c.isDigit = true) (stops : ∀ c ∈ tail.head?, c = 'e') :
    takeMantissa (whole ++ '.' :: (places ++ tail)) =
      (Text.values whole, Text.values places, tail) := by
  have point : ∀ c ∈ ('.' :: (places ++ tail)).head?, Text.digitValue? c = none := by
    rintro c ⟨⟩
    rfl
  simp only [takeMantissa, Text.takeDigits_digits hw point,
    Text.takeDigits_digits hp (digitValue?_stops stops)]

theorem takeMantissa_whole (hw : ∀ c ∈ whole, c.isDigit = true)
    (stops : ∀ c ∈ tail.head?, c = 'e') :
    takeMantissa (whole ++ tail) = (Text.values whole, [], tail) := by
  simp only [takeMantissa, Text.takeDigits_digits hw (digitValue?_stops stops)]
  split
  · rename_i rest
    cases stops '.' rfl
  · rfl

theorem unsigned?_parts {cs : List Char} (taken : takeMantissa cs =
      (Text.values whole, Text.values places, tail)) (nonempty : whole ≠ []) (rest : Tail tail e) :
    unsigned? cs = some (nearestDecimal (Text.ofDigits (Text.values (whole ++ places)))
      (e - places.length)) := by
  cases whole with
  | nil => exact absurd rfl nonempty
  | cons c whole =>
    simp [unsigned?, taken, rest.value]

theorem starts_digit (nonempty : whole ≠ []) (hw : ∀ c ∈ whole, c.isDigit = true)
    (after : List Char) : ∃ c rest, whole ++ after = c :: rest ∧ c.isDigit = true := by
  cases whole with
  | nil => exact absurd rfl nonempty
  | cons c whole => exact ⟨c, _, rfl, hw c List.mem_cons_self⟩

theorem Written.point (nonempty : whole ≠ []) (hw : ∀ c ∈ whole, c.isDigit = true)
    (hp : ∀ c ∈ places, c.isDigit = true) (rest : Tail tail e) :
    Written (whole ++ '.' :: (places ++ tail))
      (nearestDecimal (Text.ofDigits (Text.values (whole ++ places))) (e - places.length)) where
  value := unsigned?_parts (takeMantissa_point hw hp rest.stops) nonempty rest
  head := starts_digit nonempty hw _
  chars := by
    intro c hc
    rw [List.mem_append, List.mem_cons, List.mem_append] at hc
    rcases hc with hc | rfl | hc | hc
    · exact Or.inl (hw c hc)
    · exact Or.inr (by simp)
    · exact Or.inl (hp c hc)
    · exact rest.chars c hc

theorem Written.plain (nonempty : whole ≠ []) (hw : ∀ c ∈ whole, c.isDigit = true)
    (rest : Tail tail e) :
    Written (whole ++ tail) (nearestDecimal (Text.ofDigits (Text.values whole)) e) where
  value := by
    have taken : takeMantissa (whole ++ tail) = (Text.values whole, Text.values [], tail) :=
      takeMantissa_whole hw rest.stops
    simpa using unsigned?_parts taken nonempty rest
  head := starts_digit nonempty hw _
  chars := by
    intro c hc
    rcases List.mem_append.mp hc with hc | hc
    · exact Or.inl (hw c hc)
    · exact rest.chars c hc

end Parts

section Digits

variable {digits : List Char}

theorem isDigit_zeros {n : Nat} : ∀ c ∈ List.replicate n '0', c.isDigit = true := by
  intro c hc
  rw [List.eq_of_mem_replicate hc]
  rfl

/-- Digits behind the point. -/
theorem Written.behind (all : ∀ c ∈ digits, c.isDigit = true) (k : Nat) :
    Written ('0' :: '.' :: List.replicate k '0' ++ digits)
      (nearestDecimal (Text.ofDigits (Text.values digits)) (-k - digits.length)) := by
  have zero : ∀ c ∈ ['0'], c.isDigit = true := by simp
  have places : ∀ c ∈ List.replicate k '0' ++ digits, c.isDigit = true := by
    intro c hc
    rcases List.mem_append.mp hc with hc | hc
    · exact isDigit_zeros c hc
    · exact all c hc
  have written := Written.point (List.cons_ne_nil _ _) zero places Tail.nil
  have value : Text.ofDigits (Text.values (['0'] ++ (List.replicate k '0' ++ digits))) =
      Text.ofDigits (Text.values digits) := by
    have zeros : Text.values ['0'] = List.replicate 1 0 := rfl
    rw [Text.values_append, Text.values_append, Text.values_zeros, zeros, Text.ofDigits_append,
      Text.ofDigits_zeros, Text.ofDigits_append, Text.ofDigits_zeros]
    omega
  have exponent : (0 : Int) - (List.replicate k '0' ++ digits).length = -k - digits.length := by
    rw [List.length_append, List.length_replicate]
    omega
  rw [value, exponent] at written
  simpa using written

/-- Digits before the point, with zeros up to it. -/
theorem Written.before (nonempty : digits ≠ []) (all : ∀ c ∈ digits, c.isDigit = true) (k : Nat) :
    Written (digits ++ List.replicate k '0' ++ ['.', '0'])
      (nearestDecimal (Text.ofDigits (Text.values digits)) k) := by
  have whole : ∀ c ∈ digits ++ List.replicate k '0', c.isDigit = true := by
    intro c hc
    rcases List.mem_append.mp hc with hc | hc
    · exact all c hc
    · exact isDigit_zeros c hc
  have zero : ∀ c ∈ ['0'], c.isDigit = true := by simp
  have written := Written.point (List.append_ne_nil_of_left_ne_nil nonempty _) whole zero Tail.nil
  have value : Text.ofDigits (Text.values (digits ++ List.replicate k '0' ++ ['0'])) =
      Text.ofDigits (Text.values digits) * 10 ^ (k + 1) := by
    have zeros : Text.values ['0'] = List.replicate 1 0 := rfl
    rw [Text.values_append, Text.values_append, Text.values_zeros, zeros, List.append_assoc,
      ← List.replicate_add, Text.ofDigits_append, Text.ofDigits_zeros, List.length_replicate,
      Nat.add_zero]
  have exponent : (0 : Int) - ['0'].length + (k + 1 : Nat) = k := by
    rw [List.length_singleton]
    omega
  rw [value, nearestDecimal_zeros, exponent] at written
  simpa using written

/-- Digits on both sides of the point. -/
theorem Written.around (all : ∀ c ∈ digits, c.isDigit = true) {i : Nat} (positive : 0 < i)
    (inside : i < digits.length) :
    Written (digits.take i ++ '.' :: digits.drop i)
      (nearestDecimal (Text.ofDigits (Text.values digits)) (i - digits.length)) := by
  have nonempty : digits.take i ≠ [] := by
    rw [ne_eq, List.take_eq_nil_iff, not_or]
    refine ⟨by omega, ?_⟩
    rintro rfl
    exact absurd inside (Nat.not_lt_zero _)
  have whole : ∀ c ∈ digits.take i, c.isDigit = true := fun c hc => all c (List.mem_of_mem_take hc)
  have places : ∀ c ∈ digits.drop i, c.isDigit = true := fun c hc => all c (List.mem_of_mem_drop hc)
  have written := Written.point nonempty whole places Tail.nil
  have exponent : (0 : Int) - (digits.drop i).length = i - digits.length := by
    rw [List.length_drop]
    omega
  rw [List.take_append_drop, exponent] at written
  simpa using written

/-- A digit before the point, and an exponent. -/
theorem Written.scaled {first : Char} {others : List Char}
    (all : ∀ c ∈ first :: others, c.isDigit = true) (e : Int) :
    Written ((match first :: others with
        | first :: second :: rest => first :: '.' :: second :: rest
        | short => short) ++ 'e' :: exponentText e)
      (nearestDecimal (Text.ofDigits (Text.values (first :: others))) (e - others.length)) := by
  have head : ∀ c ∈ [first], c.isDigit = true := by
    intro c hc
    rw [List.mem_singleton.mp hc]
    exact all first List.mem_cons_self
  have tail := Tail.exponent e
  cases others with
  | nil => simpa using Written.plain (List.cons_ne_nil _ _) head tail
  | cons second rest =>
    exact Written.point (List.cons_ne_nil _ _) head
      (fun c hc => all c (List.mem_cons_of_mem _ hc)) tail

/-- Significant digits are read with the point where they were written. -/
theorem decimalText_written (nonempty : digits ≠ []) (all : ∀ c ∈ digits, c.isDigit = true)
    (point : Int) :
    Written (decimalText digits point)
      (nearestDecimal (Text.ofDigits (Text.values digits)) (point - digits.length)) := by
  unfold decimalText
  by_cases positional : (decide (-4 < point) && decide (point ≤ 16)) = true
  · rw [if_pos positional]
    by_cases fraction : point ≤ 0
    · have zeros : -((-point).toNat : Int) = point := by omega
      have written := Written.behind all (-point).toNat
      rw [zeros] at written
      rw [if_pos fraction]
      exact written
    · rw [if_neg fraction]
      by_cases integer : digits.length ≤ point.toNat
      · have zeros : ((point.toNat - digits.length : Nat) : Int) = point - digits.length := by omega
        have written := Written.before nonempty all (point.toNat - digits.length)
        rw [zeros] at written
        simp only [integer, ↓reduceIte]
        exact written
      · have whole : (point.toNat : Int) = point := by omega
        have written := Written.around all (by omega) (Nat.lt_of_not_le integer)
        rw [whole] at written
        simp only [integer, ↓reduceIte]
        exact written
  · rw [if_neg positional]
    cases digits with
    | nil => exact absurd rfl nonempty
    | cons first others =>
      have exponent : point - 1 - others.length = point - (first :: others).length := by
        rw [List.length_cons]
        omega
      have written := Written.scaled all (point - 1)
      rw [exponent] at written
      exact written

/-- The zeros that are trimmed stood at the end. -/
theorem trimZeros_append (cs : List Char) :
    (trimZeros cs).1 ++ List.replicate (trimZeros cs).2 '0' = cs := by
  have zeros : cs.reverse.takeWhile (· == '0') =
      List.replicate (cs.reverse.takeWhile (· == '0')).length '0' := by
    rw [List.eq_replicate_iff]
    refine ⟨rfl, ?_⟩
    intro c hc
    have every := List.all_eq_true.mp List.all_takeWhile c hc
    simpa using every
  have split : (cs.reverse.dropWhile (· == '0')).reverse ++
      List.replicate (cs.reverse.takeWhile (· == '0')).length '0' = cs := by
    have whole := congrArg List.reverse
      (List.takeWhile_append_dropWhile (p := (· == '0')) (l := cs.reverse))
    rw [List.reverse_append, List.reverse_reverse, zeros, List.reverse_replicate] at whole
    exact whole
  simp only [trimZeros]
  generalize (cs.reverse.takeWhile (· == '0')).length = m at split
  have kept : cs.take (cs.length - m) = (cs.reverse.dropWhile (· == '0')).reverse := by
    generalize (cs.reverse.dropWhile (· == '0')).reverse = rest at split
    rw [← split]
    simp
  rw [kept]
  exact split

theorem Decimal.chars_written {d : Decimal} (positive : 0 < d.digits) :
    Written d.chars d.magnitude := by
  have value : Text.ofDigits (Text.values (Nat.toDigits 10 d.digits)) = d.digits :=
    Text.ofDigits_numeral d.digits
  have digits (c : Char) (hc : c ∈ Nat.toDigits 10 d.digits) : c.isDigit = true :=
    Text.isDigit_toDigits hc
  unfold Decimal.chars
  simp only
  have split := trimZeros_append (Nat.toDigits 10 d.digits)
  generalize Nat.toDigits 10 d.digits = all at value digits split ⊢
  generalize (trimZeros all).1 = kept at split ⊢
  generalize (trimZeros all).2 = zeros at split
  subst split
  rw [Text.values_append, Text.values_zeros, Text.ofDigits_append, Text.ofDigits_zeros,
    List.length_replicate, Nat.add_zero] at value
  have nonempty : kept ≠ [] := by
    rintro rfl
    rw [Text.values_nil] at value
    have zero : Text.ofDigits [] = 0 := rfl
    rw [zero, Nat.zero_mul] at value
    omega
  have written := decimalText_written nonempty
    (fun c hc => digits c (List.mem_append_left _ hc))
    ((kept ++ List.replicate zeros '0').length + d.exponent)
  have exponent : ((kept ++ List.replicate zeros '0').length + d.exponent) - kept.length =
      d.exponent + zeros := by
    rw [List.length_append, List.length_replicate]
    omega
  rw [exponent, ← nearestDecimal_zeros, value] at written
  exact written

/-- A finite magnitude is read back from its text. -/
theorem magnitudeChars_written {bits : Nat} (finite : bits < infinite) :
    Written (magnitudeChars bits) bits := by
  unfold magnitudeChars
  by_cases zero : bits = 0
  · subst zero
    rw [if_pos rfl]
    refine ⟨rfl, ⟨'0', _, rfl, rfl⟩, ?_⟩
    simp [Numeric]
  · rw [if_neg zero]
    have magnitude := shortest_magnitude (by omega) finite
    have positive : 0 < (shortest bits).digits := by
      by_contra none'
      have empty : (shortest bits).digits = 0 := by omega
      rw [Decimal.magnitude, empty] at magnitude
      exact zero magnitude.symm
    have written := Decimal.chars_written positive
    rw [magnitude] at written
    exact written

end Digits

section Reading

/-- A character without a meaning of its own where numbers stand in a list. -/
def Bare (c : Char) : Prop :=
  Text.isBlank c = false ∧ c ≠ ',' ∧ c ≠ '('

instance (c : Char) : Decidable (Bare c) := inferInstanceAs (Decidable (_ ∧ _))

theorem Numeric.bare {c : Char} (numeric : Numeric c) : Bare c := by
  rcases numeric with digit | other
  · obtain ⟨low, high⟩ := Text.isDigit_iff.mp digit
    refine ⟨?_, ?_, ?_⟩
    · simp only [Text.isBlank, Bool.or_eq_false_iff, Bool.and_eq_false_iff, decide_eq_false_iff_not,
        beq_eq_false_iff_ne]
      omega
    · rintro rfl
      exact absurd digit (by decide)
    · rintro rfl
      exact absurd digit (by decide)
  · fin_cases other <;> decide

theorem special?_none {cs : List Char} (other : cs ∉ ["NaN".toList, "Infinity".toList,
    "+Infinity".toList, "-Infinity".toList]) : special? (String.ofList cs) = none := by
  have differs {word : String} (h : cs ≠ word.toList) : String.ofList cs ≠ word := by
    rintro rfl
    exact h String.toList_ofList.symm
  simp only [List.mem_cons, List.not_mem_nil, or_false, not_or] at other
  obtain ⟨nan, infinity, plus, minus⟩ := other
  simp [special?, differs nan, differs infinity, differs plus, differs minus]

section Sign

variable {c : Char} (digit : c.isDigit = true) (rest : List Char)
include digit

theorem special?_digit : special? (String.ofList (c :: rest)) = none := by
  apply special?_none
  intro word
  simp only [List.mem_cons, List.not_mem_nil, or_false] at word
  rcases word with word | word | word | word
  all_goals
    cases word
    exact absurd digit (by decide)

theorem special?_minus : special? (String.ofList ('-' :: c :: rest)) = none := by
  apply special?_none
  intro word
  simp only [List.mem_cons, List.not_mem_nil, or_false] at word
  rcases word with word | word | word | word <;> cases word
  exact absurd digit (by decide)

theorem takeSign_digit : takeSign (c :: rest) = (false, c :: rest) := by
  unfold takeSign
  split
  · rename_i same
    cases same
    exact absurd digit (by decide)
  · rename_i same
    cases same
    exact absurd digit (by decide)
  · rfl

end Sign

/-- A numeral is read after its sign. -/
theorem read?_written {cs : List Char} {bits : Nat} (written : Written cs bits) (negative : Bool) :
    read? (if negative then '-' :: cs else cs) = some (ofMagnitude negative bits) := by
  obtain ⟨c, rest, rfl, digit⟩ := written.head
  have bare (d : Char) (hd : d ∈ c :: rest) : Text.isBlank d = false := (written.chars d hd).bare.1
  cases negative with
  | true =>
    have strip : Text.strip ('-' :: c :: rest) = '-' :: c :: rest := by
      apply Text.strip_bare
      intro d hd
      rcases List.mem_cons.mp hd with rfl | hd
      · rfl
      · exact bare d hd
    simp only [↓reduceIte, read?, strip, special?_minus digit, takeSign, written.value]
    rfl
  | false =>
    have strip : Text.strip (c :: rest) = c :: rest := Text.strip_bare bare
    simp only [Bool.false_eq_true, ↓reduceIte, read?, strip, special?_digit digit,
      takeSign_digit digit, written.value]
    rfl

/-- Every float is read back from its text. -/
theorem read?_chars (x : Float) : read? (chars x) = some x := by
  have whole := ofMagnitude_magnitude x
  unfold chars
  by_cases beyond : infinite < magnitude x
  · rw [if_pos beyond, eq_notANumber beyond]
    rfl
  · rw [if_neg beyond]
    simp only
    by_cases top : magnitude x = infinite
    · rw [top] at whole
      rw [if_pos top, ← whole]
      cases isNegative x <;> rfl
    · rw [if_neg top, read?_written (magnitudeChars_written (by omega)), whole]

theorem chars_bare (x : Float) : ∀ c ∈ chars x, Bare c := by
  have words {word : List Char} (all : (word.all fun c => decide (Bare c)) = true) :
      ∀ c ∈ word, Bare c := by
    simpa using all
  unfold chars
  by_cases beyond : infinite < magnitude x
  · rw [if_pos beyond]
    exact words (by decide)
  · rw [if_neg beyond]
    have body : ∀ c ∈ (if magnitude x = infinite then "Infinity".toList
        else magnitudeChars (magnitude x)), Bare c := by
      by_cases top : magnitude x = infinite
      · rw [if_pos top]
        exact words (by decide)
      · rw [if_neg top]
        intro c hc
        exact ((magnitudeChars_written (by omega)).chars c hc).bare
    simp only
    split
    · intro c hc
      rcases List.mem_cons.mp hc with rfl | hc
      · decide
      · exact body c hc
    · exact body

end Reading

end EventFlow.Number
