import EventFlow.Json.Reader
import EventFlow.Text.Digit
import Mathlib.Algebra.Group.Int.Defs
import Mathlib.Algebra.Group.Nat.Defs

/-!
Decimal numerals and the ways of taking them off the front of a text.

* `takeDecimals_digits`, `takeDigits_digits`: the digits of a text are taken up to what follows
  them;
* `ofDigits_numeral`: the digits of a numeral give its number back;
* `ofDigits_append`, `ofDigits_zeros`: what digits side by side denote.
-/

namespace EventFlow.Text

/-- Digits by value. -/
def values (digits : List Char) : List Nat :=
  digits.map fun c => c.toNat - 48

/-- The digits of the numeral of a number, by value. -/
def numeral (n : Nat) : List Nat :=
  values (Nat.toDigits 10 n)

@[simp] theorem values_nil : values [] = [] := rfl

@[simp] theorem values_cons (c : Char) (cs : List Char) :
    values (c :: cs) = (c.toNat - 48) :: values cs := rfl

@[simp] theorem values_append (cs ds : List Char) : values (cs ++ ds) = values cs ++ values ds :=
  List.map_append

@[simp] theorem length_values (cs : List Char) : (values cs).length = cs.length :=
  List.length_map _

theorem ofDigits_chars (cs : List Char) : ofDigits (values cs) = Nat.ofDigitChars 10 cs 0 := by
  rw [ofDigits, values, List.foldl_map, Nat.ofDigitChars_eq_foldl]
  rfl

@[simp] theorem ofDigits_numeral (n : Nat) : ofDigits (numeral n) = n := by
  rw [numeral, ofDigits_chars, Nat.ofDigitChars_ten_toDigits]

@[simp] theorem length_numeral (n : Nat) : (numeral n).length = (Nat.toDigits 10 n).length := by
  simp [numeral]

theorem numeral_ne_nil (n : Nat) : numeral n ≠ [] := by
  simp [numeral, values]

theorem ofDigits_append (ds es : List Nat) :
    ofDigits (ds ++ es) = ofDigits ds * 10 ^ es.length + ofDigits es := by
  have shift (es : List Nat) (n : Nat) :
      es.foldl (fun n d => 10 * n + d) n = n * 10 ^ es.length + ofDigits es := by
    induction es generalizing n with
    | nil => simp [ofDigits]
    | cons d es ih =>
      have single : ofDigits (d :: es) = d * 10 ^ es.length + ofDigits es := by
        rw [ofDigits, List.foldl_cons, ih]
        simp
      rw [List.foldl_cons, ih, single, List.length_cons, Nat.pow_succ, Nat.add_mul, Nat.add_assoc]
      congr 1
      rw [Nat.mul_comm 10 n, Nat.mul_assoc, Nat.mul_comm 10]
  rw [ofDigits, List.foldl_append, shift]
  rfl

theorem values_zeros (n : Nat) : values (List.replicate n '0') = List.replicate n 0 :=
  List.map_replicate

@[simp] theorem ofDigits_zeros (n : Nat) : ofDigits (List.replicate n 0) = 0 := by
  induction n with
  | zero => rfl
  | succ n ih => exact ih

theorem ofDigits_lt {ds : List Nat} (digits : ∀ d ∈ ds, d < 10) : ofDigits ds < 10 ^ ds.length := by
  induction ds with
  | nil => decide
  | cons d ds ih =>
    have first := digits d List.mem_cons_self
    have others := ih fun e he => digits e (List.mem_cons_of_mem _ he)
    have single : ofDigits [d] = d := by simp [ofDigits]
    have split : ofDigits (d :: ds) = d * 10 ^ ds.length + ofDigits ds := by
      have parts := ofDigits_append [d] ds
      rwa [single] at parts
    calc ofDigits (d :: ds) = d * 10 ^ ds.length + ofDigits ds := split
      _ < (d + 1) * 10 ^ ds.length := by
        rw [Nat.add_mul, Nat.one_mul]
        exact Nat.add_lt_add_left others _
      _ ≤ 10 * 10 ^ ds.length := Nat.mul_le_mul_right _ first
      _ = 10 ^ (d :: ds).length := by rw [List.length_cons, Nat.pow_succ, Nat.mul_comm]

theorem isDigit_toDigits {n : Nat} {c : Char} (h : c ∈ Nat.toDigits 10 n) : c.isDigit = true :=
  Nat.isDigit_of_mem_toDigits (by decide) (by decide) h

/-- The numeral of a positive number does not begin with a zero. -/
theorem toDigits_head {n : Nat} (positive : 0 < n) :
    ∃ c cs, Nat.toDigits 10 n = c :: cs ∧ c.toNat - 48 ≠ 0 := by
  induction n using Nat.strongRecOn with
  | ind n ih =>
    by_cases small : n < 10
    · refine ⟨_, _, Nat.toDigits_of_lt_base small, ?_⟩
      rw [Nat.toNat_digitChar_sub_48_of_lt_ten small]
      omega
    · obtain ⟨c, cs, split, nonzero⟩ := ih (n / 10) (by omega) (by omega)
      refine ⟨c, cs ++ [(n % 10).digitChar], ?_, nonzero⟩
      rw [Nat.toDigits_of_base_le (by decide) (by omega), split]
      rfl

/-- A zero begins no numeral but its own. -/
theorem numeral_leading (n : Nat) {d : Nat} {ds : List Nat} (h : numeral n = 0 :: d :: ds) :
    False := by
  by_cases positive : 0 < n
  · obtain ⟨c, cs, split, nonzero⟩ := toDigits_head positive
    rw [numeral, split, values_cons, List.cons.injEq] at h
    exact nonzero h.1
  · obtain rfl : n = 0 := by omega
    simp [numeral] at h

theorem isDigit_iff {c : Char} : c.isDigit = true ↔ 48 ≤ c.toNat ∧ c.toNat ≤ 57 :=
  Char.isDigit_iff_toNat

theorem isDecimal_eq (c : Char) : (decide ('0' ≤ c) && decide (c ≤ '9')) = c.isDigit := by
  rw [Bool.eq_iff_iff, isDigit_iff, Bool.and_eq_true, decide_eq_true_iff, decide_eq_true_iff]
  exact Iff.rfl

theorem digitValue?_digit {c : Char} (digit : c.isDigit = true) :
    digitValue? c = some (c.toNat - 48) := by
  obtain ⟨lower, upper⟩ := isDigit_iff.mp digit
  simp [digitValue?, lower, upper]

theorem takeDecimals_digits {digits rest : List Char} (all : ∀ c ∈ digits, c.isDigit = true)
    (stop : ∀ c ∈ rest.head?, c.isDigit = false) :
    Json.takeDecimals (digits ++ rest) = (values digits, rest) := by
  induction digits with
  | nil =>
    cases rest with
    | nil => rfl
    | cons c rest =>
      have other : c.isDigit = false := stop c rfl
      simp [Json.takeDecimals, -Bool.and_eq_true, isDecimal_eq, other]
  | cons c digits ih =>
    have digit := all c List.mem_cons_self
    have others := ih fun d hd => all d (List.mem_cons_of_mem _ hd)
    simp [Json.takeDecimals, -Bool.and_eq_true, isDecimal_eq, digit, others]

/-- What is taken are digits by value. -/
theorem takeDecimals_lt (cs : List Char) : ∀ d ∈ (Json.takeDecimals cs).1, d < 10 := by
  induction cs with
  | nil => simp [Json.takeDecimals]
  | cons c cs ih =>
    unfold Json.takeDecimals
    split
    · rename_i decimal
      rw [isDecimal_eq, isDigit_iff] at decimal
      intro d hd
      rcases List.mem_cons.mp hd with rfl | hd
      · omega
      · exact ih d hd
    · simp

theorem takeDigits_digits {digits rest : List Char} (all : ∀ c ∈ digits, c.isDigit = true)
    (stop : ∀ c ∈ rest.head?, digitValue? c = none) :
    takeDigits (digits ++ rest) = (values digits, rest) := by
  induction digits with
  | nil =>
    cases rest with
    | nil => rfl
    | cons c rest => simp [takeDigits, stop c rfl]
  | cons c digits ih =>
    have digit := digitValue?_digit (all c List.mem_cons_self)
    have others := ih fun d hd => all d (List.mem_cons_of_mem _ hd)
    simp [takeDigits, digit, others]

end EventFlow.Text
