import EventFlow.Proofs.Number.Grammar
import EventFlow.Proofs.Text.Pieces
import EventFlow.Proofs.Traverse
import EventFlow.Value.Wire
import Mathlib.Data.List.Pairwise

/-!
The ways in which a text is read as a value. Each has a language of its own, and no text is in two
of these, so it does not matter which one is tried first.

* `tuple?_iff`: a vector is numerals between commas and parentheses;
* `Reading.apart`: a text is read in one way at most;
* `castBy_perm`: the value of a text does not depend on the order in which the ways are tried;
* `readings_exact`: the languages, and that they are apart.
-/

namespace EventFlow

namespace Text

/-- Decimal digits have no case. -/
theorem lowerLetter_digit {c : Char} (digit : IsDigit c) : lowerLetter c = [c] := by
  have table : (zeroDigits.all fun first => lowerRanges.all fun r =>
      Nat.blt r.last first || Nat.ble (first + 10) r.first) = true := by
    decide +kernel
  simp only [List.all_eq_true, Bool.or_eq_true, Nat.blt_eq, Nat.ble_eq] at table
  obtain ⟨first, held, above, below⟩ := digit
  rcases zeroDigits_wide first held with rfl | high
  · have ascii : c.toNat < 0x80 := by omega
    rw [lowerLetter, if_pos ascii]
    unfold Char.toLower
    rw [dif_neg]
    rintro ⟨capital, -⟩
    have low : 65 ≤ c.toNat := UInt32.le_iff_toNat_le.mp capital
    omega
  · have wide : ¬c.toNat < 0x80 := by omega
    have ranges : lowerRanges.findSome? (fun r => r.image? c.toNat) = none := by
      rw [List.findSome?_eq_none_iff]
      intro r hr
      have outside := table first held r hr
      rw [CaseRange.image?, if_neg]
      simp only [Bool.and_eq_true, decide_eq_true_eq]
      omega
    have special : lowerSpecial.lookup c.toNat = none := by
      have other : (c.toNat == 0x130) = false := by
        rw [beq_eq_false_iff_ne]
        omega
      simp [lowerSpecial, List.lookup_cons, other]
    rw [lowerLetter, if_neg wide, mapLetter]
    simp only [special, ranges]

/-- A letter without a case begins the lower case of a text too. -/
theorem lower_cons {c : Char} (plain : lowerLetter c = [c]) (rest : List Char) :
    ∃ more, lower (c :: rest) = c :: more := by
  have other : c ≠ 'Σ' := by
    rintro rfl
    exact absurd plain (by decide)
  exact ⟨_, by rw [lower, lowerFrom, if_neg other, plain]; rfl⟩

end Text

namespace Value

/-- The ways in which a text is read as a value that is no text. -/
inductive Reading where
  | vec3
  | vec2
  | number
  | boolean
  deriving DecidableEq, Repr

namespace Reading

/-- The value that a text is read as, if it can be read in a way. -/
def value? : Reading → String → Option Value
  | vec3, s => (asVec3 (.text s)).map .vec3
  | vec2, s => (asVec2 (.text s)).map .vec2
  | number, s =>
    match asNumber (.text s) with
    | .ok x => x.map .float
    | .error _ => none
  | boolean, s => (asBoolean (.text s)).map .bool

/-- The ways in the order in which they are tried. -/
def all : List Reading := [vec3, vec2, number, boolean]

end Reading

/-- The value of a text, if the ways of reading it are tried in an order. -/
def castBy (order : List Reading) (s : String) : Value :=
  if s = "null" then absent else (order.findSome? fun r => r.value? s).getD (text s)

/-- The texts of vectors: parts that are numbers, divided by commas, in parentheses. -/
def Tuple (size : Nat) (cs : List Char) : Prop :=
  ∃ parts : List (List Char), parts.length = size ∧
    (∀ part ∈ parts, ',' ∉ part ∧ (Reading.number.value? (String.ofList part)).isSome) ∧
    cs = '(' :: ([','].intercalate parts ++ [')'])

open Number (Numeral)

section Languages

theorem number_isSome (s : String) :
    (Reading.number.value? s).isSome = (Number.read? s.toList).isSome := by
  simp [Reading.value?, asNumber]

theorem number_isSome_iff (s : String) :
    (Reading.number.value? s).isSome ↔ Numeral (Text.strip s.toList) := by
  rw [number_isSome, Number.read?_isSome_iff]

/-- The parentheses of a tuple are the first and last character. -/
theorem tuple?_eq_some {s : String} {xs : List Float} (tuple : tuple? s = some xs) :
    ∃ inside, Text.strip s.toList = '(' :: (inside ++ [')']) ∧
      (Text.splitOnChar ',' inside).mapM Number.read? = some xs := by
  unfold tuple? at tuple
  split at tuple
  · rename_i rest strip
    split at tuple
    · rename_i last
      obtain ⟨inside, rfl⟩ := List.getLast?_eq_some_iff.mp last
      rw [List.dropLast_concat] at tuple
      exact ⟨inside, strip, tuple⟩
    · cases tuple
  · cases tuple

theorem tuple?_of_strip {s : String} {inside : List Char}
    (strip : Text.strip s.toList = '(' :: (inside ++ [')'])) :
    tuple? s = (Text.splitOnChar ',' inside).mapM Number.read? := by
  simp [tuple?, strip]

/-- A text is read as numbers in parentheses if and only if it is a tuple between blanks. -/
theorem tuple?_iff (s : String) {size : Nat} (positive : 0 < size) :
    (∃ xs, tuple? s = some xs ∧ xs.length = size) ↔ Tuple size (Text.strip s.toList) := by
  constructor
  · rintro ⟨xs, tuple, length⟩
    obtain ⟨inside, strip, values⟩ := tuple?_eq_some tuple
    obtain ⟨-, without, whole⟩ := Text.splitOnChar_eq_iff.mp (rfl : Text.splitOnChar ',' inside = _)
    rw [List.mapM_eq_some_iff] at values
    refine ⟨Text.splitOnChar ',' inside, values.length_eq.trans length, fun part hp => ?_, ?_⟩
    · obtain ⟨x, -, value⟩ := List.exists_of_forall₂ values.flip hp
      refine ⟨without part hp, ?_⟩
      rw [number_isSome, String.toList_ofList]
      exact Option.isSome_of_eq_some value
    · rw [← whole, strip]
  · rintro ⟨parts, length, each, whole⟩
    have nonempty : parts ≠ [] := by
      rintro rfl
      rw [List.length_nil] at length
      omega
    have pieces : Text.splitOnChar ',' ([','].intercalate parts) = parts :=
      Text.splitOnChar_eq_iff.mpr ⟨nonempty, fun part hp => (each part hp).1, rfl⟩
    have numbers : ∀ part ∈ parts, (Number.read? part).isSome := by
      intro part hp
      have number := (each part hp).2
      rwa [number_isSome, String.toList_ofList] at number
    obtain ⟨xs, values⟩ := List.exists_mapM_eq_some numbers
    refine ⟨xs, ?_, ?_⟩
    · rw [tuple?_of_strip whole, pieces, values]
    · rw [List.mapM_eq_some_iff] at values
      rw [← values.length_eq, length]

theorem vec2_isSome_iff (s : String) :
    (Reading.vec2.value? s).isSome ↔ Tuple 2 (Text.strip s.toList) := by
  rw [← tuple?_iff s (by decide)]
  simp only [Reading.value?, asVec2, readVec2?, Option.isSome_map]
  constructor
  · intro isSome
    split at isSome
    · rename_i x y tuple
      exact ⟨_, tuple, rfl⟩
    · cases isSome
  · rintro ⟨xs, tuple, length⟩
    obtain ⟨x, y, rfl⟩ := List.length_eq_two.mp length
    rw [tuple]
    rfl

theorem vec3_isSome_iff (s : String) :
    (Reading.vec3.value? s).isSome ↔ Tuple 3 (Text.strip s.toList) := by
  rw [← tuple?_iff s (by decide)]
  simp only [Reading.value?, asVec3, readVec3?, Option.isSome_map]
  constructor
  · intro isSome
    split at isSome
    · rename_i x y z tuple
      exact ⟨_, tuple, rfl⟩
    · cases isSome
  · rintro ⟨xs, tuple, length⟩
    obtain ⟨x, y, z, rfl⟩ := List.length_eq_three.mp length
    rw [tuple]
    rfl

end Languages

section Apart

/-- The words for booleans begin with a small letter. -/
theorem boolean?_eq_none {s : String} {c : Char} {rest : List Char}
    (strip : Text.strip s.toList = c :: rest) (plain : Text.lowerLetter c = [c])
    (other : c.isLower = false) : boolean? s = none := by
  have letters : ∀ word ∈ trueWords ++ falseWords, word.toList.head?.all Char.isLower = true := by
    decide
  obtain ⟨more, lower⟩ := Text.lower_cons plain rest
  have without : String.ofList (c :: more) ∉ trueWords ++ falseWords := by
    intro word
    have lower := letters _ word
    rw [String.toList_ofList, List.head?_cons, Option.all_some, other] at lower
    cases lower
  rw [List.mem_append, not_or] at without
  simp only [boolean?, strip, lower, without, ↓reduceIte]

theorem isLower_digit {c : Char} (digit : Text.IsDigit c) : c.isLower = false := by
  obtain ⟨first, held, above, below⟩ := digit
  have wide := Text.zeroDigits_wide first held
  unfold Char.isLower
  simp only [ge_iff_le, UInt32.le_iff_toNat_le, Char.reduceVal, UInt32.reduceToNat,
    Char.toNat_val, Bool.and_eq_false_iff, decide_eq_false_iff_not]
  omega

/-- A number is no word for a boolean. -/
theorem boolean?_numeral {s : String} (numeral : Numeral (Text.strip s.toList)) :
    boolean? s = none := by
  rcases numeral.head with word | ⟨c, rest, strip, digit | sign⟩
  · have words : ∀ word ∈ ["NaN", "Infinity", "+Infinity", "-Infinity"],
        String.ofList (Text.lower word.toList) ∉ trueWords ++ falseWords := by
      decide
    have without := words _ word
    rw [String.toList_ofList, List.mem_append, not_or] at without
    simp only [boolean?, without, ↓reduceIte]
  · exact boolean?_eq_none strip (Text.lowerLetter_digit digit) (isLower_digit digit)
  · have plain : Text.lowerLetter c = [c] ∧ c.isLower = false := by
      simp only [List.mem_cons, List.not_mem_nil, or_false] at sign
      rcases sign with rfl | rfl | rfl <;> decide
    exact boolean?_eq_none strip plain.1 plain.2

/-- A tuple is no number. -/
theorem not_numeral_tuple {cs : List Char} {size : Nat} (tuple : Tuple size cs) : ¬Numeral cs := by
  obtain ⟨parts, -, -, rfl⟩ := tuple
  intro numeral
  rcases numeral.head with word | ⟨c, rest, same, first⟩
  · have starts : ∀ word ∈ ["NaN", "Infinity", "+Infinity", "-Infinity"],
        word.toList.head? ≠ some '(' := by
      decide
    exact starts _ word (by rw [String.toList_ofList]; rfl)
  · cases same
    exact absurd first (by decide)

/-- A text is a tuple of one size only. -/
theorem Tuple.size_eq {s : String} {m n : Nat} (one : Tuple m (Text.strip s.toList))
    (other : Tuple n (Text.strip s.toList)) (positive : 0 < m) (positive' : 0 < n) : m = n := by
  obtain ⟨xs, tuple, rfl⟩ := (tuple?_iff s positive).mpr one
  obtain ⟨ys, tuple', rfl⟩ := (tuple?_iff s positive').mpr other
  rw [tuple] at tuple'
  cases tuple'
  rfl

/-- A text is read in one way at most. -/
theorem Reading.apart (s : String) :
    all.Pairwise fun r q => ¬((r.value? s).isSome ∧ (q.value? s).isSome) := by
  have word (numeral : (Reading.boolean.value? s).isSome) : boolean? s ≠ none := by
    intro none'
    simp [value?, asBoolean, none'] at numeral
  have tupleWord {size : Nat} (tuple : Tuple size (Text.strip s.toList)) : boolean? s = none := by
    obtain ⟨parts, -, -, strip⟩ := tuple
    exact boolean?_eq_none strip (by decide) (by decide)
  simp only [all, List.pairwise_cons, List.mem_cons, List.not_mem_nil, or_false, forall_eq_or_imp,
    forall_eq, number_isSome_iff, vec2_isSome_iff, vec3_isSome_iff]
  refine ⟨⟨?_, ?_, ?_⟩, ⟨?_, ?_⟩, ?_, by simp, by simp⟩
  · rintro ⟨three, two⟩
    exact absurd (three.size_eq two (by decide) (by decide)) (by decide)
  · rintro ⟨three, numeral⟩
    exact not_numeral_tuple three numeral
  · rintro ⟨three, boolean⟩
    exact word boolean (tupleWord three)
  · rintro ⟨two, numeral⟩
    exact not_numeral_tuple two numeral
  · rintro ⟨two, boolean⟩
    exact word boolean (tupleWord two)
  · rintro ⟨numeral, boolean⟩
    exact word boolean (boolean?_numeral numeral)

theorem Reading.mem_all (r : Reading) : r ∈ all := by
  cases r <;> decide

theorem Reading.eq_of_isSome {s : String} {r q : Reading} (one : (r.value? s).isSome)
    (other : (q.value? s).isSome) : r = q := by
  have symmetric : Std.Symm fun r q : Reading => ¬((r.value? s).isSome ∧ (q.value? s).isSome) :=
    ⟨fun _ _ not => not ∘ And.symm⟩
  by_contra differ
  exact (apart s).forall (mem_all r) (mem_all q) differ ⟨one, other⟩

end Apart

section Order

theorem castBy_all (s : String) : castBy Reading.all s = autoCast s := by
  unfold castBy autoCast
  by_cases null : s = "null"
  · rw [if_pos null, if_pos null]
  rw [if_neg null, if_neg null]
  cases three : readVec3? s with
  | some v => simp [Reading.all, Reading.value?, asVec3, three]
  | none =>
  cases two : readVec2? s with
  | some v => simp [Reading.all, Reading.value?, asVec3, asVec2, three, two]
  | none =>
  cases number : Number.read? s.toList with
  | some x => simp [Reading.all, Reading.value?, asVec3, asVec2, asNumber, three, two, number]
  | none =>
  cases word : boolean? s <;>
    simp [Reading.all, Reading.value?, asVec3, asVec2, asNumber, asBoolean, three, two, number,
      word]

/-- The value of a text does not depend on the order in which the ways of reading it are tried. -/
theorem castBy_perm {order : List Reading} (perm : order.Perm Reading.all) (s : String) :
    castBy order s = autoCast s := by
  rw [← castBy_all, castBy, castBy,
    List.findSome?_perm perm fun _ _ _ _ one other => Reading.eq_of_isSome one other]

end Order

/-- **The languages of the readings.** A text is read in one way at most, and the text of an absent
value in none, so that every order of trying them gives the same value. Between blanks, a number is
a numeral, and a vector is a tuple of two or three numbers. -/
theorem readings_exact (s : String) :
    (∀ r q : Reading, (r.value? s).isSome → (q.value? s).isSome → r = q) ∧
    (∀ r : Reading, r.value? "null" = none) ∧
    (∀ order : List Reading, order.Perm Reading.all → castBy order s = autoCast s) ∧
    ((Reading.number.value? s).isSome ↔ Numeral (Text.strip s.toList)) ∧
    ((Reading.vec2.value? s).isSome ↔ Tuple 2 (Text.strip s.toList)) ∧
    ((Reading.vec3.value? s).isSome ↔ Tuple 3 (Text.strip s.toList)) := by
  refine ⟨fun _ _ => Reading.eq_of_isSome, ?_, fun order perm => castBy_perm perm s,
    number_isSome_iff s, vec2_isSome_iff s, vec3_isSome_iff s⟩
  intro r
  cases r <;> rfl

/-- A vector with a point but no places, a digit of another script and a wide blank. -/
def scriptText : String := "\t( 1. ,-۲e+3)\u3000"

theorem readings_exact_scriptText :
    (Reading.vec2.value? scriptText).isSome ∧
      (∀ q : Reading, (q.value? scriptText).isSome → Reading.vec2 = q) ∧
      castBy [.boolean, .number, .vec2, .vec3] scriptText = autoCast scriptText := by
  obtain ⟨apart, -, anyOrder, -⟩ := readings_exact scriptText
  have read : (Reading.vec2.value? scriptText).isSome := by decide +kernel
  have perm : List.Perm [.boolean, .number, .vec2, .vec3] Reading.all := by decide
  exact ⟨read, fun q other => apart .vec2 q read other, anyOrder _ perm⟩

end Value

end EventFlow
