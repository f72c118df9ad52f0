import EventFlow.Proofs.Traverse
import EventFlow.Value.Wire
import Mathlib.Algebra.Order.Ring.Int

/-!
What the host can put into words.

* `ofInt_eq_ok_iff`, `format_eq_ok_iff`: an integer and a value, if they have not too many digits;
* `all_eq_ok_iff`: a list of texts, if each of them comes about;
* `not_brief_limit`: the least integer that has too many digits.
-/

namespace EventFlow

variable {n : Int} {s : String}

theorem brief_iff : Brief n ↔ n.natAbs < 10 ^ Text.digitLimit := by
  unfold Brief Text.digitBound
  generalize Text.digitLimit = limit
  exact Iff.rfl

theorem brief_of_natAbs_le (small : n.natAbs ≤ 2 ^ 64) : Brief n := by
  have limit : 2 ^ 64 < 10 ^ Text.digitLimit :=
    calc 2 ^ 64 < 10 ^ 64 := Nat.pow_lt_pow_left (by decide) (by decide)
      _ ≤ 10 ^ Text.digitLimit := Nat.pow_le_pow_right (by decide) (by decide)
  exact brief_iff.mpr (Nat.lt_of_le_of_lt small limit)

theorem not_brief_limit : ¬Brief (10 ^ Text.digitLimit) := by
  have ten : (10 : Int).natAbs = 10 := rfl
  rw [brief_iff, Int.natAbs_pow, ten]
  exact Nat.lt_irrefl _

theorem brief_neg : Brief (-n) ↔ Brief n := by
  rw [brief_iff, brief_iff, Int.natAbs_neg]

/-- The greatest integer of too many digits that is below zero. -/
theorem long_neg_limit : ¬Brief (-10 ^ Text.digitLimit) ∧ (-10 ^ Text.digitLimit : Int) < 0 :=
  ⟨fun brief => not_brief_limit (brief_neg.mp brief),
    Int.neg_neg_of_pos (Int.pow_pos (by decide))⟩

namespace Text

theorem ofInt_eq_ok_iff : ofInt n = .ok s ↔ Brief n ∧ s = decimal n := by
  unfold ofInt
  split
  · rename_i brief
    simp [brief, eq_comm]
  · rename_i long
    simp [long]

theorem ofInt_brief (brief : Brief n) : ofInt n = .ok (decimal n) :=
  ofInt_eq_ok_iff.mpr ⟨brief, rfl⟩

theorem ofInt_long (long : ¬Brief n) : ofInt n = .error .tooManyDigits :=
  if_neg long

/-- Words with an integer in them fail for its digits only. -/
theorem not_brief_of_map {α : Type} {words : String → α} {error : TextError}
    (failed : (ofInt n).map words = .error error) : ¬Brief n := by
  intro brief
  rw [ofInt_brief brief] at failed
  cases failed

end Text

theorem Worded.all_eq_ok_iff {texts : List (Worded String)} {shown : List String} :
    Worded.all texts = .ok shown ↔ texts = shown.map .ok := by
  unfold Worded.all
  rw [List.mapM_eq_ok_iff]
  constructor
  · intro each
    induction each with
    | nil => rfl
    | cons first others ih => exact congrArg₂ _ first ih
  · rintro rfl
    rw [List.forall₂_map_left_iff]
    exact List.forall₂_same.mpr fun _ _ => rfl

namespace Value

variable {v : Value}

theorem format_eq_ok_iff : v.format = .ok s ↔ v.isBrief = true ∧ s = v.wire := by
  unfold format
  split
  · rename_i brief
    simp [brief, eq_comm]
  · rename_i long
    simp [long]

theorem format_brief (brief : v.isBrief = true) : v.format = .ok v.wire :=
  if_pos brief

theorem format_long (long : v.isBrief = false) : v.format = .error .tooManyDigits :=
  if_neg (by simp [long])

theorem isBrief_eq_false_iff : v.isBrief = false ↔ ∃ n, v = .int n ∧ ¬Brief n := by
  cases v <;> simp [isBrief]

end Value

end EventFlow
