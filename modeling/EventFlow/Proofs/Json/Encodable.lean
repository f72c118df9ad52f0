import EventFlow.Json.Printer
import Mathlib.Data.List.TakeWhile

/-!
Which JSON values can be sent as bytes: those without half of a pair in any text, key or not.

* `mem_leaves_array`, `mem_leaves_object`: what a value consists of;
* `encodingFault?_eq_none_iff`: a text has no fault if it has no half of a pair;
* `writingFault?_eq_none_iff`: neither has a value if none of its texts has one.
-/

namespace EventFlow

namespace Text

theorem halfPair?_low {x : Char} (low : x.toNat < 0x80) : Text.halfPair? x = none := by
  unfold Text.halfPair?
  rw [if_neg]
  simp only [Bool.and_eq_true, decide_eq_true_eq]
  omega

/-- A text of ASCII characters has no half of a pair. -/
theorem halfPair?_ascii {s : String} (ascii : s.toList.all (fun c => c.toNat < 0x80) = true) :
    ∀ c ∈ s.toList, Text.halfPair? c = none :=
  fun c member => halfPair?_low (of_decide_eq_true (List.all_eq_true.mp ascii c member))

end Text

namespace Json

variable {leaf : Json}

theorem mem_leaves_array {xs : List Json} :
    leaf ∈ (array xs).leaves ↔ ∃ x ∈ xs, leaf ∈ x.leaves := by
  rw [leaves]
  induction xs with
  | nil => simp [itemLeaves]
  | cons x xs ih => simp [itemLeaves, ih]

theorem mem_leaves_object {ms : List (String × Json)} :
    leaf ∈ (object ms).leaves ↔ ∃ m ∈ ms, leaf = .text m.1 ∨ leaf ∈ m.2.leaves := by
  rw [leaves]
  induction ms with
  | nil => simp [memberLeaves]
  | cons m ms ih => simp [memberLeaves, ih, or_assoc]

/-- A text has no fault if it has no half of a pair. -/
theorem encodingFault?_eq_none_iff {cs : List Char} :
    encodingFault? cs = none ↔ ∀ c ∈ cs, Text.halfPair? c = none := by
  have rest : cs.dropWhile (fun c => !(Text.halfPair? c).isSome) = [] ↔
      ∀ c ∈ cs, Text.halfPair? c = none := by
    rw [List.dropWhile_eq_nil_iff]
    simp
  rw [← rest]
  unfold encodingFault?
  dsimp only
  split
  · rename_i empty
    exact iff_of_true rfl empty
  · rename_i found
    rw [found]
    exact iff_of_false nofun nofun

theorem writingFault?_eq_none_iff {j : Json} :
    j.writingFault? = none ↔ ∀ s, .text s ∈ j.leaves → ∀ c ∈ s.toList, Text.halfPair? c = none := by
  unfold writingFault?
  rw [Option.map_eq_none_iff, List.findSome?_eq_none_iff]
  constructor
  · intro fine s member
    exact encodingFault?_eq_none_iff.mp (fine (.text s) member)
  · intro fine leaf member
    cases leaf with
    | text s => exact encodingFault?_eq_none_iff.mpr (fine s member)
    | null | bool | int | float | array | object => rfl

@[simp] theorem writingFault?_int (n : Int) : (int n).writingFault? = none := rfl

@[simp] theorem writingFault?_text {s : String} :
    (text s).writingFault? = none ↔ ∀ c ∈ s.toList, Text.halfPair? c = none := by
  simp [writingFault?_eq_none_iff, leaves]

@[simp] theorem writingFault?_array {xs : List Json} :
    (array xs).writingFault? = none ↔ ∀ x ∈ xs, x.writingFault? = none := by
  simp only [writingFault?_eq_none_iff, mem_leaves_array]
  constructor
  · exact fun all x member s inner => all s ⟨x, member, inner⟩
  · rintro all s ⟨x, member, inner⟩
    exact all x member s inner

@[simp] theorem writingFault?_object {ms : List (String × Json)} :
    (object ms).writingFault? = none ↔
      ∀ m ∈ ms, (∀ c ∈ m.1.toList, Text.halfPair? c = none) ∧ m.2.writingFault? = none := by
  simp only [writingFault?_eq_none_iff, mem_leaves_object]
  constructor
  · exact fun all m member =>
      ⟨all m.1 ⟨m, member, .inl rfl⟩, fun s inner => all s ⟨m, member, .inr inner⟩⟩
  · rintro all s ⟨m, member, key | inner⟩
    · cases key
      exact (all m member).1
    · exact (all m member).2 s inner

/-- An object under keys of ASCII characters. -/
theorem writingFault?_members {ms : List (String × Json)} (keys : List String)
    (under : ms.map Prod.fst = keys)
    (ascii : keys.all (fun key => key.toList.all fun c => c.toNat < 0x80) = true) :
    (object ms).writingFault? = none ↔ ∀ m ∈ ms, m.2.writingFault? = none := by
  rw [writingFault?_object]
  have whole (m : String × Json) (member : m ∈ ms) : ∀ c ∈ m.1.toList, Text.halfPair? c = none :=
    Text.halfPair?_ascii (List.all_eq_true.mp ascii m.1 (under ▸ List.mem_map_of_mem member))
  exact ⟨fun all m member => (all m member).2, fun all m member => ⟨whole m member, all m member⟩⟩

end Json

end EventFlow
