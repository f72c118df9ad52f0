import EventFlow.Proofs.Number.Notation
import EventFlow.Value.Wire

/-!
What the text form of a value stands for.

* `autoCast_number`, `autoCast_vec2`, `autoCast_vec3`: numbers and vectors of numbers are read back;
* `autoCast_wire`: a value that was read from a text is read back from its own text.
-/

namespace EventFlow.Value

open Number (chars read? Bare)

theorem text_toList (x : Float) : (Number.text x).toList = chars x :=
  String.toList_ofList

section Tuples

theorem tuple?_parentheses (inside : List Char) :
    tuple? (String.ofList ('(' :: (inside ++ [')']))) =
      (Text.splitOnChar ',' inside).mapM read? := by
  have strip : Text.strip ('(' :: (inside ++ [')'])) = '(' :: (inside ++ [')']) :=
    Text.strip_between rfl rfl inside
  simp [tuple?, strip]

theorem read?_blank (cs : List Char) : read? (' ' :: cs) = read? cs := by
  have blank : Text.strip (' ' :: cs) = Text.strip cs := Text.strip_blank rfl cs
  simp only [read?, blank]

theorem comma_not_mem (x : Float) : ',' ∉ chars x :=
  fun h => (Number.chars_bare x ',' h).2.1 rfl

theorem comma_not_mem_blank (x : Float) : ',' ∉ ' ' :: chars x := by
  rw [List.mem_cons, not_or]
  exact ⟨by decide, comma_not_mem x⟩

theorem tuple?_vec2 (x y : Float) : tuple? (Vec2.text ⟨x, y⟩) = some [x, y] := by
  have text :
      Vec2.text ⟨x, y⟩ = String.ofList ('(' :: (chars x ++ ',' :: ' ' :: chars y ++ [')'])) := by
    apply String.toList_injective
    simp [Vec2.text, text_toList, Scalar.toFloat]
  rw [text, tuple?_parentheses, Text.splitOnChar_append (comma_not_mem x),
    Text.splitOnChar_single (comma_not_mem_blank y)]
  simp [read?_blank, Number.read?_chars]

theorem tuple?_vec3 (x y z : Float) : tuple? (Vec3.text ⟨x, y, z⟩) = some [x, y, z] := by
  have text : Vec3.text ⟨x, y, z⟩ = String.ofList
      ('(' :: (chars x ++ ',' :: (' ' :: chars y ++ ',' :: ' ' :: chars z) ++ [')'])) := by
    apply String.toList_injective
    simp [Vec3.text, text_toList, Scalar.toFloat]
  rw [text, tuple?_parentheses, Text.splitOnChar_append (comma_not_mem x),
    Text.splitOnChar_append (comma_not_mem_blank y),
    Text.splitOnChar_single (comma_not_mem_blank z)]
  simp [read?_blank, Number.read?_chars]

theorem ne_null {s : String} {parts : List Float} (tuple : tuple? s = some parts) : s ≠ "null" := by
  rintro rfl
  have none' : tuple? "null" = none := rfl
  rw [none'] at tuple
  cases tuple

/-- The text of a number is no vector. -/
theorem tuple?_number (x : Float) : tuple? (Number.text x) = none := by
  have bare := Number.chars_bare x
  have strip : Text.strip (chars x) = chars x := Text.strip_bare fun c hc => (bare c hc).1
  unfold tuple?
  rw [text_toList, strip]
  split
  · rename_i rest same
    have open' : '(' ∈ chars x := by
      rw [same]
      exact List.mem_cons_self
    exact absurd rfl (bare '(' open').2.2
  · rfl

end Tuples

theorem autoCast_number (x : Float) : autoCast (Number.text x) = float x := by
  have number : read? (Number.text x).toList = some x := by
    rw [text_toList, Number.read?_chars]
  have other : Number.text x ≠ "null" := by
    intro same
    have none' : read? "null".toList = none := rfl
    rw [same, none'] at number
    cases number
  simp [autoCast, other, readVec3?, readVec2?, tuple?_number, number]

theorem autoCast_vec2 (x y : Float) : autoCast (Vec2.text ⟨x, y⟩) = vec2 ⟨x, y⟩ := by
  have tuple := tuple?_vec2 x y
  simp [autoCast, ne_null tuple, readVec3?, readVec2?, tuple]

theorem autoCast_vec3 (x y z : Float) : autoCast (Vec3.text ⟨x, y, z⟩) = vec3 ⟨x, y, z⟩ := by
  have tuple := tuple?_vec3 x y z
  simp [autoCast, ne_null tuple, readVec3?, tuple]

theorem autoCast_bool (b : Bool) : autoCast (bool b).wire = bool b := by
  cases b <;> rfl

/-- A value that was read from a text is read back from its own text. -/
theorem autoCast_wire (s : String) : autoCast (autoCast s).wire = autoCast s := by
  by_cases null : s = "null"
  · rw [null]
    rfl
  cases spatial : readVec3? s with
  | some v =>
    have value : autoCast s = vec3 v := by simp [autoCast, null, spatial]
    unfold readVec3? at spatial
    split at spatial
    · cases spatial
      rw [value]
      exact autoCast_vec3 _ _ _
    · cases spatial
  | none =>
  cases flat : readVec2? s with
  | some v =>
    have value : autoCast s = vec2 v := by simp [autoCast, null, spatial, flat]
    unfold readVec2? at flat
    split at flat
    · cases flat
      rw [value]
      exact autoCast_vec2 _ _
    · cases flat
  | none =>
  cases number : read? s.toList with
  | some x =>
    have value : autoCast s = float x := by simp [autoCast, null, spatial, flat, number]
    rw [value]
    exact autoCast_number x
  | none =>
  cases word : boolean? s with
  | some b =>
    have value : autoCast s = bool b := by simp [autoCast, null, spatial, flat, number, word]
    rw [value]
    exact autoCast_bool b
  | none =>
    have value : autoCast s = text s := by simp [autoCast, null, spatial, flat, number, word]
    rw [value]
    exact value

/-- No text stands for an integer, so what was read can be put into words. -/
theorem isBrief_autoCast (s : String) : (autoCast s).isBrief = true := by
  unfold autoCast
  repeat' split
  all_goals rfl

end EventFlow.Value
