import EventFlow.Text.Blank
import EventFlow.Text.Search

/-!
Texts that stripping leaves as they are, and the pieces of a text.
-/

namespace EventFlow.Text

section Strip

variable {c d : Char} {cs : List Char}

theorem stripEnd_concat (bare : isBlank c = false) (cs : List Char) :
    stripEnd (cs ++ [c]) = cs ++ [c] := by
  induction cs with
  | nil => simp [stripEnd, bare]
  | cons d cs ih =>
    rw [List.cons_append, stripEnd, ih]
    cases cs <;> rfl

/-- Blanks inside a text stay. -/
theorem strip_between (first : isBlank c = false) (last : isBlank d = false) (cs : List Char) :
    strip (c :: (cs ++ [d])) = c :: (cs ++ [d]) := by
  have start : (c :: (cs ++ [d])).dropWhile isBlank = c :: (cs ++ [d]) :=
    List.dropWhile_cons_of_neg (by simp [first])
  rw [strip, start]
  exact stripEnd_concat last (c :: cs)

theorem strip_blank (blank : isBlank c = true) (cs : List Char) : strip (c :: cs) = strip cs := by
  rw [strip, List.dropWhile_cons_of_pos blank, strip]

theorem strip_bare (bare : ∀ c ∈ cs, isBlank c = false) : strip cs = cs := by
  rcases List.eq_nil_or_concat cs with rfl | ⟨cs, last, rfl⟩
  · rfl
  rw [List.concat_eq_append] at bare ⊢
  have final := bare last (by simp)
  cases cs with
  | nil => simp [strip, stripEnd, final]
  | cons c cs => exact strip_between (bare c (by simp)) final cs

end Strip

section Split

variable {separator : Char} {piece : List Char}

theorem splitOnChar_single (without : separator ∉ piece) :
    splitOnChar separator piece = [piece] := by
  induction piece with
  | nil => rfl
  | cons c piece ih =>
    rw [List.mem_cons, not_or] at without
    obtain ⟨other, others⟩ := without
    rw [splitOnChar, if_neg (Ne.symm other), ih others]

theorem splitOnChar_append (without : separator ∉ piece) (rest : List Char) :
    splitOnChar separator (piece ++ separator :: rest) = piece :: splitOnChar separator rest := by
  induction piece with
  | nil => simp [splitOnChar]
  | cons c piece ih =>
    rw [List.mem_cons, not_or] at without
    obtain ⟨other, others⟩ := without
    rw [List.cons_append, splitOnChar, if_neg (Ne.symm other), ih others]

theorem splitOnChar_ne_nil (separator : Char) (cs : List Char) : splitOnChar separator cs ≠ [] := by
  cases cs with
  | nil => nofun
  | cons c cs =>
    rw [splitOnChar]
    split
    · nofun
    · split <;> nofun

/-- What is in a piece is in the text. -/
theorem mem_of_mem_piece {x : Char} {cs : List Char} (member : piece ∈ splitOnChar separator cs)
    (inner : x ∈ piece) : x ∈ cs := by
  fun_induction splitOnChar separator cs generalizing piece with
  | case1 => simp_all
  | case2 rest ih =>
    obtain rfl | later := List.mem_cons.mp member
    · cases inner
    · exact List.mem_cons_of_mem _ (ih later inner)
  | case3 c rest other none' ih => exact absurd none' (splitOnChar_ne_nil separator rest)
  | case4 c rest other first pieces split ih =>
    obtain rfl | later := List.mem_cons.mp member
    · obtain rfl | inner := List.mem_cons.mp inner
      · exact List.mem_cons_self
      · exact List.mem_cons_of_mem _ (ih (split ▸ List.mem_cons_self) inner)
    · exact List.mem_cons_of_mem _ (ih (split ▸ List.mem_cons_of_mem _ later) inner)

/-- No separator is in a piece. -/
theorem not_mem_piece {cs : List Char} (member : piece ∈ splitOnChar separator cs) :
    separator ∉ piece := by
  fun_induction splitOnChar separator cs generalizing piece with
  | case1 => simp_all
  | case2 rest ih =>
    obtain rfl | later := List.mem_cons.mp member
    · exact List.not_mem_nil
    · exact ih later
  | case3 c rest other none' ih => exact absurd none' (splitOnChar_ne_nil separator rest)
  | case4 c rest other first pieces split ih =>
    obtain rfl | later := List.mem_cons.mp member
    · rw [List.mem_cons, not_or]
      exact ⟨Ne.symm other, ih (split ▸ List.mem_cons_self)⟩
    · exact ih (split ▸ List.mem_cons_of_mem _ later)

theorem splitOnChar_eq_splitOn (separator : Char) (cs : List Char) :
    splitOnChar separator cs = cs.splitOn separator := by
  induction cs with
  | nil => rfl
  | cons c cs ih =>
    rw [List.splitOn, List.splitOnP_cons_eq_if_modifyHead, ← List.splitOn, ← ih, splitOnChar]
    simp only [beq_iff_eq]
    cases split : splitOnChar separator cs with
    | nil => exact absurd split (splitOnChar_ne_nil separator cs)
    | cons piece pieces => rfl

/-- The pieces of a text are what it consists of between separators. -/
theorem splitOnChar_eq_iff {cs : List Char} {pieces : List (List Char)} :
    splitOnChar separator cs = pieces ↔
      pieces ≠ [] ∧ (∀ piece ∈ pieces, separator ∉ piece) ∧
        cs = [separator].intercalate pieces := by
  constructor
  · rintro rfl
    refine ⟨splitOnChar_ne_nil separator cs, fun piece => not_mem_piece, ?_⟩
    rw [splitOnChar_eq_splitOn, List.intercalate_splitOn]
  · rintro ⟨nonempty, without, rfl⟩
    rw [splitOnChar_eq_splitOn]
    exact List.splitOn_intercalate separator without nonempty

/-- A text with the separator in it has a first piece and others. -/
theorem splitOnChar_divided {cs : List Char} (divided : separator ∈ cs) :
    ∃ first second rest,
      separator ∉ first ∧ splitOnChar separator cs = first :: second :: rest := by
  obtain ⟨first, after, rfl, without⟩ := List.eq_append_cons_of_mem divided
  obtain ⟨second, rest, others⟩ := List.exists_cons_of_ne_nil (splitOnChar_ne_nil separator after)
  exact ⟨first, second, rest, without, by rw [splitOnChar_append without, others]⟩

end Split

end EventFlow.Text
