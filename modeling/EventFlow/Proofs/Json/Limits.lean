import EventFlow.Proofs.Json.RoundTrip
import EventFlow.Proofs.Traverse

/-!
No integer that is read is too long to be written and read again.

* `read_brief`: this holds of all integers inside a value that a text gives.
-/

namespace EventFlow

theorem brief_ofDigits {ds : List Nat} (digits : ∀ d ∈ ds, d < 10)
    (short : ¬Text.digitLimit < ds.length) (negative : Bool) :
    Brief (if negative then -(Text.ofDigits ds : Int) else Text.ofDigits ds) := by
  have bound : Text.ofDigits ds < 10 ^ Text.digitLimit :=
    Nat.lt_of_lt_of_le (Text.ofDigits_lt digits)
      (Nat.pow_le_pow_right (by decide) (Nat.le_of_not_lt short))
  have same : (if negative then -(Text.ofDigits ds : Int) else Text.ofDigits ds).natAbs =
      Text.ofDigits ds := by
    cases negative with
    | false => exact Int.natAbs_natCast _
    | true => exact (Int.natAbs_neg _).trans (Int.natAbs_natCast _)
  rw [brief_iff, same]
  exact bound

namespace Json

variable {rules : Rules} {j : Json} {cs rest : List Char}

theorem number_brief {negative : Bool} {whole : List Nat} {places : Option (List Nat)}
    {exponent : Option Int} (digits : ∀ d ∈ whole, d < 10)
    (h : number rules negative whole places exponent = .ok j) : j.brief = true := by
  unfold number at h
  simp only at h
  split at h
  · cases h
  · rename_i short
    split at h
    · rename_i integer
      rw [integer, Bool.true_or, Bool.true_and, decide_eq_true_eq] at short
      cases h
      rw [brief_int]
      exact brief_ofDigits digits short negative
    · cases h
      rfl

theorem unsigned_brief {negative : Bool} (h : unsigned rules negative cs = .ok (j, rest)) :
    j.brief = true := by
  have digits := Text.takeDecimals_lt cs
  unfold unsigned at h
  split at h
  · cases h
  · cases h
  · rename_i whole after _ _ taken
    rw [taken] at digits
    simp only at h
    obtain ⟨x, made, same⟩ := Except.exists_of_map_eq_ok h
    cases same
    exact number_brief digits made

theorem scalar_brief (h : scalar rules cs = .ok (j, rest)) : j.brief = true := by
  unfold scalar at h
  split at h
  case h_7 => exact unsigned_brief h
  case h_8 => exact unsigned_brief h
  all_goals
    cases h
    rfl

theorem put_brief {ms : List (String × Json)} (before : ∀ m ∈ ms, m.2.brief = true) (key : String)
    (value : j.brief = true) : ∀ m ∈ put ms key j, m.2.brief = true := by
  induction ms with
  | nil => simpa [put] using value
  | cons m ms ih =>
    have first := before m List.mem_cons_self
    have others := ih fun m hm => before m (List.mem_cons_of_mem _ hm)
    unfold put
    split
    · rw [List.forall_mem_cons]
      exact ⟨value, fun m hm => before m (List.mem_cons_of_mem _ hm)⟩
    · rw [List.forall_mem_cons]
      exact ⟨first, others⟩

/-- What the three parts of the reader give with one amount of fuel. -/
structure GivesBrief (rules : Rules) (fuel : Nat) : Prop where
  value : ∀ {depth cs x rest}, value rules fuel depth cs = .ok (x, rest) → x.brief = true
  items : ∀ {depth cs xs rest}, items rules fuel depth cs = .ok (xs, rest) →
    ∀ x ∈ xs, x.brief = true
  members : ∀ {depth before cs ms rest}, (∀ m ∈ before, m.2.brief = true) →
    members rules fuel depth before cs = .ok (ms, rest) → ∀ m ∈ ms, m.2.brief = true

namespace GivesBrief

variable {fuel depth : Nat} (ih : GivesBrief rules fuel)
include ih

theorem value_succ (h : Json.value rules (fuel + 1) depth cs = .ok (j, rest)) : j.brief = true := by
  unfold Json.value at h
  split at h
  · split at h
    · cases h
      rfl
    · cases h
  · split at h
    · cases h
      rfl
    · cases h
    · obtain ⟨parts, made, same⟩ := Except.exists_of_map_eq_ok h
      cases same
      rw [brief_array, List.all_eq_true]
      exact ih.items made
  · split at h
    · cases h
      rfl
    · cases h
    · obtain ⟨parts, made, same⟩ := Except.exists_of_map_eq_ok h
      cases same
      rw [brief_object, List.all_eq_true]
      exact ih.members (by simp) made
  · exact scalar_brief h

theorem items_succ {xs : List Json} (h : Json.items rules (fuel + 1) depth cs = .ok (xs, rest)) :
    ∀ x ∈ xs, x.brief = true := by
  unfold Json.items at h
  split at h
  · cases h
  · rename_i made
    have first := ih.value made
    split at h
    · cases h
      simpa using first
    · obtain ⟨parts, others, same⟩ := Except.exists_of_map_eq_ok h
      cases same
      rw [List.forall_mem_cons]
      exact ⟨first, ih.items others⟩
    · cases h

theorem members_succ {before ms : List (String × Json)} (known : ∀ m ∈ before, m.2.brief = true)
    (h : Json.members rules (fuel + 1) depth before cs = .ok (ms, rest)) :
    ∀ m ∈ ms, m.2.brief = true := by
  unfold Json.members at h
  split at h
  · split at h
    · cases h
    · split at h
      · split at h
        · cases h
        · rename_i made
          have first := ih.value made
          split at h
          · cases h
            exact put_brief known _ first
          · exact ih.members (put_brief known _ first) h
          · cases h
      · cases h
  · cases h

end GivesBrief

theorem givesBrief (rules : Rules) (fuel : Nat) : GivesBrief rules fuel := by
  induction fuel with
  | zero =>
    refine ⟨?_, ?_, ?_⟩
    · intro depth cs x rest h
      unfold value at h
      cases h
    · intro depth cs xs rest h
      unfold items at h
      cases h
    · intro depth before cs ms rest _ h
      unfold members at h
      cases h
  | succ fuel ih => exact ⟨ih.value_succ, ih.items_succ, ih.members_succ⟩

/-- No integer inside a value that is read is too long. -/
theorem read_brief (h : read rules cs = .ok j) : j.brief = true := by
  unfold read at h
  split at h
  · cases h
  · rename_i made
    split at h
    · cases h
      exact (givesBrief rules _).value made
    · cases h

end Json

end EventFlow
