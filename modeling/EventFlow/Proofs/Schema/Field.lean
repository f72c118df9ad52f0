import EventFlow.Proofs.Json.Limits
import EventFlow.Schema.Field

/-!
What the checks of fields accept, and what they give for it.

* `both_eq_ok`, `all_eq_ok`, `optional_eq_ok`: a check made of others succeeds as they do;
* `nonEmptyString_eq_ok`, `natural_eq_ok`: what a text and a natural number have to be;
* `integer_brief`: no integer that a check gives is too long.
-/

namespace EventFlow.Schema

namespace Check

variable {α β : Type}

theorem under_eq_ok {key : Key} {check : Check α} {a : α} :
    under key check = .ok a ↔ check = .ok a := by
  cases check with
  | error issues => simp [under, Except.mapError]
  | ok b => exact Iff.rfl

theorem both_eq_ok {a : Check α} {b : Check β} {p : α × β} :
    both a b = .ok p ↔ a = .ok p.1 ∧ b = .ok p.2 := by
  obtain ⟨x, y⟩ := p
  cases a <;> cases b <;> simp [both]

theorem map_eq_ok {f : α → β} {check : Check α} {b : β} :
    check.map f = .ok b ↔ ∃ a, check = .ok a ∧ f a = b := by
  constructor
  · exact Except.exists_of_map_eq_ok
  · rintro ⟨a, rfl, rfl⟩
    rfl

theorem all_eq_ok {check : α → Check β} {index : Nat} {xs : List α} {ys : List β} :
    all check index xs = .ok ys ↔ List.Forall₂ (fun x y => check x = .ok y) xs ys := by
  induction xs generalizing index ys with
  | nil =>
    rw [List.forall₂_nil_left_iff]
    exact ⟨fun h => (Except.ok.inj h).symm, fun h => by rw [h]; rfl⟩
  | cons x xs ih =>
    rw [List.forall₂_cons_left_iff, all, map_eq_ok]
    simp only [both_eq_ok, under_eq_ok, ih]
    constructor
    · rintro ⟨⟨y, ys⟩, ⟨first, others⟩, rfl⟩
      exact ⟨y, ys, first, others, rfl⟩
    · rintro ⟨y, ys, first, others, rfl⟩
      exact ⟨(y, ys), ⟨first, others⟩, rfl⟩

theorem entries_eq_ok {check : α → Check β} {xs : List (String × α)} {ys : List (String × β)} :
    entries check xs = .ok ys ↔
      List.Forall₂ (fun x y => check x.2 = .ok y.2 ∧ x.1 = y.1) xs ys := by
  induction xs generalizing ys with
  | nil =>
    rw [List.forall₂_nil_left_iff]
    exact ⟨fun h => (Except.ok.inj h).symm, fun h => by rw [h]; rfl⟩
  | cons x xs ih =>
    obtain ⟨key, x⟩ := x
    rw [List.forall₂_cons_left_iff, entries, map_eq_ok]
    simp only [both_eq_ok, under_eq_ok, ih]
    constructor
    · rintro ⟨⟨y, ys⟩, ⟨first, others⟩, rfl⟩
      exact ⟨(key, y), ys, ⟨first, rfl⟩, others, rfl⟩
    · rintro ⟨⟨_, y⟩, ys, ⟨first, rfl⟩, others, rfl⟩
      exact ⟨(y, ys), ⟨first, others⟩, rfl⟩

end Check

section Fields

variable {α : Type} {check : Json → Check α} {key : String}

theorem required_eq_ok {object : Json} {a : α} :
    required object key check = .ok a ↔
      ∃ json, object.get? key = some json ∧ check json = .ok a := by
  unfold required
  rw [Check.under_eq_ok]
  cases object.get? key with
  | none => simp [Check.fail]
  | some json => simp

/-- What an optional field gives is its default or what the check gives. -/
theorem optional_eq_ok {default a : α} {value : Option Json} :
    optional key check default value = .ok a ↔
      (value = none ∧ a = default) ∨ ∃ json, value = some json ∧ check json = .ok a := by
  cases value with
  | none => simp [optional, eq_comm]
  | some json => simp [optional, Check.under_eq_ok]

theorem list_eq_ok {json : Json} {as : List α} :
    list check json = .ok as ↔
      ∃ items, json = .array items ∧ List.Forall₂ (fun x a => check x = .ok a) items as := by
  cases json <;> simp [list, Check.all_eq_ok, Check.fail]

theorem dictionary_eq_ok {json : Json} {as : List (String × α)} :
    dictionary check json = .ok as ↔ ∃ members, json = .object members ∧
      List.Forall₂ (fun x a => check x.2 = .ok a.2 ∧ x.1 = a.1) members as := by
  cases json <;> simp [dictionary, Check.entries_eq_ok, Check.fail]

theorem nullable_eq_ok {json : Json} {a : Option α} (h : nullable check json = .ok a) :
    (json = .null ∧ a = none) ∨ ∃ b, check json = .ok b ∧ a = some b := by
  unfold nullable at h
  split at h
  · exact Or.inl ⟨rfl, (Except.ok.inj h).symm⟩
  · obtain ⟨b, passes, rfl⟩ := Except.exists_of_map_eq_ok h
    exact Or.inr ⟨b, passes, rfl⟩

end Fields

section Texts

variable {json : Json} {s t : String}

theorem whole_eq_ok :
    whole s = .ok t ↔ s = t ∧ ∀ c ∈ s.toList, Text.halfPair? c = none := by
  unfold whole
  by_cases half : (s.toList.any fun c => (Text.halfPair? c).isSome) = true
  · rw [if_pos half]
    obtain ⟨c, hc, unit⟩ := List.any_eq_true.mp half
    constructor
    · intro h
      cases h
    · rintro ⟨-, none'⟩
      rw [none' c hc] at unit
      cases unit
  · rw [if_neg half, Except.ok.injEq, iff_self_and]
    intro _ c hc
    rw [Bool.not_eq_true, List.any_eq_false] at half
    simpa using half c hc

theorem nonEmptyString_eq_ok :
    nonEmptyString json = .ok s ↔
      json = .text s ∧ s ≠ "" ∧ ∀ c ∈ s.toList, Text.halfPair? c = none := by
  constructor
  · intro h
    unfold nonEmptyString at h
    split at h
    · rename_i given
      cases passes : whole given with
      | error issues => rw [passes] at h; cases h
      | ok same =>
        obtain ⟨rfl, complete⟩ := whole_eq_ok.mp passes
        rw [passes] at h
        change (if given = "" then _ else _) = _ at h
        split at h
        · cases h
        · rename_i nonempty
          cases h
          exact ⟨rfl, nonempty, complete⟩
    · cases h
  · rintro ⟨rfl, nonempty, complete⟩
    have passes : whole s = .ok s := whole_eq_ok.mpr ⟨rfl, complete⟩
    simp only [nonEmptyString, passes]
    change (if s = "" then _ else _) = _
    rw [if_neg nonempty]

end Texts

section Integers

variable {json : Json} {n : Int}

theorem natural_eq_ok : natural json = .ok n ↔ integer json = .ok n ∧ 0 ≤ n := by
  unfold natural
  cases passes : integer json with
  | error issues =>
    constructor
    · intro h
      cases h
    · rintro ⟨h, -⟩
      cases h
  | ok m =>
    change (if m < 0 then _ else _) = _ ↔ _
    rw [Except.ok.injEq]
    split
    · constructor
      · intro h
        cases h
      · rintro ⟨rfl, h⟩
        omega
    · rw [Except.ok.injEq, iff_self_and]
      omega

theorem integerFloat_brief {x : Float} (h : integerFloat x = .ok n) : Brief n := by
  unfold integerFloat at h
  split at h
  · cases h
  · simp only at h
    split at h
    · cases h
    · split at h
      · rename_i bound
        cases h
        apply brief_of_natAbs_le
        have limit : wholeLimit ≤ 2 ^ 64 := by decide
        omega
      · cases h

theorem plain?_brief {cs : List Char} (h : plain? cs = some n) : Brief n := by
  unfold plain? isTooLong at h
  cases taken : plainDigits? cs with
  | none =>
    rw [taken] at h
    cases h
  | some parts =>
    obtain ⟨negative, ds, rest⟩ := parts
    have digits : ∀ d ∈ ds, d < 10 := by
      unfold plainDigits? at taken
      simp only at taken
      split at taken
      · cases taken
      · cases taken
      · rename_i decimals
        cases taken
        have digits := Text.takeDecimals_lt (takeMinus cs).2
        rwa [decimals] at digits
    rw [taken] at h
    simp only at h
    split at h
    · cases h
    · rename_i short
      rw [decide_eq_true_eq] at short
      split at h
      · rename_i same
        cases same
        cases h
        exact brief_ofDigits digits short negative
      · cases h

theorem integerText_brief {s : String} (h : integerText s = .ok n) : Brief n := by
  unfold integerText at h
  simp only at h
  split at h
  · cases h
  · split at h
    · rename_i found
      cases h
      rcases Option.or_eq_some_iff.mp found with plain | ⟨-, cleaned⟩
      · exact plain?_brief plain
      · obtain ⟨cs, -, plain⟩ := Option.bind_eq_some_iff.mp cleaned
        exact plain?_brief plain
    · cases h

/-- No integer that a check gives is too long, where none that it is given is. -/
theorem integer_brief (brief : json.brief = true) (h : integer json = .ok n) : Brief n := by
  cases json with
  | int m =>
    cases h
    exact (Json.brief_int n).mp brief
  | bool b =>
    apply brief_of_natAbs_le
    cases h
    cases b <;> decide
  | float x => exact integerFloat_brief h
  | text s =>
    cases passes : whole s with
    | error issues =>
      simp only [integer, passes] at h
      cases h
    | ok t =>
      simp only [integer, passes] at h
      exact integerText_brief h
  | null => cases h
  | array items => cases h
  | object members => cases h

end Integers

end EventFlow.Schema
