import Mathlib.Data.List.Forall2

/-!
Computations that may fail. Of a list of them all give a value, or the first that fails decides.
-/

theorem Except.exists_of_map_eq_ok {α β ε : Type} {f : α → β} {x : Except ε α} {b : β}
    (h : x.map f = .ok b) : ∃ a, x = .ok a ∧ f a = b := by
  cases x with
  | error e => cases h
  | ok a => exact ⟨a, rfl, Except.ok.inj h⟩

theorem Except.eq_ok_of_mapError {α ε δ : Type} {f : ε → δ} {x : Except ε α} {a : α}
    (h : x.mapError f = .ok a) : x = .ok a := by
  cases x with
  | error e => cases h
  | ok a => cases h; rfl

theorem Except.eq_ok_of_toOption {α ε : Type} {x : Except ε α} {a : α} (h : x.toOption = some a) :
    x = .ok a := by
  cases x with
  | error e => cases h
  | ok b => exact congrArg Except.ok (Option.some.inj h)

theorem Except.exists_map_eq_ok_iff {α β ε : Type} {f : α → β} {x : Except ε α} :
    (∃ b, x.map f = .ok b) ↔ ∃ a, x = .ok a := by
  constructor
  · rintro ⟨b, mapped⟩
    obtain ⟨a, same, -⟩ := Except.exists_of_map_eq_ok mapped
    exact ⟨a, same⟩
  · rintro ⟨a, rfl⟩
    exact ⟨f a, rfl⟩

theorem Except.ok_bind {α β ε : Type} (a : α) (f : α → Except ε β) :
    (Except.ok a >>= f) = f a :=
  rfl

theorem Except.exists_of_bind_eq_ok {α β ε : Type} {x : Except ε α} {f : α → Except ε β} {b : β}
    (h : x >>= f = .ok b) : ∃ a, x = .ok a ∧ f a = .ok b := by
  cases x with
  | error e => cases h
  | ok a => exact ⟨a, rfl, h⟩

theorem Except.bind_eq_ok_iff {α β ε : Type} {x : Except ε α} {f : α → Except ε β} {b : β} :
    x >>= f = .ok b ↔ ∃ a, x = .ok a ∧ f a = .ok b := by
  constructor
  · exact Except.exists_of_bind_eq_ok
  · rintro ⟨a, rfl, given⟩
    exact given

namespace List

variable {α β ε : Type}

theorem exists_of_forall₂ {R : α → β → Prop} {l : List α} {r : List β} (h : Forall₂ R l r) {b : β}
    (hb : b ∈ r) : ∃ a ∈ l, R a b := by
  induction h with
  | nil => cases hb
  | cons first others ih =>
    rcases mem_cons.mp hb with rfl | hb
    · exact ⟨_, mem_cons_self, first⟩
    · obtain ⟨a, ha, related⟩ := ih hb
      exact ⟨a, mem_cons_of_mem _ ha, related⟩

theorem mapM_eq_ok_iff (f : α → Except ε β) (l : List α) (r : List β) :
    l.mapM f = .ok r ↔ Forall₂ (fun a b => f a = .ok b) l r := by
  induction l generalizing r with
  | nil =>
    constructor
    · intro h
      cases h
      exact .nil
    · intro h
      cases h
      rfl
  | cons a l ih =>
    rw [mapM_cons]
    constructor
    · intro h
      cases first : f a with
      | error e => rw [first] at h; cases h
      | ok b =>
        cases others : l.mapM f with
        | error e => rw [first, others] at h; cases h
        | ok bs =>
          rw [first, others] at h
          cases h
          exact .cons first ((ih bs).mp others)
    · intro h
      cases h with
      | cons first others => rw [first, (ih _).mpr others]; rfl

theorem mapM_eq_some_iff (f : α → Option β) (l : List α) (r : List β) :
    l.mapM f = some r ↔ Forall₂ (fun a b => f a = some b) l r := by
  induction l generalizing r with
  | nil =>
    constructor
    · intro h
      cases h
      exact .nil
    · intro h
      cases h
      rfl
  | cons a l ih =>
    rw [mapM_cons]
    constructor
    · intro h
      cases first : f a with
      | none => rw [first] at h; cases h
      | some b =>
        cases others : l.mapM f with
        | none => rw [first, others] at h; cases h
        | some bs =>
          rw [first, others] at h
          cases h
          exact .cons first ((ih bs).mp others)
    · intro h
      cases h with
      | cons first others => rw [first, (ih _).mpr others]; rfl

theorem exists_mapM_eq_some {f : α → Option β} {l : List α} (each : ∀ a ∈ l, (f a).isSome) :
    ∃ r, l.mapM f = some r := by
  induction l with
  | nil => exact ⟨[], rfl⟩
  | cons a l ih =>
    obtain ⟨first, others⟩ := forall_mem_cons.mp each
    obtain ⟨b, value⟩ := Option.isSome_iff_exists.mp first
    obtain ⟨bs, values⟩ := ih others
    exact ⟨b :: bs, by rw [mapM_cons, value, values]; rfl⟩

theorem exists_mapM_eq_ok {f : α → Except ε β} {l : List α} (each : ∀ a ∈ l, ∃ b, f a = .ok b) :
    ∃ r, l.mapM f = .ok r := by
  induction l with
  | nil => exact ⟨[], rfl⟩
  | cons a l ih =>
    obtain ⟨⟨b, value⟩, others⟩ := forall_mem_cons.mp each
    obtain ⟨bs, values⟩ := ih others
    exact ⟨b :: bs, by rw [mapM_cons, value, values]; rfl⟩

/-- If one of a list gives a value at most, it does not matter where it stands. -/
theorem findSome?_eq_some_iff_mem {f : α → Option β} {l : List α}
    (apart : ∀ a ∈ l, ∀ b ∈ l, (f a).isSome → (f b).isSome → a = b) (v : β) :
    l.findSome? f = some v ↔ ∃ a ∈ l, f a = some v := by
  refine ⟨exists_of_findSome?_eq_some, ?_⟩
  rintro ⟨a, ha, value⟩
  have isSome := Option.isSome_of_eq_some value
  obtain ⟨w, found⟩ := Option.isSome_iff_exists.mp (findSome?_isSome_iff.mpr ⟨a, ha, isSome⟩)
  obtain ⟨b, hb, value'⟩ := exists_of_findSome?_eq_some found
  rw [apart a ha b hb isSome (Option.isSome_of_eq_some value'), value'] at value
  rw [found, value]

theorem findSome?_perm {f : α → Option β} {l r : List α} (perm : l.Perm r)
    (apart : ∀ a ∈ r, ∀ b ∈ r, (f a).isSome → (f b).isSome → a = b) :
    l.findSome? f = r.findSome? f := by
  apply Option.ext
  intro v
  have apart' : ∀ a ∈ l, ∀ b ∈ l, (f a).isSome → (f b).isSome → a = b :=
    fun a ha b hb => apart a (perm.mem_iff.mp ha) b (perm.mem_iff.mp hb)
  rw [findSome?_eq_some_iff_mem apart', findSome?_eq_some_iff_mem apart]
  simp only [perm.mem_iff]

theorem mapM_congr_left {f g : α → Except ε β} {l : List α} (same : ∀ a ∈ l, f a = g a) :
    l.mapM f = l.mapM g := by
  induction l with
  | nil => rfl
  | cons a l ih =>
    obtain ⟨first, others⟩ := forall_mem_cons.mp same
    rw [mapM_cons, mapM_cons, first, ih others]

theorem exists_of_mapM_eq_ok {f : α → Except ε β} {l : List α} {r : List β}
    (h : l.mapM f = .ok r) {a : α} (ha : a ∈ l) : ∃ b, f a = .ok b := by
  have each := (mapM_eq_ok_iff f l r).mp h
  clear h
  induction each with
  | nil => cases ha
  | cons first others ih =>
    rcases mem_cons.mp ha with rfl | ha
    · exact ⟨_, first⟩
    · exact ih ha

theorem mapM_cons_eq_error_iff (f : α → Except ε β) (a : α) (l : List α) (e : ε) :
    (a :: l).mapM f = .error e ↔ f a = .error e ∨ (∃ b, f a = .ok b) ∧ l.mapM f = .error e := by
  rw [mapM_cons]
  cases first : f a with
  | error e' =>
    constructor
    · intro h
      cases h
      exact Or.inl rfl
    · rintro (h | ⟨⟨b, h⟩, -⟩)
      · cases h
        rfl
      · cases h
  | ok b =>
    cases others : l.mapM f with
    | error e' =>
      constructor
      · intro h
        cases h
        exact Or.inr ⟨⟨b, rfl⟩, rfl⟩
      · rintro (h | ⟨-, h⟩)
        · cases h
        · cases h
          rfl
    | ok bs =>
      constructor
      · intro h
        cases h
      · rintro (h | ⟨-, h⟩) <;> cases h

/-- The first computation that fails decides, whatever comes after it. -/
theorem mapM_eq_error_iff (f : α → Except ε β) (l : List α) (e : ε) :
    l.mapM f = .error e ↔
      ∃ good bad rest, l = good ++ bad :: rest ∧ (∀ a ∈ good, ∃ b, f a = .ok b) ∧
        f bad = .error e := by
  induction l with
  | nil =>
    constructor
    · intro h
      cases h
    · rintro ⟨good, bad, rest, h, -, -⟩
      simp at h
  | cons a l ih =>
    rw [mapM_cons_eq_error_iff, ih]
    constructor
    · rintro (fails | ⟨first, good, bad, rest, rfl, fine, fails⟩)
      · exact ⟨[], a, l, rfl, by simp, fails⟩
      · exact ⟨a :: good, bad, rest, rfl, forall_mem_cons.mpr ⟨first, fine⟩, fails⟩
    · rintro ⟨good, bad, rest, split, fine, fails⟩
      cases good with
      | nil =>
        cases split
        exact Or.inl fails
      | cons g good =>
        cases split
        obtain ⟨first, fine⟩ := forall_mem_cons.mp fine
        exact Or.inr ⟨first, good, bad, rest, rfl, fine, fails⟩

end List
