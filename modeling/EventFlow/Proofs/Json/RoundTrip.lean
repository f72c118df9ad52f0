import EventFlow.Json.Printer
import EventFlow.Proofs.Text.Numeral
import EventFlow.Proofs.Text.Wording
import Mathlib.Tactic.FinCases

/-!
Reading a value from the text that it was written as.

* `string?_escaped`: the escapes of a string are undone;
* `scalar_int`: an integer is read back from its numeral, if that is not too long;
* `read_pretty`: a value without floats is read back from its text, if no integer in it is too long.
-/

namespace EventFlow.Json

/-- What may follow a value: nothing, or a character that no value goes on with. -/
def Closes (rest : List Char) : Prop :=
  ∀ c ∈ rest.head?, c ∈ [',', '\n', ']', '\x7d']

/-- Values without floats whose objects have no key twice, and which nest at most `depth` levels
deep. -/
inductive Plain : Nat → Json → Prop where
  | null {depth : Nat} : Plain depth .null
  | bool {depth : Nat} (b : Bool) : Plain depth (.bool b)
  | int {depth : Nat} (n : Int) : Plain depth (.int n)
  | text {depth : Nat} (s : String) : Plain depth (.text s)
  | array {depth : Nat} {xs : List Json} (items : ∀ x ∈ xs, Plain depth x) :
      Plain (depth + 1) (.array xs)
  | object {depth : Nat} {members : List (String × Json)} (keys : (members.map Prod.fst).Nodup)
      (values : ∀ m ∈ members, Plain depth m.2) : Plain (depth + 1) (.object members)

/-- What reading gives where some integers may be too long. -/
def limited {α : Type} (brief : Bool) (a : α) : Except ReadError α :=
  if brief then .ok a else .error .excessive

@[simp] theorem limited_true {α : Type} (a : α) : limited true a = .ok a := rfl

@[simp] theorem limited_false {α : Type} (a : α) : limited false a = .error .excessive := rfl

@[simp] theorem map_limited {α β : Type} (f : α → β) (brief : Bool) (a : α) :
    (limited brief a).map f = limited brief (f a) := by
  cases brief <;> rfl

theorem brief_text (s : String) : (text s).brief = true := rfl

theorem brief_int (n : Int) : (int n).brief = true ↔ Brief n := by
  simp [brief, leaves, leafBrief]

theorem brief_array (xs : List Json) : (array xs).brief = xs.all brief := by
  have items (xs : List Json) : (itemLeaves xs).all leafBrief = xs.all brief := by
    induction xs with
    | nil => rfl
    | cons x xs ih => rw [itemLeaves, List.all_append, List.all_cons, ih, brief]
  rw [brief, leaves, items]

theorem brief_object (ms : List (String × Json)) :
    (object ms).brief = ms.all fun m => m.2.brief := by
  have members (ms : List (String × Json)) :
      (memberLeaves ms).all leafBrief = ms.all fun m => m.2.brief := by
    induction ms with
    | nil => rfl
    | cons m ms ih =>
      obtain ⟨key, x⟩ := m
      rw [memberLeaves, List.all_cons, List.all_append, List.all_cons, ih]
      rfl
  rw [brief, leaves, members]

section Strings

theorem hexUnit?_hex : ∀ n < 0x20, ∃ a b c d,
    Text.hex 4 n = [a, b, c, d] ∧ hexUnit? a b c d = some n := by
  intro n small
  refine ⟨_, _, _, _, rfl, ?_⟩
  revert n
  decide

theorem string?_escapeChar (rules : Rules) (c : Char) (rest : List Char) :
    string? rules none (escapeChar c ++ rest) = consTo c (string? rules none rest) := by
  by_cases named : c ∈ ['"', '\\', '\n', '\r', '\t', '\x08', '\x0c']
  · fin_cases named <;> simp [escapeChar, string?, escaped?, afterHalf]
  simp only [List.mem_cons, List.not_mem_nil, or_false, not_or] at named
  obtain ⟨quote, backslash, newline, carriage, tab, back, feed⟩ := named
  unfold escapeChar
  simp only [quote, backslash, newline, carriage, tab, back, feed, ↓reduceIte]
  split
  · rename_i control
    obtain ⟨a, b, d, e, digits, unit⟩ := hexUnit?_hex c.toNat control
    have high : Text.isHighUnit c.toNat = false := by
      simp only [Text.isHighUnit, Bool.and_eq_false_iff, decide_eq_false_iff_not]
      omega
    have low : Text.isLowUnit c.toNat = false := by
      simp only [Text.isLowUnit, Bool.and_eq_false_iff, decide_eq_false_iff_not]
      omega
    simp [digits, string?, unit, high, low, afterHalf]
  · rename_i control
    have plain : ¬c.toNat < 32 := control
    simp [string?, backslash, plain, afterHalf]

theorem string?_escaped (rules : Rules) (cs rest : List Char) :
    string? rules none (cs.flatMap escapeChar ++ '"' :: rest) = some (cs, rest) := by
  induction cs with
  | nil => simp [string?, afterHalf]
  | cons c cs ih =>
    rw [List.flatMap_cons, List.append_assoc, string?_escapeChar, ih]
    rfl

end Strings

section Numbers

variable {rest : List Char}

theorem Closes.notDigit (closes : Closes rest) : ∀ c ∈ rest.head?, c.isDigit = false := by
  intro c hc
  have stops := closes c hc
  fin_cases stops <;> rfl

theorem Closes.places (closes : Closes rest) : places rest = (none, rest) := by
  cases rest with
  | nil => rfl
  | cons c rest =>
    have stops := closes c rfl
    fin_cases stops <;> rfl

theorem Closes.scale (closes : Closes rest) : scale rest = (none, rest) := by
  cases rest with
  | nil => rfl
  | cons c rest =>
    have stops := closes c rfl
    fin_cases stops <;> rfl

theorem unsigned_numeral (rules : Rules) (negative : Bool) (n : Nat) (closes : Closes rest) :
    unsigned rules negative (Nat.toDigits 10 n ++ rest) =
      (number rules negative (Text.numeral n) none none).map fun json => (json, rest) := by
  have taken : takeDecimals (Nat.toDigits 10 n ++ rest) = (Text.numeral n, rest) :=
    Text.takeDecimals_digits (fun c hc => Text.isDigit_toDigits hc) closes.notDigit
  unfold unsigned
  rw [taken]
  split
  · rename_i none' same
    exact absurd (congrArg Prod.fst same) (Text.numeral_ne_nil n)
  · rename_i same
    exact (Text.numeral_leading n (congrArg Prod.fst same)).elim
  · rename_i whole after _ _ same
    cases same
    simp [closes.places, closes.scale]

theorem scalar_digit (rules : Rules) {c : Char} (digit : c.isDigit = true) (cs : List Char) :
    scalar rules (c :: cs) = unsigned rules false (c :: cs) := by
  unfold scalar
  split
  all_goals
    rename_i same
    first
    | rfl
    | cases same; exact absurd digit (by decide)

theorem scalar_minus (rules : Rules) {c : Char} (digit : c.isDigit = true) (cs : List Char) :
    scalar rules ('-' :: c :: cs) = unsigned rules true (c :: cs) := by
  unfold scalar
  split
  all_goals
    rename_i same
    first
    | cases same; done
    | cases same; rfl
    | cases same; exact absurd digit (by decide)
    | exact absurd rfl (same _)

theorem number_numeral (rules : Rules) (negative : Bool) (n : Nat) :
    number rules negative (Text.numeral n) none none =
      limited (decide (n < 10 ^ Text.digitLimit)) (.int (if negative then -(n : Int) else n)) := by
  have length : Text.digitLimit < (Text.numeral n).length ↔ ¬n < 10 ^ Text.digitLimit := by
    rw [Text.length_numeral, ← Nat.length_toDigits_le_iff (by decide) (by decide), Nat.not_le]
  unfold number limited
  by_cases short : n < 10 ^ Text.digitLimit
  · have fits : ¬Text.digitLimit < (Text.numeral n).length := fun long => length.mp long short
    rw [decide_eq_true short, decide_eq_false fits]
    simp
  · rw [decide_eq_false short, decide_eq_true (length.mpr short)]
    simp

theorem decimal_ofNat (n : Nat) : (Text.decimal n).toList = Nat.toDigits 10 n := by
  simp [Text.decimal]

theorem decimal_negSucc (n : Nat) :
    (Text.decimal (.negSucc n)).toList = '-' :: Nat.toDigits 10 (n + 1) := by
  simp [Text.decimal]

theorem toDigits_cons (n : Nat) :
    ∃ c cs, Nat.toDigits 10 n = c :: cs ∧ c.isDigit = true := by
  cases digits : Nat.toDigits 10 n with
  | nil => exact absurd digits Nat.toDigits_ne_nil
  | cons c cs => exact ⟨c, cs, rfl, Text.isDigit_toDigits (n := n) (by rw [digits]; simp)⟩

/-- An integer is read back from its numeral, if that is not too long. -/
theorem scalar_int (rules : Rules) (n : Int) (closes : Closes rest) :
    scalar rules ((Text.decimal n).toList ++ rest) = limited (decide (Brief n)) (.int n, rest) := by
  cases n with
  | ofNat n =>
    have read := unsigned_numeral rules false n closes
    rw [number_numeral] at read
    obtain ⟨c, cs, split, digit⟩ := toDigits_cons n
    rw [Int.ofNat_eq_natCast, decimal_ofNat]
    rw [split, List.cons_append] at read ⊢
    have same : Brief n ↔ n < 10 ^ Text.digitLimit := brief_iff
    rw [scalar_digit rules digit, read, map_limited]
    simp only [same, Bool.false_eq_true, ↓reduceIte]
  | negSucc n =>
    have read := unsigned_numeral rules true (n + 1) closes
    rw [number_numeral] at read
    obtain ⟨c, cs, split, digit⟩ := toDigits_cons (n + 1)
    rw [decimal_negSucc]
    rw [split, List.cons_append] at read
    have same : Brief (.negSucc n) ↔ n + 1 < 10 ^ Text.digitLimit := brief_iff
    have negated : -((n + 1 : Nat) : Int) = .negSucc n := rfl
    rw [split, List.cons_append, List.cons_append, scalar_minus rules digit, read, map_limited]
    simp only [same, ↓reduceIte, negated]

end Numbers

section Structure

theorem skipSpace_newline (level : Nat) {c : Char} (solid : isSpace c = false) (cs : List Char) :
    skipSpace (newline level ++ c :: cs) = c :: cs := by
  have blanks (k : Nat) : (List.replicate k ' ' ++ c :: cs).dropWhile isSpace = c :: cs := by
    induction k with
    | zero => simp [solid]
    | succ k ih => simpa [List.replicate_succ, isSpace] using ih
  simpa [skipSpace, newline, isSpace] using blanks (2 * level)

theorem skipSpace_solid {c : Char} (solid : isSpace c = false) (cs : List Char) :
    skipSpace (c :: cs) = c :: cs := by
  simp [skipSpace, solid]

/-- The first character of a value: no space, and nothing that closes an array. -/
def Opens (c : Char) : Prop :=
  isSpace c = false ∧ c ≠ ']'

theorem opens_digit {c : Char} (digit : c.isDigit = true) : Opens c := by
  obtain ⟨lower, upper⟩ := Text.isDigit_iff.mp digit
  constructor
  · simp only [isSpace, Bool.or_eq_false_iff, decide_eq_false_iff_not]
    refine ⟨⟨⟨?_, ?_⟩, ?_⟩, ?_⟩ <;> (rintro rfl; revert digit; decide)
  · rintro rfl
    revert digit
    decide

theorem pretty_opens {depth : Nat} {j : Json} (plain : Plain depth j) (level : Nat) :
    ∃ c cs, pretty level j = c :: cs ∧ Opens c := by
  cases plain with
  | null => exact ⟨'n', _, rfl, by decide, by decide⟩
  | bool b =>
    cases b with
    | false => exact ⟨'f', _, rfl, by decide, by decide⟩
    | true => exact ⟨'t', _, rfl, by decide, by decide⟩
  | int n =>
    cases n with
    | ofNat n =>
      obtain ⟨c, cs, split, digit⟩ := toDigits_cons n
      exact ⟨c, cs, by simp [pretty, leaf, decimal_ofNat, split], opens_digit digit⟩
    | negSucc n =>
      exact ⟨'-', _, by simp only [pretty, leaf]; exact decimal_negSucc n, by decide, by decide⟩
  | text s => exact ⟨'"', _, rfl, by decide, by decide⟩
  | @array depth xs items =>
    cases xs with
    | nil => exact ⟨'[', _, rfl, by decide, by decide⟩
    | cons x xs => exact ⟨'[', _, rfl, by decide, by decide⟩
  | @object depth members keys values =>
    cases members with
    | nil => exact ⟨'\x7b', _, rfl, by decide, by decide⟩
    | cons m members => exact ⟨'\x7b', _, rfl, by decide, by decide⟩

theorem value_quote (rules : Rules) (fuel depth : Nat) (s : String) (rest : List Char) :
    value rules (fuel + 1) depth (quote s ++ rest) = .ok (.text s, rest) := by
  simp [quote, value, string?_escaped]

theorem value_scalar (rules : Rules) (fuel depth : Nat) {c : Char} {cs : List Char}
    (simple : c ≠ '"' ∧ c ≠ '[' ∧ c ≠ '\x7b') :
    value rules (fuel + 1) depth (c :: cs) = scalar rules (c :: cs) := by
  obtain ⟨quote, bracket, brace⟩ := simple
  unfold value
  split
  · rename_i same; cases same; exact absurd rfl quote
  · rename_i same; cases same; exact absurd rfl bracket
  · rename_i same; cases same; exact absurd rfl brace
  · rfl

theorem value_array (rules : Rules) (fuel depth level : Nat) {c : Char} (opens : Opens c)
    (cs : List Char) :
    value rules (fuel + 1) (depth + 1) ('[' :: (newline level ++ c :: cs)) =
      (items rules fuel depth (c :: cs)).map fun (xs, rest) => (.array xs, rest) := by
  obtain ⟨solid, open'⟩ := opens
  unfold value
  simp only [skipSpace_newline level solid]
  split
  · rename_i same; cases same; exact absurd rfl open'
  · rename_i none _; cases none
  · rename_i deeper _; cases deeper; rfl

theorem value_object (rules : Rules) (fuel depth level : Nat) (cs : List Char) :
    value rules (fuel + 1) (depth + 1) ('\x7b' :: (newline level ++ '"' :: cs)) =
      (members rules fuel depth [] ('"' :: cs)).map fun (ms, rest) => (.object ms, rest) := by
  have solid : isSpace '"' = false := rfl
  unfold value
  simp only [skipSpace_newline level solid]
  rfl

end Structure

/-- A value is read back from its text, wherever that stands, if no integer in it is too long. -/
def ReadsBack (depth : Nat) (j : Json) : Prop :=
  ∀ (rules : Rules) (level fuel : Nat) (rest : List Char), Closes rest →
    2 * (pretty level j).length ≤ fuel →
    value rules fuel depth (pretty level j ++ rest) = limited j.brief (j, rest)

theorem closes_items (level : Nat) (xs : List Json) (rest : List Char) :
    Closes (prettyItems level xs ++ rest) := by
  cases xs with
  | nil => intro c hc; cases hc; decide
  | cons x xs => intro c hc; cases hc; decide

theorem closes_members (level : Nat) (ms : List (String × Json)) (rest : List Char) :
    Closes (prettyMembers level ms ++ rest) := by
  cases ms with
  | nil => intro c hc; cases hc; decide
  | cons m ms => intro c hc; cases hc; decide

theorem items_pretty (rules : Rules) {depth : Nat} (level fuel : Nat) {x : Json} {xs : List Json}
    (rest : List Char) (plain : ∀ y ∈ x :: xs, Plain depth y)
    (back : ∀ y ∈ x :: xs, ReadsBack depth y)
    (enough : 2 * ((pretty (level + 1) x).length + (prettyItems level xs).length) < fuel) :
    items rules fuel depth (pretty (level + 1) x ++ (prettyItems level xs ++ rest)) =
      limited ((x :: xs).all brief) (x :: xs, rest) := by
  induction xs generalizing x fuel with
  | nil =>
    obtain ⟨fuel, rfl⟩ : ∃ k, fuel = k + 1 := ⟨fuel - 1, by omega⟩
    have first := back x List.mem_cons_self rules (level + 1) fuel
      (prettyItems level [] ++ rest) (closes_items level [] rest) (by omega)
    have solid : isSpace ']' = false := rfl
    unfold items
    rw [first, List.all_cons, List.all_nil, Bool.and_true]
    cases x.brief with
    | false => rfl
    | true => simp [prettyItems, skipSpace_newline level solid]
  | cons y ys ih =>
    obtain ⟨fuel, rfl⟩ : ∃ k, fuel = k + 1 := ⟨fuel - 1, by omega⟩
    have first := back x List.mem_cons_self rules (level + 1) fuel
      (prettyItems level (y :: ys) ++ rest) (closes_items level (y :: ys) rest) (by omega)
    have length : (prettyItems level (y :: ys)).length = 1 + (newline (level + 1)).length +
        ((pretty (level + 1) y).length + (prettyItems level ys).length) := by
      simp only [prettyItems, List.length_cons, List.length_append]
      omega
    have others := ih fuel (x := y) (fun z hz => plain z (List.mem_cons_of_mem _ hz))
      (fun z hz => back z (List.mem_cons_of_mem _ hz)) (by omega)
    obtain ⟨c, cs, split, opens⟩ := pretty_opens (plain y (by simp)) (level + 1)
    have comma : isSpace ',' = false := rfl
    rw [split, List.cons_append] at others
    unfold items
    rw [first, List.all_cons]
    cases x.brief with
    | false => rfl
    | true =>
      simp only [limited_true, prettyItems, split, List.cons_append, List.append_assoc,
        skipSpace_solid comma, skipSpace_newline (level + 1) opens.1, others, Bool.true_and]
      exact map_limited _ _ _

theorem new_key {before ms : List (String × Json)} {key : String} {x : Json}
    (keys : ((before ++ (key, x) :: ms).map Prod.fst).Nodup) : key ∉ before.map Prod.fst := by
  intro hk
  rw [List.map_append, List.nodup_append] at keys
  exact keys.2.2 key hk key (by simp) rfl

theorem put_new {members : List (String × Json)} {key : String}
    (new : key ∉ members.map Prod.fst) (value : Json) :
    put members key value = members ++ [(key, value)] := by
  induction members with
  | nil => rfl
  | cons m members ih =>
    rw [List.map_cons, List.mem_cons, not_or] at new
    simp [put, Ne.symm new.1, ih new.2]

theorem skipSpace_blank {c : Char} (solid : isSpace c = false) (cs : List Char) :
    skipSpace (' ' :: c :: cs) = c :: cs := by
  simpa [skipSpace, isSpace] using skipSpace_solid solid cs

/-- The first member is read and put to those before it. -/
theorem members_step (rules : Rules) {depth level fuel : Nat} (before : List (String × Json))
    (key : String) {x : Json} {rest : List Char} (plain : Plain depth x)
    (back : ReadsBack depth x) (closes : Closes rest)
    (enough : 2 * (pretty (level + 1) x).length ≤ fuel) :
    members rules (fuel + 1) depth before
        (quote key ++ ':' :: ' ' :: (pretty (level + 1) x ++ rest)) =
      if x.brief then
        match skipSpace rest with
        | '\x7d' :: rest => .ok (put before key x, rest)
        | ',' :: rest => members rules fuel depth (put before key x) (skipSpace rest)
        | _ => .error .malformed
      else .error .excessive := by
  have first := back rules (level + 1) fuel rest closes enough
  obtain ⟨c, cs, split, opens⟩ := pretty_opens plain (level + 1)
  have colon : isSpace ':' = false := rfl
  have named := string?_escaped rules key.toList (':' :: ' ' :: (pretty (level + 1) x ++ rest))
  rw [split, List.cons_append] at first named ⊢
  conv_lhs => unfold members
  simp only [quote, List.cons_append, List.append_assoc, List.nil_append, named,
    skipSpace_solid colon, skipSpace_blank opens.1, first, String.ofList_toList]
  cases x.brief <;> rfl

theorem members_pretty (rules : Rules) {depth : Nat} (level fuel : Nat)
    (before : List (String × Json)) {key : String} {x : Json} {ms : List (String × Json)}
    (rest : List Char) (keys : ((before ++ (key, x) :: ms).map Prod.fst).Nodup)
    (plain : ∀ m ∈ (key, x) :: ms, Plain depth m.2)
    (back : ∀ m ∈ (key, x) :: ms, ReadsBack depth m.2)
    (enough : 2 * ((pretty (level + 1) x).length + (prettyMembers level ms).length) < fuel) :
    members rules fuel depth before (quote key ++ ':' :: ' ' ::
        (pretty (level + 1) x ++ (prettyMembers level ms ++ rest))) =
      limited (((key, x) :: ms).all fun m => m.2.brief) (before ++ (key, x) :: ms, rest) := by
  have new := new_key keys
  induction ms generalizing before key x fuel with
  | nil =>
    obtain ⟨fuel, rfl⟩ : ∃ k, fuel = k + 1 := ⟨fuel - 1, by omega⟩
    have solid : isSpace '\x7d' = false := rfl
    rw [members_step rules before key (x := x) (plain _ List.mem_cons_self)
      (back _ List.mem_cons_self) (closes_members level [] rest) (by omega), put_new new,
      List.all_cons, List.all_nil, Bool.and_true]
    cases x.brief with
    | false => rfl
    | true => simp [prettyMembers, skipSpace_newline level solid]
  | cons m ms ih =>
    obtain ⟨fuel, rfl⟩ : ∃ k, fuel = k + 1 := ⟨fuel - 1, by omega⟩
    obtain ⟨next, y⟩ := m
    have length : (prettyMembers level ((next, y) :: ms)).length =
        3 + (newline (level + 1)).length + (quote next).length +
          ((pretty (level + 1) y).length + (prettyMembers level ms).length) := by
      simp only [prettyMembers, List.length_cons, List.length_append]
      omega
    have keys' : (((before ++ [(key, x)]) ++ (next, y) :: ms).map Prod.fst).Nodup := by
      simpa using keys
    have others := ih fuel (before ++ [(key, x)]) (x := y) keys'
      (fun z hz => plain z (List.mem_cons_of_mem _ hz))
      (fun z hz => back z (List.mem_cons_of_mem _ hz)) (by omega) (new_key keys')
    have comma : isSpace ',' = false := rfl
    have quoted : isSpace '"' = false := rfl
    have begins : skipSpace (newline (level + 1) ++ (quote next ++ ':' :: ' ' ::
        (pretty (level + 1) y ++ (prettyMembers level ms ++ rest)))) =
        quote next ++ ':' :: ' ' :: (pretty (level + 1) y ++ (prettyMembers level ms ++ rest)) :=
      skipSpace_newline (level + 1) quoted _
    rw [members_step rules before key (x := x) (plain _ List.mem_cons_self)
      (back _ List.mem_cons_self) (closes_members level _ rest) (by omega), put_new new,
      List.all_cons]
    cases x.brief with
    | false => rfl
    | true =>
      simp only [↓reduceIte, prettyMembers, List.cons_append, List.append_assoc,
        skipSpace_solid comma, begins, others, Bool.true_and]
      simp

theorem value_word (rules : Rules) {fuel depth : Nat} {c : Char} {cs rest : List Char}
    (simple : c ≠ '"' ∧ c ≠ '[' ∧ c ≠ '\x7b') (enough : 2 * (c :: cs).length ≤ fuel) :
    value rules fuel depth (c :: cs ++ rest) = scalar rules (c :: (cs ++ rest)) := by
  obtain ⟨fuel, rfl⟩ : ∃ k, fuel = k + 1 := ⟨fuel - 1, by rw [List.length_cons] at enough; omega⟩
  rw [List.cons_append, value_scalar rules fuel depth simple]

theorem simple_digit {c : Char} (digit : c.isDigit = true) :
    c ≠ '"' ∧ c ≠ '[' ∧ c ≠ '\x7b' := by
  refine ⟨?_, ?_, ?_⟩ <;> (rintro rfl; revert digit; decide)

/-- The first character of a numeral is a digit or a minus sign. -/
theorem ofInt_cons (n : Int) :
    ∃ c cs, (Text.decimal n).toList = c :: cs ∧ c ≠ '"' ∧ c ≠ '[' ∧ c ≠ '\x7b' := by
  cases n with
  | ofNat n =>
    obtain ⟨c, cs, split, digit⟩ := toDigits_cons n
    exact ⟨c, cs, by rw [Int.ofNat_eq_natCast, decimal_ofNat, split], simple_digit digit⟩
  | negSucc n => exact ⟨'-', _, decimal_negSucc n, by decide⟩

theorem int_readsBack {depth : Nat} (n : Int) : ReadsBack depth (int n) := by
  intro rules level fuel rest closes enough
  obtain ⟨c, cs, split, simple⟩ := ofInt_cons n
  have brief : (int n).brief = decide (Brief n) := by
    rw [Bool.eq_iff_iff, brief_int, decide_eq_true_iff]
  have word := scalar_int rules n closes
  simp only [pretty, leaf] at enough ⊢
  rw [split] at word enough ⊢
  rw [value_word rules simple enough, brief]
  exact word

theorem text_readsBack {depth : Nat} (s : String) : ReadsBack depth (text s) := by
  intro rules level fuel rest closes enough
  simp only [pretty, leaf] at enough ⊢
  obtain ⟨fuel, rfl⟩ : ∃ k, fuel = k + 1 := ⟨fuel - 1, by
    simp only [quote, List.cons_append, List.length_cons] at enough
    omega⟩
  exact value_quote rules fuel _ s rest

theorem array_readsBack {depth : Nat} {xs : List Json} (plain : ∀ x ∈ xs, Plain depth x)
    (back : ∀ x ∈ xs, ReadsBack depth x) : ReadsBack (depth + 1) (array xs) := by
  intro rules level fuel rest closes enough
  rw [brief_array]
  cases xs with
  | nil =>
    obtain ⟨fuel, rfl⟩ : ∃ k, fuel = k + 1 := ⟨fuel - 1, by
      simp only [pretty, leaf] at enough
      have : "[]".toList.length = 2 := rfl
      omega⟩
    rfl
  | cons x xs =>
    simp only [pretty, List.cons_append, List.length_cons, List.length_append] at enough
    obtain ⟨fuel, rfl⟩ : ∃ k, fuel = k + 1 := ⟨fuel - 1, by omega⟩
    have read := items_pretty rules level fuel rest plain back (by omega)
    obtain ⟨c, cs, split, opens⟩ := pretty_opens (plain x List.mem_cons_self) (level + 1)
    rw [split, List.cons_append] at read
    simp only [pretty, split, List.cons_append, List.append_assoc]
    rw [value_array rules fuel depth (level + 1) opens, read]
    exact map_limited _ _ _

theorem object_readsBack {depth : Nat} {ms : List (String × Json)}
    (keys : (ms.map Prod.fst).Nodup) (plain : ∀ m ∈ ms, Plain depth m.2)
    (back : ∀ m ∈ ms, ReadsBack depth m.2) : ReadsBack (depth + 1) (object ms) := by
  intro rules level fuel rest closes enough
  rw [brief_object]
  cases ms with
  | nil =>
    obtain ⟨fuel, rfl⟩ : ∃ k, fuel = k + 1 := ⟨fuel - 1, by
      simp only [pretty, leaf, List.length_cons] at enough
      omega⟩
    rfl
  | cons m ms =>
    obtain ⟨key, x⟩ := m
    simp only [pretty, List.cons_append, List.length_cons, List.length_append] at enough
    obtain ⟨fuel, rfl⟩ : ∃ k, fuel = k + 1 := ⟨fuel - 1, by omega⟩
    have read := members_pretty rules level fuel [] rest keys plain back (by omega)
    simp only [pretty, List.cons_append, List.append_assoc]
    simp only [quote, List.cons_append, List.append_assoc] at read ⊢
    rw [value_object rules fuel depth (level + 1), read]
    exact map_limited _ _ _

theorem plain_readsBack {depth : Nat} {j : Json} (plain : Plain depth j) : ReadsBack depth j := by
  induction plain with
  | null =>
    intro rules level fuel rest closes enough
    exact value_word rules (by decide) enough
  | bool b =>
    intro rules level fuel rest closes enough
    cases b with
    | false => exact value_word rules (by decide) enough
    | true => exact value_word rules (by decide) enough
  | int n => exact int_readsBack n
  | text s => exact text_readsBack s
  | array items ih => exact array_readsBack items ih
  | object keys values ih => exact object_readsBack keys values ih

/-- A value without floats is read back from its text, if no integer in it is too long; otherwise
nothing is read. -/
theorem read_pretty (rules : Rules) {j : Json} (plain : Plain rules.depth j) :
    read rules (pretty 0 j) = limited j.brief j := by
  have back := plain_readsBack plain rules 0 (2 * (pretty 0 j).length + 1) [] (by simp [Closes])
    (by omega)
  obtain ⟨c, cs, split, opens⟩ := pretty_opens plain 0
  have begins : skipSpace (pretty 0 j) = pretty 0 j := by
    rw [split]
    exact skipSpace_solid opens.1 cs
  rw [List.append_nil] at back
  unfold read
  rw [begins, back]
  cases j.brief <;> rfl

end EventFlow.Json
