import EventFlow.Proofs.Text.Pieces
import EventFlow.Proofs.Text.Utf8
import EventFlow.Service.Operation
import Mathlib.Data.List.TakeWhile

/-!
The addresses of things that have names: a name, escaped, is one segment of a path or the value of a
parameter.

* `bytes_encode`, `decode_encode`: an escaped text is read back as it was;
* `mem_encode`: an escaped text has none of the characters that divide an address;
* `ofText_escaped`, `segments?_below`: a path that ends in an escaped name has the name in it, and
  as its last segment if there is no slash in the name;
* `parameters_escaped`: so has a query the value of its parameter.
-/

namespace EventFlow.Service

namespace Percent

variable {cs : List Char}

theorem hexValue?_upper : ∀ n < 16, Json.hexValue? (Text.hexDigit n).toUpper = some n := by
  decide

/-- An escaped byte is read back. -/
theorem bytes_escape (b : UInt8) (rest : List Char) :
    bytes (escape b ++ rest) = b :: bytes rest := by
  have high := hexValue?_upper (b.toNat / 16 % 16) (Nat.mod_lt _ (by decide))
  have low := hexValue?_upper (b.toNat % 16) (Nat.mod_lt _ (by decide))
  have small : b.toNat < 256 := b.toNat_lt
  have whole : b.toNat / 16 % 16 * 16 + b.toNat % 16 = b.toNat := by omega
  have digits : escape b = ['%', (Text.hexDigit (b.toNat / 16 % 16)).toUpper,
    (Text.hexDigit (b.toNat % 16)).toUpper] := rfl
  rw [digits, List.cons_append, List.cons_append, List.singleton_append, bytes, high, low]
  simp only [whole]
  congr 1
  exact UInt8.ofNat_toNat

theorem bytes_escapes (bs : List UInt8) (rest : List Char) :
    bytes (bs.flatMap escape ++ rest) = bs ++ bytes rest := by
  induction bs with
  | nil => rfl
  | cons b bs ih => rw [List.flatMap_cons, List.append_assoc, bytes_escape, ih, List.cons_append]

theorem bytes_cons {c : Char} (bare : c ≠ '%') (rest : List Char) :
    bytes (c :: rest) = String.utf8EncodeChar c ++ bytes rest :=
  bytes.eq_3 c rest fun _ _ _ same _ => bare same

theorem bytes_bare (bare : '%' ∉ cs) (rest : List Char) :
    bytes (cs ++ rest) = Text.utf8 cs ++ bytes rest := by
  induction cs with
  | nil => rfl
  | cons c cs ih =>
    rw [List.mem_cons, not_or] at bare
    rw [List.cons_append, bytes_cons (Ne.symm bare.1), ih bare.2, ← List.append_assoc]
    rfl

theorem bytes_encode {safe : Char → Bool} (sign : safe '%' = false) (cs rest : List Char) :
    bytes (encode safe cs ++ rest) = Text.utf8 cs ++ bytes rest := by
  induction cs with
  | nil => rfl
  | cons c cs ih =>
    have first : bytes ((if safe c then [c] else (String.utf8EncodeChar c).flatMap escape) ++
        (encode safe cs ++ rest)) = String.utf8EncodeChar c ++ bytes (encode safe cs ++ rest) := by
      split
      · rename_i plain
        have bare : c ≠ '%' := by
          rintro rfl
          rw [sign] at plain
          cases plain
        exact bytes_cons bare _
      · exact bytes_escapes _ _
    rw [encode, List.flatMap_cons, List.append_assoc]
    exact first.trans (by rw [ih, ← List.append_assoc]; rfl)

/-- What follows a text without escapes is read back, if it was escaped. -/
theorem decode_encode {safe : Char → Bool} (sign : safe '%' = false) (bare : '%' ∉ cs)
    (name : List Char) : decode (cs ++ encode safe name) = cs ++ name := by
  have whole := bytes_encode sign name []
  rw [List.append_nil] at whole
  have both : Text.utf8 cs ++ (Text.utf8 name ++ bytes []) = Text.utf8 (cs ++ name) := by
    simp [Text.utf8, bytes]
  rw [decode, bytes_bare bare, whole, both, Text.ofUtf8_utf8]

theorem escape_unreserved {b : UInt8} {x : Char} (member : x ∈ escape b) :
    isUnreserved x = true ∨ x = '%' := by
  have digit : ∀ n < 16, isUnreserved (Text.hexDigit n).toUpper = true := by decide
  have digits : escape b = ['%', (Text.hexDigit (b.toNat / 16 % 16)).toUpper,
    (Text.hexDigit (b.toNat % 16)).toUpper] := rfl
  rw [digits] at member
  simp only [List.mem_cons, List.not_mem_nil, or_false] at member
  obtain sign | high | low := member
  · exact .inr sign
  · exact .inl (high ▸ digit _ (Nat.mod_lt _ (by decide)))
  · exact .inl (low ▸ digit _ (Nat.mod_lt _ (by decide)))

theorem mem_encode {x : Char} (member : x ∈ encode isUnreserved cs) :
    isUnreserved x = true ∨ x = '%' := by
  obtain ⟨c, -, inner⟩ := List.mem_flatMap.mp member
  split at inner
  · rename_i plain
    rw [List.mem_singleton.mp inner]
    exact .inl plain
  · obtain ⟨b, -, inner⟩ := List.mem_flatMap.mp inner
    exact escape_unreserved inner

/-- A character that divides an address is not in an escaped text. -/
theorem notMem_encode {x : Char} (divides : isUnreserved x = false) (other : x ≠ '%') :
    x ∉ encode isUnreserved cs := by
  intro member
  obtain plain | sign := mem_encode member
  · rw [divides] at plain
    cases plain
  · exact other sign

theorem ascii_of_unreserved {x : Char} (plain : isUnreserved x = true) : x.toNat < 128 := by
  simp only [isUnreserved, Bool.or_eq_true, List.contains_eq_mem, decide_eq_true_eq] at plain
  obtain word | mark := plain
  · unfold Char.isAlphanum Char.isAlpha Char.isUpper Char.isLower Char.isDigit at word
    simp only [Bool.or_eq_true, Bool.and_eq_true, decide_eq_true_eq, UInt32.le_iff_toNat_le] at word
    have small : x.val.toNat < 128 := by
      obtain ⟨upper⟩ | ⟨digit⟩ := word <;> simp at * <;> omega
    exact small
  · simp only [List.mem_cons, List.not_mem_nil, or_false] at mark
    obtain rfl | rfl | rfl | rfl := mark <;> decide

theorem encode_plain (plain : ∀ c ∈ cs, isUnreserved c = true) : encode isUnreserved cs = cs := by
  induction cs with
  | nil => rfl
  | cons c cs ih =>
    obtain ⟨first, others⟩ := List.forall_mem_cons.mp plain
    rw [encode, List.flatMap_cons, if_pos first]
    exact congrArg (c :: ·) (ih others)

end Percent

open Percent (encode isUnreserved)

/-- A name as it is written in an address. -/
def escaped (name : String) : String :=
  String.ofList (encode isUnreserved name.toList)

section Path

/-- The target of a path that ends in an escaped name. -/
theorem ofText_escaped {path : String} (bare : '%' ∉ path.toList) (whole : '?' ∉ path.toList)
    (name : String) : Target.ofText (path ++ escaped name) = ⟨path.toList ++ name.toList, []⟩ := by
  have all : ∀ c ∈ path.toList ++ encode isUnreserved name.toList, (c != '?') = true := by
    intro c member
    rw [bne_iff_ne]
    rintro rfl
    obtain first | second := List.mem_append.mp member
    · exact whole first
    · exact Percent.notMem_encode (by decide) (by decide) second
  unfold Target.ofText escaped
  rw [String.toList_append, String.toList_ofList, List.takeWhile_eq_self_iff.mpr all,
    List.dropWhile_eq_nil_iff.mpr all, Percent.decode_encode (by decide) bare]
  rfl

/-- The target of a path with a query. -/
theorem ofText_query {path : String} (bare : '%' ∉ path.toList) (whole : '?' ∉ path.toList)
    (query : String) : Target.ofText (path ++ "?" ++ query) = ⟨path.toList, query.toList⟩ := by
  have all : ∀ c ∈ path.toList, (c != '?') = true := by
    intro c member
    rw [bne_iff_ne]
    rintro rfl
    exact whole member
  have text : (path ++ "?" ++ query).toList = path.toList ++ '?' :: query.toList := by simp
  have read : Percent.decode path.toList = path.toList := by
    have plain : Percent.decode (path.toList ++ encode isUnreserved []) = path.toList ++ [] :=
      Percent.decode_encode (by decide) bare []
    simpa [encode] using plain
  unfold Target.ofText
  rw [text, List.takeWhile_append_of_pos all, List.dropWhile_append_of_pos all]
  simp [read]

theorem segments?_below {word : String} (solid : '/' ∉ word.toList) (name query : List Char) :
    Target.segments? ⟨'/' :: (word.toList ++ '/' :: name), query⟩ =
      some (word :: (Text.splitOnChar '/' name).map String.ofList) := by
  rw [Target.segments?]
  simp only [Text.splitOnChar_append solid, List.map_cons, String.ofList_toList]

end Path

section Parameters

theorem latin_ascii {cs : List Char} (ascii : ∀ c ∈ cs, c.toNat < 128) :
    (Text.utf8 cs).map (fun b => Char.ofNat b.toNat) = cs := by
  induction cs with
  | nil => rfl
  | cons c cs ih =>
    obtain ⟨first, others⟩ := List.forall_mem_cons.mp ascii
    have single : String.utf8EncodeChar c = [UInt8.ofNat c.toNat] := by
      rw [Text.encodeChar_eq, if_pos (by omega)]
    have back : Char.ofNat (UInt8.ofNat c.toNat).toNat = c := by
      rw [Text.toNat_byte (by omega), Char.ofNat_toNat]
    rw [Text.utf8, List.flatMap_cons, single, List.singleton_append, List.map_cons, back]
    exact congrArg (c :: ·) (ih others)

theorem parameterText_encode (value : List Char) :
    Target.parameterText (encode isUnreserved value) = String.ofList value := by
  have ascii : ∀ c ∈ encode isUnreserved value, c.toNat < 128 := by
    intro c member
    obtain plain | rfl := Percent.mem_encode member
    · exact Percent.ascii_of_unreserved plain
    · decide
  have noPlus : (encode isUnreserved value).map (fun c => if c = '+' then ' ' else c) =
      encode isUnreserved value := by
    refine (List.map_congr_left fun c member => if_neg ?_).trans (List.map_id _)
    rintro rfl
    exact Percent.notMem_encode (by decide) (by decide) member
  unfold Target.parameterText
  dsimp only
  rw [latin_ascii ascii, noPlus]
  have back : Percent.decode ([] ++ encode isUnreserved value) = [] ++ value :=
    Percent.decode_encode (by decide) (by simp) value
  exact congrArg String.ofList back

/-- The parameters of a query that gives one parameter an escaped value. -/
theorem parameters_escaped (path : List Char) {key : String}
    (plain : ∀ c ∈ key.toList, isUnreserved c = true) (value : String) :
    Target.parameters ⟨path, key.toList ++ '=' :: encode isUnreserved value.toList⟩ =
      [(key, value)] := by
  have divides : ∀ {x : Char}, isUnreserved x = false → x ∉ key.toList := by
    intro x marks member
    rw [plain x member] at marks
    cases marks
  have alone : '&' ∉ key.toList ++ '=' :: encode isUnreserved value.toList := by
    simp only [List.mem_append, List.mem_cons, not_or]
    exact ⟨divides (by decide), by decide, Percent.notMem_encode (by decide) (by decide)⟩
  have noSign : ∀ c ∈ key.toList, (c != '=') = true := by
    intro c member
    rw [bne_iff_ne]
    rintro rfl
    exact divides (by decide) member
  have keyText : Target.parameterText key.toList = key := by
    have read := parameterText_encode key.toList
    rwa [Percent.encode_plain plain, String.ofList_toList] at read
  have split : Target.parameter (key.toList ++ '=' :: encode isUnreserved value.toList) =
      (key, value) := by
    unfold Target.parameter
    rw [List.takeWhile_append_of_pos noSign, List.dropWhile_append_of_pos noSign]
    simp [keyText, parameterText_encode]
  unfold Target.parameters
  dsimp only
  rw [Text.splitOnChar_single alone]
  simp [split]

end Parameters

end EventFlow.Service
