import EventFlow.Proofs.Document.RoundTrip
import EventFlow.Service.Basic

/-!
Which answers can be sent.

* `finite_run`, `finite_info`: runs and flows are reported without floats that JSON has no numeral
  for;
* `gives_sendable`, `sendable_notFound`: so an answer is sent as it is, unless it has half a pair.
-/

namespace EventFlow

namespace Service

/-- A value without floats that JSON has no numeral for. -/
def Finite (j : Json) : Prop :=
  ∀ leaf ∈ j.leaves, Response.isBoundless leaf = false

section Finite

@[simp] theorem finite_null : Finite .null := by simp [Finite, Json.leaves, Response.isBoundless]

@[simp] theorem finite_bool (b : Bool) : Finite (.bool b) := by
  simp [Finite, Json.leaves, Response.isBoundless]

@[simp] theorem finite_int (n : Int) : Finite (.int n) := by
  simp [Finite, Json.leaves, Response.isBoundless]

@[simp] theorem finite_text (s : String) : Finite (.text s) := by
  simp [Finite, Json.leaves, Response.isBoundless]

@[simp] theorem finite_array {xs : List Json} : Finite (.array xs) ↔ ∀ x ∈ xs, Finite x := by
  unfold Finite
  simp only [Json.mem_leaves_array]
  constructor
  · exact fun all x member leaf inner => all leaf ⟨x, member, inner⟩
  · rintro all leaf ⟨x, member, inner⟩
    exact all x member leaf inner

@[simp] theorem finite_object {ms : List (String × Json)} :
    Finite (.object ms) ↔ ∀ m ∈ ms, Finite m.2 := by
  unfold Finite
  simp only [Json.mem_leaves_object]
  constructor
  · exact fun all m member leaf inner => all leaf ⟨m, member, .inr inner⟩
  · rintro all leaf ⟨m, member, rfl | inner⟩
    · rfl
    · exact all m member leaf inner

theorem finite_plain {depth : Nat} {j : Json} (plain : Json.Plain depth j) : Finite j := by
  induction plain with
  | null => exact finite_null
  | bool b => exact finite_bool b
  | int n => exact finite_int n
  | text s => exact finite_text s
  | array _ ih => exact finite_array.mpr ih
  | object _ _ ih => exact finite_object.mpr ih

theorem finite_option {α : Type} {f : α → Json} (finite : ∀ x, Finite (f x)) (o : Option α) :
    Finite (.ofOption f o) := by
  cases o with
  | none => exact finite_null
  | some x => exact finite x

/-- Floats without digits are reported as texts. -/
theorem finite_value (v : Value) : Finite v.json := by
  cases v with
  | float x =>
    unfold Value.json Value.report
    by_cases finite : Number.isFinite x.toFloat
    · simp [finite, Finite, Json.leaves, Response.isBoundless]
    · simp [finite]
  | absent | bool | int | text | vec2 | vec3 => simp [Value.json, Value.report]

theorem finite_status (s : Status) : Finite s.json := by
  have branch := finite_option finite_int s.branch
  simp [Status.json, finite_value, branch]

theorem finite_failure (f : Failure) : Finite f.json := by
  have cause : Finite (.ofOption (fun c => .text c.summary) f.cause?) :=
    finite_option (fun _ => finite_text _) f.cause?
  simp [Failure.json, cause]

theorem finite_run {r : Run} {label : String} {report : Json} (told : r.json label = .ok report) :
    Finite report := by
  obtain ⟨rendered, -, rfl⟩ := Except.exists_of_map_eq_ok told
  have failure := finite_option finite_failure r.failure
  have time : Finite (if r.phase = .pending then .null else .bool true) := by
    split
    · exact finite_null
    · exact finite_bool true
  have bindings : Finite (.object (r.bindings.map fun p => (p.1, p.2.json))) := by
    refine finite_object.mpr fun m member => ?_
    obtain ⟨p, -, rfl⟩ := List.mem_map.mp member
    exact finite_value p.2
  have trace : Finite (.array (r.trace.map Status.json)) := by simp [finite_status]
  have messages : Finite (.array (r.messages.map Message.json)) := by simp [Message.json]
  refine finite_object.mpr ?_
  simp only [List.forall_mem_cons, finite_text, finite_int, bindings, trace, messages, failure,
    time, List.not_mem_nil, IsEmpty.forall_iff, implies_true, and_self]

theorem finite_summary (e : Editor) : ∀ m ∈ e.summaryMembers, Finite m.2 := by
  have start : Finite (.ofOption (fun n => .text n.name) e.flow.startNode?) :=
    finite_option (fun _ => finite_text _) e.flow.startNode?
  have type : Finite (.ofOption .text e.flow.startType?) :=
    finite_option finite_text e.flow.startType?
  simp [Editor.summaryMembers, start, type]

theorem finite_info {e : Editor} {report : Json} (told : e.infoJson = .ok report) :
    Finite report := by
  obtain ⟨rendered, -, told⟩ := Except.exists_of_bind_eq_ok told
  obtain ⟨document, written, same⟩ := Except.exists_of_bind_eq_ok told
  obtain ⟨nodes, -, rfl⟩ := Except.exists_of_map_eq_ok written
  cases same
  have document := finite_plain (Document.flowJson_plain e.flow 0)
  have summary := finite_summary e
  rw [finite_object, List.forall_mem_append]
  exact ⟨summary, by simp [document]⟩

end Finite

section Sendable

variable {settings : Settings} {j : Json}

/-- A response as it is sent if it has no boundless float: one that has half a pair is a failure of
the service. -/
def Response.sent (r : Response) (settings : Settings) : Response :=
  match r.body.bind Json.writingFault? with
  | none => r
  | some text => .internal settings text

theorem sendable_ok (finite : Finite j) :
    (Response.ok j).sendable settings = (Response.ok j).sent settings := by
  have bounded : j.leaves.any Response.isBoundless = false := by
    rw [List.any_eq_false]
    exact fun leaf member => by simp [finite leaf member]
  unfold Response.sendable Response.sent
  simp only [Response.ok, Response.ofJson, bounded, Bool.false_eq_true, ↓reduceIte,
    Option.bind_some, Nat.reduceLT]
  cases j.writingFault? <;> rfl

theorem sent_ok (whole : j.writingFault? = none) :
    (Response.ok j).sent settings = .ok j := by
  simp [Response.sent, Response.ok, Response.ofJson, whole]

theorem sent_fault (fault : j.writingFault? ≠ none) :
    ((Response.ok j).sent settings).status = 500 := by
  obtain ⟨text, found⟩ := Option.ne_none_iff_exists'.mp fault
  simp [Response.sent, Response.ok, Response.ofJson, found, Response.internal]

/-- The answer gives a value, which is sent unless it has half a pair. -/
def Gives (j : Json) (answer : Response) : Prop :=
  if j.writingFault? = none then answer = .ok j else answer.status = 500

theorem gives_sendable (finite : Finite j) (settings : Settings) :
    Gives j ((Response.ok j).sendable settings) := by
  unfold Gives
  rw [sendable_ok finite]
  split
  · rename_i whole
    exact sent_ok whole
  · rename_i fault
    exact sent_fault fault

/-- An answer is sent as it is, or a failure of the service. -/
theorem sendable_cases (r : Response) (settings : Settings) :
    r.sendable settings = r ∨ (r.sendable settings).status = 500 := by
  unfold Response.sendable
  split
  · exact .inl rfl
  · split
    · exact .inr rfl
    · split
      · exact .inr rfl
      · exact .inl rfl

theorem hex_low {x : Char} {width n : Nat} (member : x ∈ Text.hex width n) : x.toNat < 0x80 := by
  have digit : ∀ n < 16, (Text.hexDigit n).toNat < 0x80 := by decide
  induction width generalizing n with
  | zero => cases member
  | succ width ih =>
    rw [Text.hex, List.mem_append, List.mem_singleton] at member
    obtain front | rfl := member
    · exact ih front
    · exact digit _ (Nat.mod_lt _ (by decide))

theorem halfPair?_escapeChar {c x : Char} (whole : Text.halfPair? c = none)
    (member : x ∈ Json.escapeChar c) : Text.halfPair? x = none := by
  have ascii {d : Char} (low : d.toNat < 0x80) (either : x ∈ ['\\', d]) :
      Text.halfPair? x = none := by
    simp only [List.mem_cons, List.not_mem_nil, or_false] at either
    obtain rfl | rfl := either
    · exact Text.halfPair?_low (by decide)
    · exact Text.halfPair?_low low
  unfold Json.escapeChar at member
  split at member
  · exact ascii (by decide) member
  split at member
  · exact ascii (by decide) member
  split at member
  · exact ascii (by decide) member
  split at member
  · exact ascii (by decide) member
  split at member
  · exact ascii (by decide) member
  split at member
  · exact ascii (by decide) member
  split at member
  · exact ascii (by decide) member
  split at member
  · simp only [List.mem_cons] at member
    obtain rfl | rfl | digit := member
    · exact Text.halfPair?_low (by decide)
    · exact Text.halfPair?_low (by decide)
    · exact Text.halfPair?_low (hex_low digit)
  · rw [List.mem_singleton.mp member]
    exact whole

theorem halfPair?_quote {s : String} (whole : ∀ c ∈ s.toList, Text.halfPair? c = none) :
    ∀ x ∈ Json.quote s, Text.halfPair? x = none := by
  intro x member
  simp only [Json.quote, List.cons_append, List.mem_cons, List.mem_append, List.mem_flatMap,
    List.not_mem_nil, or_false] at member
  obtain rfl | ⟨c, inner, escapes⟩ | rfl := member
  · exact Text.halfPair?_low (by decide)
  · exact halfPair?_escapeChar (whole c inner) escapes
  · exact Text.halfPair?_low (by decide)

/-- A refusal can be sent if its text has no half of a pair. -/
theorem sendable_notFound {text : String} (whole : ∀ c ∈ text.toList, Text.halfPair? c = none) :
    (Response.notFound text).sendable settings = .notFound text := by
  have written : Json.encodingFault? (Json.object [("detail", .text text)]).compact = none := by
    refine Json.encodingFault?_eq_none_iff.mpr fun x member => ?_
    have quoted : x ∈ '\x7b' :: Json.quote "detail" ++ ':' :: Json.quote text ++ ['\x7d'] := by
      simpa [Json.compact, Json.compactMembers, Json.leaf] using member
    simp only [List.cons_append, List.mem_cons, List.mem_append, List.not_mem_nil, or_false]
      at quoted
    obtain rfl | (key | rfl | value) | rfl := quoted
    · exact Text.halfPair?_low (by decide)
    · exact halfPair?_quote (Text.halfPair?_ascii (by decide)) x key
    · exact Text.halfPair?_low (by decide)
    · exact halfPair?_quote whole x value
    · exact Text.halfPair?_low (by decide)
  simp [Response.sendable, Response.notFound, Response.detail, Response.ofJson, Json.leaves,
    Json.memberLeaves, Response.isBoundless, written]

end Sendable

end Service

end EventFlow
