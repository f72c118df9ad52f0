import EventFlow.Run.Action
import EventFlow.Schema.Field
import EventFlow.Value.Wire

/-!
What operations take from the bodies of requests. A body is checked as a whole, so that all its
issues are reported.
-/

namespace EventFlow.Service

open Schema

namespace Payload

/-- The checked content of a body. -/
def ofBody {α : Type} (check : Json → Check α) (content : Option Json) : Check α :=
  Check.under (.field "body") (match content with
    | some json => check json
    | none => .fail .missing .null)

/-- The issues of something that is no value: it is none of the kinds that a value may have. -/
def noValue (json : Json) : Check Value :=
  .error [⟨[.field "bool"], .boolType, json⟩, ⟨[.field "float"], .floatType, json⟩,
    ⟨[.field "str"], .stringType, json⟩]

/-- A plain value: nothing, a boolean, a number or a text. Integers become floats. -/
def value : Json → Check Value
  | .null => .ok .absent
  | .bool b => .ok (.bool b)
  | .int n =>
    match Number.ofInt? n with
    | .ok x => .ok (.float x)
    | .error _ => noValue (.int n)
  | .float x => .ok (.float x)
  | .text s => .ok (.text s)
  | json => noValue json

/-- A value whose text is read as in flow files if `cast` is set. -/
def castIf (cast : Bool) (v : Value) : Value :=
  match cast, v with
  | true, .text s => Value.autoCast s
  | _, v => v

/-- A check of an object. -/
def object {α : Type} (check : Json → Check α) : Json → Check α
  | .object members => check (.object members)
  | json => .fail .attributesType json

/-- The field that asks for texts to be read as in flow files. -/
def cast (json : Json) : Check Bool :=
  optional "auto_cast" boolean false (json.get? "auto_cast")

def values (key : String) (json : Json) : Check (List Value) :=
  optional key (list value) [] (json.get? key)

def bindings (json : Json) : Check Bindings :=
  optional "variables" (dictionary value) [] (json.get? "variables")

/-- Name, event type and name of the start node of a new flow. -/
def flow : Json → Check (String × String × String) :=
  object fun json =>
    Check.both (required json "name" nonEmptyString)
      (Check.both (optional "event_type" string "TriggerNode" (json.get? "event_type"))
        (optional "event_name" string "start" (json.get? "event_name")))

/-- Type and name of a new node. -/
def node : Json → Check (String × String) :=
  object fun json =>
    Check.both (required json "type" string) (required json "name" nonEmptyString)

def newName : Json → Check String :=
  object fun json => required json "new_name" nonEmptyString

def constant : Json → Check Value :=
  object fun json =>
    (Check.both (optional "value" value .absent (json.get? "value")) (cast json)).map
      fun (v, cast) => castIf cast v

/-- The node that an input reads, and the index of its output. -/
def source : Json → Check (String × Int) :=
  object fun json =>
    Check.both (required json "source" string) (optional "index" natural 0 (json.get? "index"))

def target : Json → Check String :=
  object fun json => required json "target" string

def enabled : Json → Check Bool :=
  object fun json => required json "enabled" boolean

/-- What a run starts with, and its step limit. -/
def start : Json → Check (List Value × Bindings × Option Int) :=
  object fun json =>
    (Check.both (values "start_outputs" json) (Check.both (bindings json)
      (Check.both (optional "max_steps" (nullable natural) none (json.get? "max_steps"))
        (cast json)))).map
      fun (outputs, bindings, limit, cast) =>
        (outputs.map (castIf cast), bindings.map fun p => (p.1, castIf cast p.2), limit)

/-- What an event brings. -/
def event : Json → Check (List Value × Bindings) :=
  object fun json =>
    (Check.both (values "outputs" json) (Check.both (bindings json) (cast json))).map
      fun (outputs, bindings, cast) =>
        (outputs.map (castIf cast), bindings.map fun p => (p.1, castIf cast p.2))

def replace : Json → Check Bool :=
  object fun json => optional "replace" boolean true (json.get? "replace")

def file : Json → Check String :=
  object fun json => required json "file" string

end Payload

end EventFlow.Service
