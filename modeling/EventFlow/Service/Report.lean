import EventFlow.Document.Writing
import EventFlow.Edit.Editor
import EventFlow.Node.Catalog
import EventFlow.Run.Basic

/-!
Node types, runs and flows under edit as the service reports them. The framework writes the integers
of a report whatever their size; only the parts that are put into words may fail.
-/

namespace EventFlow

def Port.json (p : Port) : Json :=
  .object [
    ("name", .text p.name),
    ("description", .text p.description),
    ("data_type", .text p.dataType)]

def NodeType.json (t : NodeType) : Json :=
  .object [
    ("type", .text t.key),
    ("is_event", .bool t.isEvent),
    ("display_name", .text t.layout.title),
    ("description", .text t.layout.description),
    ("inputs", .array (t.layout.inputs.map Port.json)),
    ("outputs", .array (t.layout.outputs.map Port.json)),
    ("branches", .array (t.layout.branches.map Port.json))]

/-- A value as JSON, where vectors and the floats without digits become text. -/
def Value.json (v : Value) : Json :=
  match v.report with
  | .absent => .null
  | .bool b => .bool b
  | .int n => .int n
  | .float x => .float x.toFloat
  | v => .text v.wire

def Json.ofOption {α : Type} (f : α → Json) : Option α → Json
  | some x => f x
  | none => .null

def Status.json (s : Status) : Json :=
  .object [
    ("node_id", .int s.node),
    ("node_name", .text s.name),
    ("executed", .bool s.executed),
    ("inputs", .array (s.inputs.map Value.json)),
    ("outputs", .array (s.outputs.map Value.json)),
    ("branch_index", .ofOption .int s.branch),
    ("next_node_id", .int s.next)]

/-- A message; when it was sent is not modelled, only that it was. -/
def Message.json (m : Message) : Json :=
  .object [
    ("receiver", .text m.receiver),
    ("channel", .text m.channel),
    ("text", .text m.text),
    ("node_name", .text m.node),
    ("created_at", .bool true)]

def Failure.json (f : Failure) : Json :=
  .object [
    ("kind", .text f.word),
    ("message", .text f.message),
    ("cause", .ofOption (fun c => .text c.summary) f.cause?)]

/-- A run under its label. Times are not modelled, only whether they are set: those of a run that
has not begun are not. -/
def Run.report (r : Run) (label rendered : String) : Json :=
  let time : Json := if r.phase = .pending then .null else .bool true
  .object [
    ("run_id", .text label),
    ("flow_name", .text r.flow.name),
    ("status", .text r.phase.word),
    ("step_count", .int r.stepCount),
    ("max_steps", .int r.limit),
    ("variables", .object (r.bindings.map fun p => (p.1, p.2.json))),
    ("trace", .array (r.trace.map Status.json)),
    ("messages", .array (r.messages.map Message.json)),
    ("error", .ofOption Failure.json r.failure),
    ("started_at", time),
    ("completed_at", time),
    ("duration_ms", time),
    ("rendered", .text rendered)]

/-- The report of a run, which holds the run in words too. -/
def Run.json (r : Run) (label : String) : Worded Json :=
  (r.describe label).map (r.report label)

/-- The members of a flow's summary. -/
def Editor.summaryMembers (e : Editor) : List (String × Json) := [
  ("name", .text e.flow.name),
  ("node_count", .int e.flow.nodes.length),
  ("start_node", .ofOption (fun n => .text n.name) e.flow.startNode?),
  ("start_type", .ofOption .text e.flow.startType?),
  ("enabled", .bool e.enabled),
  ("can_undo", .bool !e.undoable.isEmpty),
  ("can_redo", .bool !e.redoable.isEmpty)]

def Editor.summaryJson (e : Editor) : Json := .object e.summaryMembers

/-- A flow's summary with its wiring and its document. -/
def Editor.infoJson (e : Editor) : Except WriteError Json := do
  let rendered ← e.flow.describe.mapError .wording
  let document ← e.flow.document
  return .object (e.summaryMembers ++ [("rendered", .text rendered), ("document", document)])

end EventFlow
