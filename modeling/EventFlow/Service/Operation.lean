import EventFlow.Edit.Editor
import EventFlow.Service.Body
import EventFlow.Service.Payload
import EventFlow.Service.Target

/-!
The operations of the service, and the routes to them. A route leads from the segments of a path and
a method to an operation, which is complete once the rest of the request has been checked.
-/

namespace EventFlow.Service

open Schema

/-- What a client asks for. -/
inductive Operation where
  | overview
  | health
  | listFlows
  | createFlow (name eventType eventName : String)
  | loadFlow (file : String)
  | showFlow (name : String)
  | deleteFlow (name : String)
  | edit (flow : String) (command : Command)
  | undo (flow : String)
  | redo (flow : String)
  | enable (flow : String) (enabled : Bool)
  | runFlow (flow : String) (payload : List Value) (bindings : Bindings) (limit : Option Int)
  | saveFlow (flow : String) (replace : Bool)
  | listTypes
  | showType (key : String)
  | listRuns (flow : Option String)
  | showRun (token : String)
  | raise (event : String) (payload : List Value) (bindings : Bindings)
  deriving DecidableEq, Repr

inductive Method where
  | get
  | post
  | put
  | delete
  | other
  deriving DecidableEq, Repr

/-- The method of a word, which has to be in capitals. -/
def Method.ofText : String → Method
  | "GET" => get
  | "POST" => post
  | "PUT" => put
  | "DELETE" => delete
  | _ => other

/-- A route. Where the operation takes nothing from the body, the body is not even read. -/
structure Route where
  method : Method
  readsBody : Bool
  operation : Query → Option Json → Check Operation

namespace Route

/-- A route to an operation that needs nothing but its path. -/
def plain (method : Method) (operation : Operation) : Route :=
  ⟨method, false, fun _ _ => .ok operation⟩

/-- A route to an operation that is completed by the body. -/
def withBody {α : Type} (method : Method) (check : Json → Check α) (operation : α → Operation) :
    Route :=
  ⟨method, true, fun _ content => (Payload.ofBody check content).map operation⟩

/-- The index that a segment writes. -/
def index (segment : String) : Check Int :=
  Check.under (.field "path") (Check.under (.field "index") (integerText segment))

def withIndex (method : Method) (segment : String) (operation : Int → Operation) : Route :=
  ⟨method, false, fun _ _ => (index segment).map operation⟩

/-- A route to an operation that is completed by an index and the body. -/
def withIndexAndBody {α : Type} (method : Method) (segment : String) (check : Json → Check α)
    (operation : Int → α → Operation) : Route where
  method := method
  readsBody := true
  operation := fun _ content =>
    (Check.both (index segment) (Payload.ofBody check content)).map fun (i, x) => operation i x

end Route

open Route

/-- The routes to a part of a stored flow whose path ends in a fixed word. -/
def partRoutes (flow : String) : List String → List Route
  | ["nodes"] =>
    [withBody .post Payload.node fun (type, name) => .edit flow (.createNode type name)]
  | ["nodes", node, "rename"] =>
    [withBody .post Payload.newName fun name => .edit flow (.renameNode node name)]
  | ["nodes", node, "inputs", i, "const"] =>
    [withIndexAndBody .put i Payload.constant fun i v => .edit flow (.setConstant node i v)]
  | ["nodes", node, "inputs", i, "reference"] =>
    [withIndexAndBody .put i Payload.source fun i (source, output) =>
      .edit flow (.setReference node i source output)]
  | ["start"] =>
    [withBody .put Payload.node fun (type, name) => .edit flow (.replaceStart type name)]
  | ["undo"] => [plain .post (.undo flow)]
  | ["redo"] => [plain .post (.redo flow)]
  | ["enabled"] => [withBody .put Payload.enabled (.enable flow)]
  | ["run"] =>
    [withBody .post Payload.start fun (outputs, bindings, limit) =>
      .runFlow flow outputs bindings limit]
  | ["save"] => [withBody .post Payload.replace (.saveFlow flow)]
  | _ => []

/-- The routes whose path ends in a fixed word, or in a slash. -/
def fixedRoutes : List String → List Route
  | [""] => [plain .get .overview]
  | ["health"] => [plain .get .health]
  | ["flows", ""] =>
    [withBody .post Payload.flow fun (name, type, start) => .createFlow name type start,
      plain .get .listFlows]
  | ["flows", "load"] => [withBody .post Payload.file .loadFlow]
  | ["nodes", ""] => [plain .get .listTypes]
  | ["runs", ""] => [⟨.get, false, fun query _ => .ok (.listRuns (query.get? "flow"))⟩]
  | "flows" :: flow :: rest => if flow = "" || "" ∈ rest then [] else partRoutes flow rest
  | _ => []

/-- The routes whose path ends in a name or an index. -/
def namedRoutes : List String → List Route
  | ["flows", flow] => [plain .get (.showFlow flow), plain .delete (.deleteFlow flow)]
  | ["flows", flow, "nodes", node] => [plain .delete (.edit flow (.removeNode node))]
  | ["flows", flow, "nodes", node, "inputs", i] =>
    [withIndex .delete i fun i => .edit flow (.disconnectInput node i)]
  | ["flows", flow, "nodes", node, "next", i] =>
    [withIndexAndBody .put i Payload.target fun i next => .edit flow (.setNext node i next),
      withIndex .delete i fun i => .edit flow (.disconnectNext node i)]
  | ["nodes", key] => [plain .get (.showType key)]
  | ["runs", token] => [plain .get (.showRun token)]
  | ["events", event] =>
    [withBody .post Payload.event fun (outputs, bindings) => .raise event outputs bindings]
  | _ => []

/-- A text without the line break at its end. -/
def dropLineBreak (s : String) : String :=
  match s.toList.getLast? with
  | some '\n' => String.ofList s.toList.dropLast
  | _ => s

/-- All routes of a path, in order. A line break after a fixed word does not count, but one in a
name does. -/
def routes (t : Target) : List Route :=
  match t.segments? with
  | none => []
  | some segments =>
    let cut := segments.dropLast ++ (segments.getLast?.map dropLineBreak).toList
    fixedRoutes cut ++ if "" ∈ segments then [] else namedRoutes segments

end EventFlow.Service
