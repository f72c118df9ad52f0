import EventFlow.Flow.Order
import EventFlow.Text.Quoted
import EventFlow.Value.Wire

/-!
Flows in words: where an input comes from, how a node is wired, and the whole flow in listing order.
-/

namespace EventFlow

/-- A node of a flow by its name, or else by its id. -/
def Flow.nodeLabel (f : Flow) (id : Int) : Worded String :=
  match f.node? id with
  | some node => .ok ("[" ++ node.name ++ "]")
  | none => (Text.ofInt id).map fun shown => "#" ++ shown ++ " (missing)"

/-- Whether the host can write what an input reads. -/
def Reference.isWorded : Reference → Bool
  | constant value => value.isBrief
  | output _ _ => true

/-- Where an input comes from. -/
def Reference.describe (flow : Option Flow) : Reference → Worded String
  | constant value => value.format
  | output id index =>
    match flow.bind (·.node? id) with
    | some node => (node.outputName index).map fun output => "from [" ++ node.name ++ "]." ++ output
    | none => do
      return "from #" ++ (← Text.ofInt id) ++ "[" ++ (← Text.ofInt index) ++ "] (missing)"

namespace Node

def inputLine (n : Node) (flow : Flow) (position : Nat) (source : Reference) : Worded String :=
  (source.describe (some flow)).map fun origin =>
    "  in  " ++ Port.nameAt n.type.layout.inputs position ++ ": " ++ origin

def outputLine (port : Port) : String :=
  "  out " ++ port.name

def branchLine (n : Node) (flow : Flow) (position : Nat) (next : Int) : Worded String :=
  let label := if n.branchCount = 1 then "connect" else Port.nameAt n.type.layout.branches position
  (if next < 0 then .ok "(none)" else flow.nodeLabel next).map fun target =>
    "  " ++ label ++ " -> " ++ target

/-- How a node is wired, a line for each port. -/
def describe (n : Node) (flow : Flow) : Worded String := do
  let shown ← Text.ofInt n.id
  let title := "[" ++ n.name ++ "] " ++ n.type.layout.title ++ " #" ++ shown
  let inputs ← Worded.all (n.inputs.mapIdx (n.inputLine flow))
  let branches ← Worded.all (n.next.mapIdx (n.branchLine flow))
  return String.intercalate "\n"
    (title :: inputs ++ n.type.layout.outputs.map outputLine ++ branches)

/-- A node in short. -/
def summary (n : Node) : Worded String :=
  (Text.ofInt n.id).map fun shown =>
    n.type.label ++ "(id=" ++ shown ++ ", name=" ++ Text.quoted n.name ++ ")"

end Node

namespace Flow

def describe (f : Flow) : Worded String :=
  let title := "Flow '" ++ f.name ++ "' (" ++ toString f.nodes.length ++ " nodes)"
  (Worded.all (f.ordered.map fun n => n.describe f)).map fun nodes =>
    String.intercalate "\n" (title :: nodes)

/-- A flow in short. -/
def summary (f : Flow) : Worded String :=
  (Text.ofInt f.start).map fun shown =>
    "LogicFlow(name=" ++ Text.quoted f.name ++ ", nodes=" ++ toString f.nodes.length ++
      ", start=" ++ shown ++ ")"

end Flow

end EventFlow
