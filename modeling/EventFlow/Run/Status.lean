import EventFlow.Flow.Description

/-!
What a run knows of one node: what it saw and did when it last ran. The trace of a run is the list
of these statuses, one for each step.
-/

namespace EventFlow

structure Status where
  node : Int
  name : String
  executed : Bool
  inputs : List Value
  outputs : List Value
  branch : Option Int
  next : Int
  deriving DecidableEq, Repr

namespace Status

/-- The status of a node that has not run. -/
def fresh (n : Node) : Status where
  node := n.id
  name := n.name
  executed := false
  inputs := []
  outputs := n.type.layout.outputs.map fun _ => .absent
  branch := none
  next := -1

/-- The status as it was before its node ran. -/
def reset (s : Status) : Status :=
  { s with
    executed := false
    inputs := []
    outputs := s.outputs.map fun _ => .absent
    branch := none
    next := -1 }

/-- Values with the names of their ports. -/
def named (ports : List Port) (values : List Value) : Worded String :=
  (Worded.all (values.mapIdx fun i v =>
    v.format.map fun shown => Port.nameAt ports i ++ "=" ++ shown)).map (String.intercalate ", ")

/-- What a node saw and did in one step. The ports of a node that is not in the flow have no
names. -/
def describe (s : Status) (step : Nat) (flow : Flow) : Worded String := do
  let layout := (flow.node? s.node).map fun n => n.type.layout
  let inputs ← named (layout.elim [] Layout.inputs) s.inputs
  let outputs ← named (layout.elim [] Layout.outputs) s.outputs
  let next ← (if s.next < 0 then .ok "end" else flow.nodeLabel s.next)
  let seen := if s.inputs.isEmpty then "" else " in: " ++ inputs
  let done := if s.outputs.isEmpty then "" else " out: " ++ outputs
  return "#" ++ toString step ++ " [" ++ s.name ++ "]" ++ seen ++ done ++ " -> " ++ next

end Status

end EventFlow
