import EventFlow.Text.Wording

/-!
The ports of a node type: its inputs, outputs and branches, whose numbers never change.
-/

namespace EventFlow

/-- One input, output or branch, with the kind of value it is meant for. -/
structure Port where
  name : String
  description : String
  dataType : String
  deriving DecidableEq, Repr

structure Layout where
  title : String
  description : String
  inputs : List Port
  outputs : List Port
  branches : List Port
  deriving DecidableEq, Repr

namespace Port

def branch (name description : String) : Port := ⟨name, description, "branch"⟩

/-- The name of the port at a position; a position without a port is its own name. -/
def nameAt (ports : List Port) (position : Nat) : String :=
  match ports[position]? with
  | some port => port.name
  | none => toString position

/-- The name of the port at an index; an index without a port is its own name. -/
def label (ports : List Port) (index : Int) : Worded String :=
  match index with
  | .ofNat i =>
    match ports[i]? with
    | some port => .ok port.name
    | none => Text.ofInt index
  | .negSucc _ => Text.ofInt index

end Port

end EventFlow
