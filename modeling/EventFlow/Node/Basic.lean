import EventFlow.Node.Port
import EventFlow.Value.Basic

/-!
Nodes: what a node computes, where its inputs come from, and which nodes may follow it.
-/

namespace EventFlow

/-- The ways in which a node type of the host may break off a run. -/
inductive Breakdown where
  | crash
  | flowError
  | nodeFault
  deriving DecidableEq, Repr

/-- What a node does when it runs. The last five are for node types that a host adds. -/
inductive Computation where
  | addition
  | binary
  | unary
  | condition
  | getVariable
  | setVariable
  | broadcast
  | idle
  | choose
  | echo
  | write (writes : List (Int × Value))
  | breakOff (breakdown : Breakdown) (text : String)
  deriving DecidableEq, Repr

/-- A type of nodes under its key in the catalog; `label` is the name that summaries show. -/
structure NodeType where
  key : String
  label : String
  layout : Layout
  isEvent : Bool
  computation : Computation
  deriving DecidableEq, Repr

/-- Where an input comes from: a constant, or an output of a node. -/
inductive Reference where
  | constant (value : Value)
  | output (node index : Int)
  deriving DecidableEq, Repr

/-- The source of a disconnected input. -/
def Reference.empty : Reference := .constant .absent

/-- A node; `next` holds the id of the successor on each branch, minus one for none. -/
structure Node where
  id : Int
  type : NodeType
  name : String
  inputs : List Reference
  next : List Int
  deriving DecidableEq, Repr

namespace Node

/-- An unconnected node. -/
def fresh (type : NodeType) (id : Int) (name : String) : Node where
  id := id
  type := type
  name := name
  inputs := type.layout.inputs.map fun _ => .empty
  next := type.layout.branches.map fun _ => -1

def inputCount (n : Node) : Nat := n.type.layout.inputs.length

def outputCount (n : Node) : Nat := n.type.layout.outputs.length

def branchCount (n : Node) : Nat := n.type.layout.branches.length

def inputName (n : Node) (index : Int) : Worded String := Port.label n.type.layout.inputs index

def outputName (n : Node) (index : Int) : Worded String := Port.label n.type.layout.outputs index

def branchName (n : Node) (index : Int) : Worded String := Port.label n.type.layout.branches index

end Node

end EventFlow
