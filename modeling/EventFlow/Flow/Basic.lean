import EventFlow.Node.Catalog

/-!
Flows: nodes under distinct ids, the id of the start node, and the counter that new ids come from.
All links between nodes are ids, and an id may well belong to no node.
-/

namespace EventFlow

/-- A flow. Its nodes are in the order of their insertion, which only copying shows. -/
structure Flow where
  name : String
  nodes : List Node
  start : Int
  counter : Int
  deriving DecidableEq, Repr

namespace Flow

def empty (name : String) : Flow := ⟨name, [], -1, 0⟩

def node? (f : Flow) (id : Int) : Option Node :=
  f.nodes.find? fun n => n.id == id

def has (f : Flow) (id : Int) : Bool :=
  (f.node? id).isSome

def startNode? (f : Flow) : Option Node :=
  f.node? f.start

/-- The type key of the start node. -/
def startType? (f : Flow) : Option String :=
  f.startNode?.map fun n => n.type.key

/-- The nodes with a node put in: a node of the same id is replaced in its place. -/
def insert : List Node → Node → List Node
  | [], node => [node]
  | n :: rest, node => if n.id = node.id then node :: rest else n :: insert rest node

def addNode (f : Flow) (node : Node) : Flow :=
  { f with nodes := insert f.nodes node, counter := max f.counter node.id }

def removeNode (f : Flow) (id : Int) : Flow :=
  { f with nodes := f.nodes.filter fun n => n.id != id }

/-- The flow with the node of an id changed. -/
def modifyNode (f : Flow) (id : Int) (change : Node → Node) : Flow :=
  { f with nodes := f.nodes.map fun n => if n.id = id then change n else n }

/-- The flow after reserving the next id, which is its new counter. -/
def reserveId (f : Flow) : Flow :=
  { f with counter := f.counter + 1 }

def setStart (f : Flow) (id : Int) : Flow :=
  { f with start := id }

/-- What setting the start reports: a warning if the id belongs to no node. -/
def setStartLog (f : Flow) (id : Int) : Worded Log :=
  if f.has id then .ok []
  else (Text.ofInt id).map fun shown =>
    [warning ("Flow '" ++ f.name ++ "': start node #" ++ shown ++ " is not in the flow")]

/-- The node with the lowest id of the two. -/
def lower (a : Option Node) (b : Node) : Option Node :=
  match a with
  | none => some b
  | some a => if b.id < a.id then some b else some a

/-- The node of a name, the one with the lowest id if there are several. -/
def nodeNamed? (f : Flow) (name : String) : Option Node :=
  (f.nodes.filter fun n => n.name == name).foldl lower none

/-- A copy with every node made anew through the catalog. -/
def copy (c : Catalog) (f : Flow) : Except UnknownType Flow := do
  let nodes ← f.nodes.mapM c.copy
  return { f with nodes := nodes }

end Flow

end EventFlow
