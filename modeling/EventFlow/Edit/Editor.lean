import EventFlow.Edit.Change
import EventFlow.Run.Basic

/-!
The editor of one flow: nine commands that address nodes by name, and undo and redo. A command is
applied, refused with a reason, or breaks off; only an applied one is recorded.
-/

namespace EventFlow

/-- A flow under edit. Both stacks have the latest edit first. -/
structure Editor where
  flow : Flow
  enabled : Bool
  undoable : List Edit
  redoable : List Edit
  deriving DecidableEq, Repr

/-- The edits that a user can ask for. -/
inductive Command where
  | createNode (type name : String)
  | removeNode (name : String)
  | renameNode (name newName : String)
  | replaceStart (type name : String)
  | setConstant (name : String) (index : Int) (value : Value)
  | setReference (name : String) (index : Int) (source : String) (sourceIndex : Int)
  | disconnectInput (name : String) (index : Int)
  | setNext (name : String) (index : Int) (next : String)
  | disconnectNext (name : String) (index : Int)
  deriving DecidableEq, Repr

/-- Why a command changes nothing. -/
inductive Refusal where
  | noNode (name : String)
  | nodeExists (name : String)
  | startNode (name : String)
  | nameTaken (name : String)
  | noInput (name : String) (index : Int)
  | noOutput (name : String) (index : Int)
  | noBranch (name : String) (index : Int)
  deriving DecidableEq, Repr

def Refusal.message : Refusal → Worded String
  | noNode name => .ok ("no node '" ++ name ++ "'")
  | nodeExists name => .ok ("node '" ++ name ++ "' already exists")
  | startNode name => .ok ("'" ++ name ++ "' is the start node")
  | nameTaken name => .ok ("name '" ++ name ++ "' is already taken")
  | noInput name index => (Text.ofInt index).map fun i => "'" ++ name ++ "' has no input " ++ i
  | noOutput name index => (Text.ofInt index).map fun i => "'" ++ name ++ "' has no output " ++ i
  | noBranch name index => (Text.ofInt index).map fun i => "'" ++ name ++ "' has no branch " ++ i

/-- What becomes of a command. -/
inductive Outcome where
  | created (id : Int)
  | applied
  | refused (reason : Refusal)
  | failed (error : EditError)
  deriving DecidableEq, Repr

/-- An editor after a command, with its outcome and what was reported. -/
structure Edited where
  editor : Editor
  outcome : Outcome
  log : Log
  deriving Repr

/-- Whether an index is one of `count` slots. -/
def isSlot (index : Int) (count : Nat) : Bool :=
  0 ≤ index && index < count

namespace Editor

def ofFlow (f : Flow) : Editor := ⟨f, false, [], []⟩

/-- The type of a key, which has to be an event type. -/
def eventType (c : Catalog) (key : String) : Except EditError NodeType :=
  match c.find? key with
  | none => .error (.unknownType ⟨key⟩)
  | some type => if type.isEvent then .ok type else .error (.notEvent key)

/-- The flow that holds only a start node. -/
def startFlow (name : String) (type : NodeType) (startName : String) : Flow :=
  ((Flow.empty name).reserveId.addNode (Node.fresh type 1 startName)).setStart 1

/-- An editor of a new flow with a start node. -/
def create (c : Catalog) (name type startName : String) : Except EditError Editor :=
  (eventType c type).map fun type => ofFlow (startFlow name type startName)

def fail (e : Editor) (error : EditError) : Edited := ⟨e, .failed error, []⟩

/-- A command that is refused, unless the reason cannot be put into words. -/
def refuse (e : Editor) (reason : Refusal) : Edited :=
  match reason.message with
  | .ok text =>
    ⟨e, .refused reason, [info ("Flow '" ++ e.flow.name ++ "': " ++ text ++ ", nothing changed")]⟩
  | .error error => e.fail (.wording error)

/-- The editor after an edit: it is the next one to undo, nothing is left to redo, and the flow no
longer runs on events. -/
def perform (c : Catalog) (e : Editor) (outcome : Outcome) (edit : Edit) : Edited :=
  let after := applyAll c e.flow edit.forward
  match after.error with
  | some error => ⟨{ e with flow := after.flow }, .failed error, after.log⟩
  | none => ⟨⟨after.flow, false, edit :: e.undoable, []⟩, outcome, after.log⟩

/-- The editor with one id used up. -/
def reserve (e : Editor) : Editor :=
  { e with flow := e.flow.reserveId }

def createNode (c : Catalog) (e : Editor) (type name : String) : Edited :=
  if (e.flow.nodeNamed? name).isSome then e.refuse (.nodeExists name)
  else
    let e := e.reserve
    let id := e.flow.counter
    match c.make type id name with
    | .error error => e.fail (.unknownType error)
    | .ok node =>
      e.perform c (.created id)
        ⟨"create " ++ type ++ " '" ++ name ++ "'", [.addNode node], [.removeNode id]⟩

def removeNode (c : Catalog) (e : Editor) (name : String) : Edited :=
  match e.flow.nodeNamed? name with
  | none => e.refuse (.noNode name)
  | some node =>
    if node.id = e.flow.start then e.refuse (.startNode name)
    else
      match c.copy node with
      | .error error => e.fail (.unknownType error)
      | .ok snapshot =>
        e.perform c .applied ⟨"remove '" ++ name ++ "'", [.removeNode node.id], [.addNode snapshot]⟩

def renameNode (c : Catalog) (e : Editor) (name newName : String) : Edited :=
  match e.flow.nodeNamed? name with
  | none => e.refuse (.noNode name)
  | some node =>
    if name = newName || (e.flow.nodeNamed? newName).isSome then e.refuse (.nameTaken newName)
    else
      e.perform c .applied ⟨"rename '" ++ name ++ "' to '" ++ newName ++ "'",
        [.rename node.id newName], [.rename node.id name]⟩

/-- The successors of an old node taken over slot by slot, as far as both nodes have branches. A
type that has changed may give a node more branches than it has slots; those cannot be taken
over. -/
def inheritNext (new old : Node) : Except EditError Node :=
  let count := min new.branchCount old.branchCount
  if old.next.length < count then .error .noSlotToRead
  else .ok { new with next := old.next.take count ++ new.next.drop count }

/-- Whether a node other than `old` has the name. -/
def isTakenBesides (f : Flow) (old : Option Node) (name : String) : Bool :=
  match f.nodeNamed? name, old with
  | none, _ => false
  | some _, none => true
  | some node, some old => node.id != old.id

def replaceStart (c : Catalog) (e : Editor) (key name : String) : Edited :=
  match eventType c key with
  | .error error => e.fail error
  | .ok type =>
    let old := e.flow.startNode?
    if isTakenBesides e.flow old name then e.refuse (.nodeExists name)
    else
      let e := e.reserve
      let new := Node.fresh type e.flow.counter name
      match old with
      | none =>
        e.perform c .applied ⟨"set start node " ++ key ++ " '" ++ name ++ "'",
          [.addNode new, .setStart new.id], [.setStart e.flow.start, .removeNode new.id]⟩
      | some old =>
        match inheritNext new old, c.copy old with
        | .error error, _ => e.fail error
        | .ok _, .error error => e.fail (.unknownType error)
        | .ok new, .ok snapshot =>
          e.perform c .applied
            ⟨"replace start node '" ++ old.name ++ "' with " ++ key ++ " '" ++ name ++ "'",
              [.addNode new, .setStart new.id, .removeNode old.id],
              [.addNode snapshot, .setStart old.id, .removeNode new.id]⟩

/-- Connects an input of a node. The edit is described before anything else is done. -/
def connectInput (c : Catalog) (e : Editor) (node : Node) (index : Nat) (source : Reference) :
    Edited :=
  match source.describe (some e.flow), node.inputs[index]? with
  | .error error, _ => e.fail (.wording error)
  | .ok _, none => e.fail .noSlotToRead
  | .ok origin, some before =>
    e.perform c .applied
      ⟨"set input " ++ toString index ++ " of '" ++ node.name ++ "' to " ++ origin,
        [.setInput node.id index source], [.setInput node.id index before]⟩

/-- Points a branch of a node at an id. The edit is described before anything else is done. -/
def connectNext (c : Catalog) (e : Editor) (node : Node) (index : Nat) (next : Int) : Edited :=
  match Text.ofInt next, node.next[index]? with
  | .error error, _ => e.fail (.wording error)
  | .ok _, none => e.fail .noSlotToRead
  | .ok shown, some before =>
    e.perform c .applied
      ⟨"set branch " ++ toString index ++ " of '" ++ node.name ++ "' to #" ++ shown,
        [.setNext node.id index next], [.setNext node.id index before]⟩

def setInput (c : Catalog) (e : Editor) (name : String) (index : Int) (source : Reference) :
    Edited :=
  match e.flow.nodeNamed? name with
  | none => e.refuse (.noNode name)
  | some node =>
    if isSlot index node.inputCount then e.connectInput c node index.toNat source
    else e.refuse (.noInput name index)

def setReference (c : Catalog) (e : Editor) (name : String) (index : Int) (source : String)
    (sourceIndex : Int) : Edited :=
  match e.flow.nodeNamed? name, e.flow.nodeNamed? source with
  | none, _ => e.refuse (.noNode name)
  | some _, none => e.refuse (.noNode source)
  | some node, some from_ =>
    if !isSlot index node.inputCount then e.refuse (.noInput name index)
    else if !isSlot sourceIndex from_.outputCount then e.refuse (.noOutput source sourceIndex)
    else e.connectInput c node index.toNat (.output from_.id sourceIndex)

def setNext (c : Catalog) (e : Editor) (name : String) (index : Int) (next : String) : Edited :=
  match e.flow.nodeNamed? name, e.flow.nodeNamed? next with
  | none, _ => e.refuse (.noNode name)
  | some _, none => e.refuse (.noNode next)
  | some node, some target =>
    if isSlot index node.branchCount then e.connectNext c node index.toNat target.id
    else e.refuse (.noBranch name index)

def disconnectNext (c : Catalog) (e : Editor) (name : String) (index : Int) : Edited :=
  match e.flow.nodeNamed? name with
  | none => e.refuse (.noNode name)
  | some node =>
    if isSlot index node.branchCount then e.connectNext c node index.toNat (-1)
    else e.refuse (.noBranch name index)

/-- Carries out a command. -/
def edit (c : Catalog) (e : Editor) : Command → Edited
  | .createNode type name => e.createNode c type name
  | .removeNode name => e.removeNode c name
  | .renameNode name newName => e.renameNode c name newName
  | .replaceStart type name => e.replaceStart c type name
  | .setConstant name index value => e.setInput c name index (.constant value)
  | .setReference name index source sourceIndex => e.setReference c name index source sourceIndex
  | .disconnectInput name index => e.setInput c name index .empty
  | .setNext name index next => e.setNext c name index next
  | .disconnectNext name index => e.disconnectNext c name index

/-- An editor after undo or redo: whether there was something to do, and why it broke off if it
did. -/
structure Moved where
  editor : Editor
  moved : Bool
  error : Option EditError
  log : Log
  deriving Repr

/-- Reverts the latest edit. An edit that cannot be reverted is dropped. -/
def undo (c : Catalog) (e : Editor) : Moved :=
  match e.undoable with
  | [] => ⟨e, false, none, []⟩
  | edit :: rest =>
    let after := applyAll c e.flow edit.inverse
    match after.error with
    | some error => ⟨{ e with flow := after.flow, undoable := rest }, false, some error, after.log⟩
    | none => ⟨⟨after.flow, false, rest, edit :: e.redoable⟩, true, none, after.log⟩

/-- Applies the latest reverted edit again. An edit that cannot be applied is dropped. -/
def redo (c : Catalog) (e : Editor) : Moved :=
  match e.redoable with
  | [] => ⟨e, false, none, []⟩
  | edit :: rest =>
    let after := applyAll c e.flow edit.forward
    match after.error with
    | some error => ⟨{ e with flow := after.flow, redoable := rest }, false, some error, after.log⟩
    | none => ⟨⟨after.flow, false, edit :: e.undoable, rest⟩, true, none, after.log⟩

/-- The descriptions of a stack of edits, the oldest first. -/
def descriptions (edits : List Edit) : List String :=
  edits.reverse.map Edit.description

/-- An editor in short. -/
def summary (e : Editor) : Worded String :=
  e.flow.summary.map fun flow =>
    "FlowManager(flow=" ++ flow ++ ", enabled=" ++ (if e.enabled then "True" else "False") ++ ")"

/-- Starts a run on a copy of the flow. -/
def start (c : Catalog) (e : Editor) (limit : Int) (listener : Listener) :
    Except UnknownType Run :=
  (e.flow.copy c).map fun flow => .pending flow limit listener

end Editor

end EventFlow
