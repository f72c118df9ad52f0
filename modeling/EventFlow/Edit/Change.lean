import EventFlow.Flow.Description

/-!
Reversible edits. An edit holds the changes that apply it and those that revert it; changes hold
only ids and snapshots of nodes, so an edit can be applied to any later state of its flow.
-/

namespace EventFlow

/-- Why an edit breaks off. -/
inductive EditError where
  | unknownType (error : UnknownType)
  | notEvent (key : String)
  | noSlotToRead
  | noSlotToSet
  | wording (error : TextError)
  deriving DecidableEq, Repr

def EditError.message : EditError → String
  | unknownType error => error.message
  | notEvent key => "Node type '" ++ key ++ "' is not an event node"
  | noSlotToRead => "list index out of range"
  | noSlotToSet => "list assignment index out of range"
  | wording error => error.message

/-- One change of a flow. -/
inductive Change where
  | addNode (snapshot : Node)
  | removeNode (id : Int)
  | rename (id : Int) (name : String)
  | setInput (id : Int) (index : Nat) (source : Reference)
  | setNext (id : Int) (index : Nat) (next : Int)
  | setStart (id : Int)
  deriving DecidableEq, Repr

namespace Change

/-- The change applied to a flow. A change of a node that is not in the flow does nothing. The start
is set only once the warning that this may call for has been put into words. -/
def apply (c : Catalog) (f : Flow) : Change → Except EditError Flow
  | addNode snapshot =>
    match c.copy snapshot with
    | .ok node => .ok (f.addNode node)
    | .error error => .error (.unknownType error)
  | removeNode id => .ok (f.removeNode id)
  | rename id name => .ok (f.modifyNode id fun n => { n with name := name })
  | setInput id index source =>
    match f.node? id with
    | none => .ok f
    | some node =>
      if index < node.inputs.length then
        .ok (f.modifyNode id fun n => { n with inputs := n.inputs.set index source })
      else .error .noSlotToSet
  | setNext id index next =>
    match f.node? id with
    | none => .ok f
    | some node =>
      if index < node.next.length then
        .ok (f.modifyNode id fun n => { n with next := n.next.set index next })
      else .error .noSlotToSet
  | setStart id =>
    match f.setStartLog id with
    | .ok _ => .ok (f.setStart id)
    | .error error => .error (.wording error)

/-- What a change reports. -/
def log (f : Flow) : Change → Log
  | setStart id =>
    match f.setStartLog id with
    | .ok log => log
    | .error _ => []
  | _ => []

end Change

/-- A flow after some changes, what they reported, and why they broke off if they did. -/
structure Changed where
  flow : Flow
  log : Log
  error : Option EditError
  deriving Repr

/-- Changes applied in order, up to the first that breaks off. -/
def applyAll (c : Catalog) (f : Flow) : List Change → Changed
  | [] => ⟨f, [], none⟩
  | change :: rest =>
    match change.apply c f with
    | .error error => ⟨f, [], some error⟩
    | .ok g =>
      let after := applyAll c g rest
      ⟨after.flow, change.log f ++ after.log, after.error⟩

/-- A reversible edit, with what it does in words. -/
structure Edit where
  description : String
  forward : List Change
  inverse : List Change
  deriving DecidableEq, Repr

end EventFlow
