import EventFlow.Document.Basic
import EventFlow.Document.Literal
import EventFlow.Flow.Basic
import EventFlow.Json.Reader
import EventFlow.Value.Wire

/-!
From a document to a flow. A document gives a flow as a whole or none at all: an id that comes twice
and a type that the catalog does not hold are errors, while missing or surplus ports are only
reported. What is to be reported has to be put into words, and so has a constant that is given as
anything but text.
-/

namespace EventFlow

/-- Why a text gives no flow. -/
inductive LoadError where
  | invalid (issues : List Schema.Issue)
  | duplicateId (id : Int) (flow : String)
  | unknownType (error : UnknownType)
  | wording (error : TextError)
  deriving Repr

def LoadError.message : LoadError → String
  | invalid issues => toString issues.length ++ " invalid fields"
  | duplicateId id flow => "Duplicate node id " ++ Text.decimal id ++ " in flow '" ++ flow ++ "'"
  | unknownType error => error.message
  | wording error => error.message

/-- The error of an id that comes twice, which its message shows. -/
def LoadError.repeated (id : Int) (flow : String) : LoadError :=
  match Text.ofInt id with
  | .ok _ => .duplicateId id flow
  | .error error => .wording error

/-- What loading gives, together with what it reports. -/
structure Loaded (α : Type) where
  result : Except LoadError α
  log : Log
  deriving Repr

namespace Document

/-- The source that an input entry describes. -/
def InputEntry.reference (e : InputEntry) : Reference :=
  if e.kind = "const" then
    match e.value.literal? with
    | some text => .constant (Value.autoCast text)
    | none => .empty
  else if e.kind = "reference" then
    match e.id with
    | some id => .output id (e.index.getD 0)
    | none => .empty
  else .empty

/-- What reading an input entry reports. -/
def InputEntry.log (e : InputEntry) (node : String) (index : Nat) : Log :=
  let place := "Node '" ++ node ++ "' input " ++ toString index ++ ": "
  if e.kind = "const" then []
  else if e.kind = "reference" then
    match e.id, e.index with
    | none, _ => [warning (place ++ "reference without id, disconnected")]
    | some _, none => [warning (place ++ "reference without index, using 0")]
    | some _, some _ => []
  else [warning (place ++ "unknown input type '" ++ e.kind ++ "', disconnected")]

/-- The entries put into the slots of a node, in order; slots without an entry stay. -/
def fill {α : Type} (slots entries : List α) : List α :=
  entries.take slots.length ++ slots.drop entries.length

def NodeEntry.node (e : NodeEntry) (type : NodeType) : Node :=
  let node := Node.fresh type e.id e.name
  { node with
    inputs := fill node.inputs (e.inputs.map InputEntry.reference)
    next := fill node.next (e.next.map fun id => if 0 ≤ id then id else -1) }

/-- A number of ports other than that of the type. -/
def countLog (node what : String) (given expected : Nat) : Log :=
  let counts := "Node '" ++ node ++ "' has " ++ toString given ++ " " ++ what ++ ", expected " ++
    toString expected ++ "; "
  if given < expected then [warning (counts ++ "missing " ++ what ++ " are disconnected")]
  else if expected < given then [warning (counts ++ "extra " ++ what ++ " are ignored")]
  else []

/-- Whether a constant can be put into words. -/
def InputEntry.isWorded (e : InputEntry) : Bool :=
  e.kind != "const" || e.value.brief

/-- Whether an entry without a name can be reported. -/
def NodeEntry.isNamable (e : NodeEntry) : Bool :=
  e.named || decide (Brief e.id)

/-- Whether a node entry can be read under its type, with all that there is to put into words. -/
def NodeEntry.isWorded (e : NodeEntry) (type : NodeType) : Bool :=
  e.isNamable && (e.inputs.take type.layout.inputs.length).all InputEntry.isWorded

/-- What reading the name and some inputs of an entry reports. -/
def NodeEntry.headLog (e : NodeEntry) (type : NodeType) (inputs : List InputEntry) : Log :=
  (if e.named then []
    else [warning ("Node #" ++ Text.decimal e.id ++ " has no name, using '" ++ e.name ++ "'")]) ++
    countLog e.name "inputs" e.inputs.length type.layout.inputs.length ++
    (inputs.mapIdx fun i input => input.log e.name i).flatten

/-- What reading a node entry reports. -/
def NodeEntry.log (e : NodeEntry) (type : NodeType) : Log :=
  e.headLog type (e.inputs.take type.layout.inputs.length) ++
    countLog e.name "branches" e.next.length type.layout.branches.length

/-- What reading a node entry reports before words fail. -/
def NodeEntry.brokenLog (e : NodeEntry) (type : NodeType) : Log :=
  if e.isNamable then
    e.headLog type ((e.inputs.take type.layout.inputs.length).takeWhile InputEntry.isWorded)
  else []

/-- Adds the nodes of a document to a flow, up to the first that cannot be added. -/
def addNodes (c : Catalog) (f : Flow) : List NodeEntry → Loaded Flow
  | [] => ⟨.ok f, []⟩
  | e :: rest =>
    if f.has e.id then ⟨.error (.repeated e.id f.name), []⟩
    else
      match c.find? e.type with
      | none => ⟨.error (.unknownType ⟨e.type⟩), []⟩
      | some type =>
        if e.isWorded type then
          let after := addNodes c (f.addNode (e.node type)) rest
          ⟨after.result, e.log type ++ after.log⟩
        else ⟨.error (.wording .tooManyDigits), e.brokenLog type⟩

/-- What reading a document reports before its nodes; `version` is the format that is expected. -/
def headLog (d : Document) (version : String) : Log :=
  (if d.version = version then []
    else [warning ("Flow '" ++ d.name ++ "' was written with format version " ++ d.version ++
      ", expected " ++ version)]) ++
    (if d.startGiven then [] else [warning ("Flow '" ++ d.name ++ "' has no startNodeId")])

/-- The flow that a document describes. -/
def toFlow (c : Catalog) (version : String) (d : Document) : Loaded Flow :=
  let nodes := addNodes c (Flow.empty d.name) d.nodes
  let head := d.headLog version ++ nodes.log
  match nodes.result with
  | .error error => ⟨.error error, head⟩
  | .ok f =>
    match f.setStartLog d.start with
    | .ok log => ⟨.ok (f.setStart d.start), head ++ log⟩
    | .error error => ⟨.error (.wording error), head⟩

/-- The flow that a document describes, for a caller that may give a catalog of its own. -/
def toFlowOf (standing : Catalog) (own : Option Catalog) (version : String) (d : Document) :
    Loaded Flow :=
  d.toFlow (standing.given own) version

end Document

/-- How the text of a document is read. -/
def Document.rules : Json.Rules := ⟨200, true⟩

/-- The flow that a text describes; `version` is the format that is expected. -/
def Flow.read (c : Catalog) (version : String) (text : List Char) : Loaded Flow :=
  match Json.read Document.rules text with
  | .error _ => ⟨.error (.invalid [⟨[], .jsonInvalid, .null⟩]), []⟩
  | .ok json =>
    match Document.check json with
    | .error issues => ⟨.error (.invalid issues), []⟩
    | .ok d => d.toFlow c version

/-- The flow that the bytes of a text describe. -/
def Flow.readBytes (c : Catalog) (version : String) (bytes : ByteArray) : Loaded Flow :=
  match String.fromUTF8? bytes with
  | some text => Flow.read c version text.toList
  | none => ⟨.error (.invalid [⟨[], .jsonInvalid, .null⟩]), []⟩

end EventFlow
