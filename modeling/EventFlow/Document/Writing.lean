import EventFlow.Document.Basic
import EventFlow.Flow.Description
import EventFlow.Json.Printer
import EventFlow.Value.Wire

/-!
From a flow to its document, with the nodes in listing order. A node with a negative id, a type
without a key or a constant that the host cannot put into words has no document, and a document with
halves of pairs in its texts cannot be dumped.
-/

namespace EventFlow

/-- Why a flow cannot be written. -/
inductive WriteError where
  | invalid (issues : List Schema.Issue)
  | wording (error : TextError)
  | unencodable (fault : String)
  deriving Repr

def WriteError.message : WriteError → String
  | invalid issues => toString issues.length ++ " invalid fields"
  | wording error => error.message
  | unencodable fault => fault

namespace Document

/-- The members of an input entry that are written. -/
def referenceJson : Reference → Json
  | .constant value => .object [("type", .text "const"), ("value", .text value.wire)]
  | .output id index =>
    .object [("type", .text "reference"), ("id", .int id), ("index", .int index)]

def nodeJson (n : Node) : Json :=
  .object [
    ("id", .int n.id),
    ("type", .text n.type.key),
    ("name", .text n.name),
    ("inputs", .array (n.inputs.map referenceJson)),
    ("nextNodes", .array (n.next.map .int))]

/-- The document of a flow as JSON. -/
def flowJson (f : Flow) : Json :=
  .object [
    ("name", .text f.name),
    ("version", .text writtenVersion),
    ("engine", .text engineVersion),
    ("startNodeId", .int f.start),
    ("nodes", .array (f.ordered.map nodeJson))]

end Document

namespace Flow

/-- Whether the host can write all constants of a flow. -/
def isWorded (f : Flow) : Bool :=
  f.nodes.all fun n => n.inputs.all Reference.isWorded

/-- The structure of a flow, without what a document adds to it. -/
def snapshot (f : Flow) : Worded Json :=
  if f.isWorded then
    .ok (.object [
      ("name", .text f.name),
      ("startNodeId", .int f.start),
      ("nodes", .array (f.ordered.map Document.nodeJson))])
  else .error .tooManyDigits

/-- A node as a part of a document. Its inputs are written first. -/
def nodeDocument (n : Node) : Except WriteError Json :=
  if n.inputs.all Reference.isWorded then
    ((Schema.Check.both
      (Schema.Check.under (.field "id") (Schema.natural (.int n.id)))
      (Schema.Check.under (.field "type") (Schema.nonEmptyString (.text n.type.key)))).map
      fun _ => Document.nodeJson n).mapError .invalid
  else .error (.wording .tooManyDigits)

/-- The document of a flow, up to the first node that cannot be a part of it. -/
def document (f : Flow) : Except WriteError Json :=
  (f.ordered.mapM nodeDocument).map fun _ => Document.flowJson f

/-- The text of a flow's document. -/
def write (f : Flow) : Except WriteError (List Char) :=
  f.document.map (Json.pretty 0)

/-- The text of a flow's document, which has to be fit to be sent as bytes. -/
def dump (f : Flow) : Except WriteError (List Char) :=
  match f.write, Json.writingFault? (Document.flowJson f) with
  | .ok text, none => .ok text
  | .ok _, some fault => .error (.unencodable fault)
  | .error error, _ => .error error

end Flow

end EventFlow
