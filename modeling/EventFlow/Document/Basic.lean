import EventFlow.Schema.Field

/-!
Flow documents: the form in which flows are stored. Fields that are left out have defaults, and a
document remembers of two fields whether they were given.
-/

namespace EventFlow

namespace Document

/-- The source of one input. -/
structure InputEntry where
  kind : String
  value : Json
  id : Option Int
  index : Option Int
  deriving Repr

structure NodeEntry where
  id : Int
  type : String
  name : String
  named : Bool
  inputs : List InputEntry
  next : List Int
  deriving Repr

end Document

structure Document where
  name : String
  version : String
  engine : String
  start : Int
  startGiven : Bool
  nodes : List Document.NodeEntry
  deriving Repr

namespace Document

open Schema

/-- The format that documents are written in. -/
def writtenVersion : String := "1"

/-- The version of this library. -/
def engineVersion : String := "1.0.0"

def defaultName : String := "unnamed"

/-- A field that may go by a second name, which counts if the first is not there. -/
def either (json : Json) (key other : String) : Option Json :=
  (json.get? key).or (json.get? other)

def InputEntry.check : Json → Check InputEntry
  | .object members =>
    let json := Json.object members
    let kind := optional "type" string "const" (json.get? "type")
    let id := optional "id" (nullable integer) none (json.get? "id")
    let index := optional "index" (nullable integer) none (json.get? "index")
    (Check.both kind (Check.both id index)).map fun (kind, id, index) =>
      ⟨kind, (json.get? "value").getD .null, id, index⟩
  | json => .fail .modelType json

def NodeEntry.check : Json → Check NodeEntry
  | .object members =>
    let json := Json.object members
    let id := required json "id" natural
    let type := required json "type" nonEmptyString
    let name := optional "name" string defaultName (json.get? "name")
    let inputs := optional "inputs" (list InputEntry.check) [] (json.get? "inputs")
    let next := optional "nextNodes" (list integer) [] (either json "nextNodes" "next_nodes")
    (Check.both id (Check.both type (Check.both name (Check.both inputs next)))).map
      fun (id, type, name, inputs, next) =>
        ⟨id, type, name, (json.get? "name").isSome, inputs, next⟩
  | json => .fail .modelType json

/-- The document that a JSON value holds; `version` is the default of that field. -/
def check : Json → Check Document
  | .object members =>
    let json := Json.object members
    let name := optional "name" string defaultName (json.get? "name")
    let version := optional "version" string writtenVersion (json.get? "version")
    let engine := optional "engine" string engineVersion (json.get? "engine")
    let given := either json "startNodeId" "start_node_id"
    let start := optional "startNodeId" integer (-1) given
    let nodes := optional "nodes" (list NodeEntry.check) [] (json.get? "nodes")
    (Check.both name (Check.both version (Check.both engine (Check.both start nodes)))).map
      fun (name, version, engine, start, nodes) =>
        ⟨name, version, engine, start, given.isSome, nodes⟩
  | json => .fail .modelType json

end Document

end EventFlow
