import EventFlow.Host.Directory
import EventFlow.Host.Dispatch
import EventFlow.Service.Operation
import EventFlow.Service.Response

/-!
The effect of each operation on a host, and its answer. What is not there is answered with 404, what
is there already with 409, and what cannot be done with 400.
-/

namespace EventFlow.Service

def flowNotFound (name : String) : Response :=
  .notFound ("Flow '" ++ name ++ "' not found")

/-- Acts on a stored flow. -/
def onFlow (h : Host) (name : String) (act : Nat → Manager → Host × Response) : Host × Response :=
  match (h.fetch? name).bind fun n => (h.managers[n]?).map fun m => (n, m) with
  | some (n, m) => act n m
  | none => (h, flowNotFound name)

def createFlow (h : Host) (name eventType eventName : String) : Host × Response :=
  if h.isStored name then (h, .detail 409 ("Flow '" ++ name ++ "' already exists"))
  else
    match Editor.create h.catalog name eventType eventName with
    | .error (.unknownType error) => (h, .notFound error.message)
    | .error error => (h, .detail 400 error.message)
    | .ok editor =>
      match h.addEditor editor with
      | .error .negative => (h, .detail 400 SizeError.negative.message)
      | .error .tooLarge => (h, .internal h.settings SizeError.tooLarge.message)
      | .ok (h, manager) => (h.store manager, .info h.settings .created editor)

/-- The file in the flow directory that has the name at the end of a path. -/
def flowFile (h : Host) (file : String) : Files.Path :=
  (Files.Path.ofText h.settings.flowDirectory).child (Files.Path.ofText file).name

def loadFlow (h : Host) (file : String) : Host × Response :=
  let p := flowFile h file
  let loaded := Files.loadFile h.catalog h.settings.formatVersion h.disk p
  let h := { h with disk := loaded.disk }
  match loaded.result with
  | .error (.unknownType error) => (h, .notFound error.message)
  | .error error => (h, .internal h.settings error.message)
  | .ok none => (h, .detail 400 ("Could not load flow from '" ++ p.name ++ "'"))
  | .ok (some f) => (h.storeFlow f, .info h.settings .created (.ofFlow f))

def deleteFlow (h : Host) (name : String) : Host × Response :=
  if h.isStored name then (h.drop name, .noContent) else (h, flowNotFound name)

/-- The answer to a command that broke off. Only commands that name a type tell what is wrong. -/
def commandFailed (settings : Settings) (command : Command) (error : EditError) : Response :=
  match command, error with
  | .createNode .., .unknownType error => .notFound error.message
  | .replaceStart .., .unknownType error => .notFound error.message
  | .replaceStart .., .notEvent key => .detail 400 (EditError.notEvent key).message
  | .replaceStart .., .wording error => .detail 400 error.message
  | _, error => .internal settings error.message

def edit (h : Host) (flow : String) (command : Command) : Host × Response :=
  onFlow h flow fun n m =>
    let after := m.editor.edit h.catalog command
    (h.setEditor n after.editor,
      match after.outcome with
      | .created id => .edited after.editor true (some id)
      | .applied => .edited after.editor true none
      | .refused _ => .edited after.editor false none
      | .failed error => commandFailed h.settings command error)

/-- Undo or redo. -/
def move (h : Host) (flow : String) (move : Editor → Editor.Moved) : Host × Response :=
  onFlow h flow fun n m =>
    let after := move m.editor
    (h.setEditor n after.editor,
      match after.error with
      | some error => .internal h.settings error.message
      | none => .edited after.editor after.moved none)

def enable (h : Host) (flow : String) (enabled : Bool) : Host × Response :=
  onFlow h flow fun n m =>
    let editor := { m.editor with enabled := enabled }
    (h.setEditor n editor, .ok editor.summaryJson)

def runFlow (h : Host) (flow : String) (payload : List Value) (bindings : Bindings)
    (limit : Option Int) : Host × Response :=
  onFlow h flow fun _ m =>
    match h.run m payload bindings limit .absent with
    | .error error => (h, .internal h.settings error.message)
    | .ok ran => (ran.host, .run h ran.id ran.run)

def saveFlow (h : Host) (flow : String) (replace : Bool) : Host × Response :=
  onFlow h flow fun _ m =>
    let f := m.editor.flow
    let p := (Files.Path.ofText h.settings.flowDirectory).child (Files.fileName f.name)
    let saved := Files.save h.disk f p replace
    ({ h with disk := saved.disk },
      match saved.result with
      | .error error => .internal h.settings error.message
      | .ok done => .ok (.object [("saved", .bool done), ("path", .text p.text)]))

def listFlows (h : Host) : Response :=
  let editors := h.storedManagers.map fun p => p.2.editor
  let named := editors.mergeSort fun a b => decide (a.flow.name ≤ b.flow.name)
  .listing "flows" (named.map Editor.summaryJson)

/-- The runs that the shared history retains, of one flow or of all. -/
def listRuns (h : Host) (flow : Option String) : Response :=
  let history := h.history Host.shared
  let ids := match flow with
    | none => history.runs
    | some "" => history.runs
    | some name => h.runsOf history name
  .runs h (h.runsAt ids)

def showRun (h : Host) (token : String) : Response :=
  match h.runNamed? (h.history Host.shared) token with
  | some (id, run) => .run h id run
  | none => .notFound ("Run '" ++ token ++ "' not found")

def raiseEvent (h : Host) (event : String) (payload : List Value) (bindings : Bindings) :
    Host × Response :=
  let after := h.dispatch event payload bindings
  (after.host,
    match after.result with
    | .error error => .internal h.settings error.message
    | .ok runs => .runs h runs)

def showType (h : Host) (key : String) : Response :=
  match h.catalog.find? key with
  | some type => .ok type.json
  | none => .notFound ("Node type '" ++ key ++ "' not found")

/-- Carries out an operation. -/
def perform (h : Host) : Operation → Host × Response
  | .overview => (h, .overview h.settings)
  | .health => (h, .health h)
  | .listFlows => (h, listFlows h)
  | .createFlow name eventType eventName => createFlow h name eventType eventName
  | .loadFlow file => loadFlow h file
  | .showFlow name => onFlow h name fun _ m => (h, .info h.settings .ok m.editor)
  | .deleteFlow name => deleteFlow h name
  | .edit flow command => edit h flow command
  | .undo flow => move h flow (Editor.undo h.catalog)
  | .redo flow => move h flow (Editor.redo h.catalog)
  | .enable flow enabled => enable h flow enabled
  | .runFlow flow payload bindings limit => runFlow h flow payload bindings limit
  | .saveFlow flow replace => saveFlow h flow replace
  | .listTypes => (h, .listing "node_types" (h.catalog.map NodeType.json))
  | .showType key => (h, showType h key)
  | .listRuns flow => (h, listRuns h flow)
  | .showRun token => (h, showRun h token)
  | .raise event payload bindings => raiseEvent h event payload bindings

end EventFlow.Service
