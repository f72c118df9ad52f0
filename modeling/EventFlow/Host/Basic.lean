import EventFlow.Edit.Editor
import EventFlow.Files.Disk
import EventFlow.Host.History
import EventFlow.Host.Settings
import EventFlow.Node.Standard

/-!
A host: the flows under edit, the stored ones among them, the histories of their runs, and the
files. Flows under edit and histories have numbers, so that several places can hold the same one.
-/

namespace EventFlow

/-- A flow under edit, with the number of the history that records its runs. -/
structure Manager where
  editor : Editor
  history : Nat
  deriving Repr

/-- A host. Flows are stored under their names, in the order in which the names were first stored;
the history that stored flows share has the number zero. A run is known to the outside by a name
that is drawn at random, which `token` gives. -/
structure Host where
  settings : Settings
  catalog : Catalog
  managers : Array Manager
  stored : List (String × Nat)
  histories : Array History
  runs : Array Run
  token : RunId → String
  disk : Files.Disk

namespace Host

/-- A host with nothing in it, whose shared history has the given size. -/
def empty (settings : Settings) (size : Int) (token : RunId → String) : Except SizeError Host :=
  (History.ofSize size).map fun history =>
    { settings := settings
      catalog := .standard
      managers := #[]
      stored := []
      histories := #[history]
      runs := #[]
      token := token
      disk := .ofTree [] }

/-- The number of the shared history. -/
def shared : Nat := 0

def addHistory (h : Host) (history : History) : Host × Nat :=
  ({ h with histories := h.histories.push history }, h.histories.size)

def addManager (h : Host) (manager : Manager) : Host × Nat :=
  ({ h with managers := h.managers.push manager }, h.managers.size)

/-- A new flow under edit, with a history of its own. -/
def addEditor (h : Host) (editor : Editor) : Except SizeError (Host × Nat) :=
  (History.ofSize h.settings.historySize).map fun history =>
    let (h, number) := h.addHistory history
    h.addManager ⟨editor, number⟩

def setEditor (h : Host) (manager : Nat) (editor : Editor) : Host :=
  { h with managers := h.managers.modify manager fun m => { m with editor := editor } }

def history (h : Host) (number : Nat) : History :=
  h.histories.getD number ⟨0, []⟩

/-- The runs of a history whose flow has the given name. -/
def runsOf (h : Host) (history : History) (flow : String) : List RunId :=
  history.runs.filter fun id => (h.runs[id]?).any fun r => r.flow.name == flow

def changeHistory (h : Host) (number : Nat) (change : History → History) : Host :=
  { h with histories := h.histories.modify number change }

def setRun (h : Host) (id : RunId) (run : Run) : Host :=
  { h with runs := h.runs.setIfInBounds id run }

/-- Puts a name in its place among the stored flows. -/
def putStored : List (String × Nat) → String → Nat → List (String × Nat)
  | [], name, manager => [(name, manager)]
  | (key, old) :: rest, name, manager =>
    if key = name then (key, manager) :: rest else (key, old) :: putStored rest name manager

/-- Stores a flow under its name; from then on the shared history records its runs. -/
def store (h : Host) (manager : Nat) : Host :=
  match h.managers[manager]? with
  | none => h
  | some m =>
    { h with
      managers := h.managers.modify manager fun m => { m with history := shared }
      stored := putStored h.stored m.editor.flow.name manager }

def fetch? (h : Host) (name : String) : Option Nat :=
  h.stored.lookup name

def isStored (h : Host) (name : String) : Bool :=
  (h.fetch? name).isSome

def drop (h : Host) (name : String) : Host :=
  { h with stored := h.stored.filter fun p => p.1 != name }

/-- The stored flows in order, with their numbers. -/
def storedManagers (h : Host) : List (Nat × Manager) :=
  h.stored.filterMap fun p => (h.managers[p.2]?).map fun m => (p.2, m)

/-- A run that has ended, with its number, and what it reported. -/
structure Ran where
  host : Host
  id : RunId
  run : Run
  log : Log

/-- Runs a flow and records the run in the flow's history. -/
def run (h : Host) (m : Manager) (payload : List Value) (bindings : Bindings)
    (limit : Option Int) (listener : Listener) : Except UnknownType Ran :=
  (m.editor.start h.catalog (limit.getD h.settings.maxSteps) listener).map fun pending =>
    let (run, log) := pending.execute payload bindings
    let id := h.runs.size
    let h := { h with runs := h.runs.push run }
    ⟨h.changeHistory m.history (·.add id), id, run, log⟩

end Host

end EventFlow
