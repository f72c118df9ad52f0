import EventFlow.Host.Basic

/-!
Finding runs by their public names.
-/

namespace EventFlow.Host

/-- The run of a history that has the given public name. -/
def runNamed? (h : Host) (history : History) (name : String) : Option (RunId × Run) :=
  (history.runs.find? fun id => h.token id == name).bind fun id =>
    (h.runs[id]?).map fun run => (id, run)

/-- Runs with their numbers. -/
def runsAt (h : Host) (ids : List RunId) : List (RunId × Run) :=
  ids.filterMap fun id => (h.runs[id]?).map fun run => (id, run)

end EventFlow.Host
