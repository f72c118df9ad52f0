import EventFlow.Host.Basic

/-!
Events: an event runs every stored flow that is enabled and starts with a node of the event's type,
in the order of the flows' names.
-/

namespace EventFlow.Host

/-- The flows that an event runs. -/
def targets (h : Host) (event : String) : List Manager :=
  let named := h.stored.mergeSort fun a b => decide (a.1 ≤ b.1)
  (named.filterMap fun p => h.managers[p.2]?).filter fun m =>
    m.editor.enabled && m.editor.flow.startType? == some event

/-- What the runs of an event lead to. -/
structure Dispatched where
  host : Host
  result : Except UnknownType (List (RunId × Run))
  log : Log

/-- Runs flows one after the other, up to one whose types the catalog no longer holds. -/
def runAll (h : Host) (payload : List Value) (bindings : Bindings) : List Manager → Dispatched
  | [] => ⟨h, .ok [], []⟩
  | m :: rest =>
    match h.run m payload bindings none .absent with
    | .error error => ⟨h, .error error, []⟩
    | .ok ran =>
      let after := runAll ran.host payload bindings rest
      ⟨after.host, after.result.map ((ran.id, ran.run) :: ·), ran.log ++ after.log⟩

def dispatch (h : Host) (event : String) (payload : List Value) (bindings : Bindings) :
    Dispatched :=
  let after := h.runAll payload bindings (h.targets event)
  match after.result with
  | .error _ => after
  | .ok runs =>
    { after with
      log := after.log ++ [info ("Event '" ++ event ++ "' dispatched to " ++
        toString runs.length ++ " flows")] }

end EventFlow.Host
