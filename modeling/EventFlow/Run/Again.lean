import EventFlow.Run.Basic

/-!
Running a flow again. The run is reset where it stands, and the walk goes on from what the reset has
left: whatever a reset forgot to clear would show in the next run. The bindings that a run starts
with are values of their own: nobody else holds the table that a run keeps, which a reset clears.
-/

namespace EventFlow

/-- The progress with the outputs of a start given from outside, as far as it has them, and with
bindings added. -/
def Progress.supply (p : Progress) (start : Int) (payload : List Value) (bindings : Bindings) :
    Progress :=
  { p.modify start fun s =>
      { s with outputs := payload.take s.outputs.length ++ s.outputs.drop payload.length } with
    bindings := p.bindings.update bindings }

namespace Run

/-- Where a run stands; the log of its last execution is not kept. -/
def progress (r : Run) : Progress :=
  ⟨r.statuses, r.bindings, r.messages.toArray, r.stepCount, r.trace.toArray, #[]⟩

/-- Walks from the start, with the steps that the run has left. -/
def proceed (r : Run) (payload : List Value) (bindings : Bindings) : Progress × Option Failure :=
  match r.flow.startNode? with
  | none => (r.progress, some (.missingStart r.flow.name))
  | some start =>
    Progress.walk r.flow r.listener r.limit (allowance r.limit - r.stepCount) start
      (r.progress.supply start.id payload bindings)

/-- The record of a walk that has ended, and what is logged of it. -/
def conclude (r : Run) (ended : Progress × Option Failure) : Run × Log :=
  let (p, failure) := ended
  let run := { r with
    phase := if failure.isNone then .completed else .failed
    statuses := p.statuses
    bindings := p.bindings
    messages := p.messages.toList
    stepCount := p.steps
    trace := p.trace.toList
    failure := failure }
  (run, p.log.toList ++ [endLog r.flow p.steps failure])

/-- Runs the flow once more, on what is left of the run after a reset. -/
def again (r : Run) (payload : List Value) (bindings : Bindings) : Run × Log :=
  r.reset.conclude (r.reset.proceed payload bindings)

end Run

end EventFlow
