import EventFlow.Host.Basic

/-!
The countdown flow, which shows variables, arithmetic, a loop and a message. It counts from the
number that its trigger carries down to zero and then tells whoever triggered it.
-/

namespace EventFlow.Countdown

def flowName : String := "countdown-demo"

def message : String := "Countdown finished"

/-- The commands that build the flow from its start node. -/
def commands (message : String) : List Command := [
  .createNode "SetVariableNode" "init",
  .createNode "GetVariableNode" "read",
  .createNode "BinaryArithmeticNode" "decrement",
  .createNode "SetVariableNode" "store",
  .createNode "BinaryArithmeticNode" "check",
  .createNode "IfConditionNode" "loop",
  .createNode "BroadcastMessageNode" "announce",
  .setConstant "init" 0 (.text "n"),
  .setReference "init" 1 "start" 1,
  .setConstant "read" 0 (.text "n"),
  .setReference "decrement" 0 "read" 0,
  .setConstant "decrement" 1 (.float 1),
  .setConstant "decrement" 2 (.text "-"),
  .setConstant "store" 0 (.text "n"),
  .setReference "store" 1 "decrement" 0,
  .setReference "check" 0 "decrement" 0,
  .setConstant "check" 1 (.float 0),
  .setConstant "check" 2 (.text ">"),
  .setReference "loop" 0 "check" 0,
  .setReference "announce" 0 "start" 0,
  .setConstant "announce" 1 (.text "chat"),
  .setConstant "announce" 2 (.text message),
  .setNext "start" 0 "init",
  .setNext "init" 0 "read",
  .setNext "read" 0 "decrement",
  .setNext "decrement" 0 "store",
  .setNext "store" 0 "check",
  .setNext "check" 0 "loop",
  .setNext "loop" 0 "read",
  .setNext "loop" 1 "announce"]

/-- Carries out commands, up to one that breaks off, and gives what they reported too. -/
def carryOut (c : Catalog) (e : Editor) : List Command → Except EditError (Editor × Log)
  | [] => .ok (e, [])
  | command :: rest =>
    let edited := e.edit c command
    match edited.outcome with
    | .failed error => .error error
    | _ => (carryOut c edited.editor rest).map fun (e, log) => (e, edited.log ++ log)

/-- The countdown flow under a name, with nothing but its start node. -/
def begun (c : Catalog) (name : String) : Except EditError Editor :=
  Editor.create c name "TriggerNode" "start"

/-- The begun countdown flow with all its nodes, ready to run on events. -/
def finish (c : Catalog) (message : String) (e : Editor) : Except EditError (Editor × Log) :=
  (carryOut c e (commands message)).map fun (e, log) => ({ e with enabled := true }, log)

/-- The countdown flow under a name. -/
def build (c : Catalog) (name message : String) : Except EditError (Editor × Log) := do
  finish c message (← begun c name)

end EventFlow.Countdown

namespace EventFlow.Host

/-- Why the countdown flow cannot be added. -/
inductive DemoError where
  | edit (error : EditError)
  | size (error : SizeError)
  deriving DecidableEq, Repr

/-- Builds the countdown flow, which has a history of its own from the beginning. -/
def addCountdown (h : Host) (name message : String) : Except DemoError (Host × Nat × Log) := do
  let begun ← (Countdown.begun h.catalog name).mapError .edit
  let (h, manager) ← (h.addEditor begun).mapError .size
  let (e, log) ← (Countdown.finish h.catalog message begun).mapError .edit
  return (h.setEditor manager e, manager, log)

/-- Stores the countdown flow, unless a flow of its name is stored. -/
def registerDemo (h : Host) : Except DemoError (Host × Log) := do
  if h.isStored Countdown.flowName then
    return (h, [info ("Demo flow " ++ Countdown.flowName ++ " already stored, keeping it")])
  else
    let (h, manager, log) ← h.addCountdown Countdown.flowName Countdown.message
    return (h.store manager, log ++ [info ("Registered demo flow: " ++ Countdown.flowName)])

end EventFlow.Host
