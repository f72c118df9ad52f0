import EventFlow.Run.Action
import EventFlow.Run.Status

/-!
Running a flow. A run works on a copy of the flow and walks from the start node along the chosen
branches; `walk` takes the number of steps that are still allowed, so it ends on every flow.
-/

namespace EventFlow

/-- What a listener does when it is handed a message. The messages it has been handed are those that
the run keeps, so it can change any of them; and it may fail with a text. -/
structure Reaction where
  changes : List (Nat × Message)
  failure : Option String
  deriving DecidableEq, Repr

/-- What the host does with the messages of a run: nothing, hear them, or fail with a text. Whatever
else it does shows as its reactions to the messages in turn. -/
inductive Listener where
  | absent
  | hears
  | fails (text : String)
  | reacts (reactions : List Reaction)
  deriving DecidableEq, Repr

namespace Listener

/-- The reaction to the message of a number. -/
def reaction : Listener → (message : Nat) → Reaction
  | absent, _ => ⟨[], none⟩
  | hears, _ => ⟨[], none⟩
  | fails text, _ => ⟨[], some text⟩
  | reacts reactions, message => reactions.getD message ⟨[], none⟩

/-- A listener that leaves the messages as they are. -/
def IsDiscreet (l : Listener) : Prop :=
  ∀ message, (l.reaction message).changes = []

end Listener

/-- Messages with changes made to them; a change of a message that is not there does nothing. -/
def Reaction.revise (r : Reaction) (messages : Array Message) : Array Message :=
  r.changes.foldl (fun messages change => messages.setIfInBounds change.1 change.2) messages

/-- Where a run stands: what it knows of each node, and what has happened so far. -/
structure Progress where
  statuses : List Status
  bindings : Bindings
  messages : Array Message
  steps : Nat
  trace : Array Status
  log : Array LogEntry
  deriving Repr

namespace Progress

def status? (p : Progress) (id : Int) : Option Status :=
  p.statuses.find? fun s => s.node == id

/-- The progress with the status of a node changed. -/
def modify (p : Progress) (id : Int) (change : Status → Status) : Progress :=
  { p with statuses := p.statuses.map fun s => if s.node = id then change s else s }

/-- The progress after a step of a node. -/
def record (p : Progress) (id : Int) : Progress :=
  match p.status? id with
  | some s => { p with steps := p.steps + 1, trace := p.trace.push s }
  | none => p

/-- The progress after a message to the host. -/
def emit (p : Progress) (listener : Listener) (message : Message) : Progress :=
  let reaction := listener.reaction p.messages.size
  let log := match reaction.failure with
    | some text => p.log.push (warning ("Message callback failed: " ++ text))
    | none => p.log
  { p with messages := reaction.revise (p.messages.push message), log := log }

/-- The value that an input reads. -/
def resolve (flow : Flow) (p : Progress) : Reference → Except Failure Value
  | .constant value => .ok value
  | .output id index =>
    match flow.node? id with
    | none => .error (.showing id (.danglingNode id))
    | some node =>
      match p.status? id with
      | none => .error (.notExecuted node.name)
      | some s =>
        if !s.executed then .error (.notExecuted node.name)
        else
          match index with
          | .ofNat i =>
            match s.outputs[i]? with
            | some value => .ok value
            | none => .error (.showing index (.danglingOutput node.name index))
          | .negSucc _ => .error (.showing index (.danglingOutput node.name index))

/-- The effect of one action of a node. -/
def perform (listener : Listener) (node : Node) (p : Progress) :
    Action → Progress × Option Failure
  | .write index value =>
    if 0 ≤ index && index < node.outputCount then
      (p.modify node.id fun s => { s with outputs := s.outputs.set index.toNat value }, none)
    else
      match Text.ofInt index with
      | .ok _ => (p, some (.broken node.name (.noOutput index node.name)))
      | .error error => (p, some (.broken node.name (.wording error)))
  | .bind name value => ({ p with bindings := p.bindings.set name value }, none)
  | .send message => (p.emit listener message, none)
  | .fail failure => (p, some failure)

/-- The effect of actions up to the first one that fails. -/
def performAll (listener : Listener) (node : Node) (p : Progress) :
    List Action → Progress × Option Failure
  | [] => (p, none)
  | action :: rest =>
    match p.perform listener node action with
    | (p, none) => p.performAll listener node rest
    | (p, some failure) => (p, some failure)

/-- The id that follows a node on a branch. -/
def successor (node : Node) (branch : Option Int) : Except Failure Int :=
  match branch with
  | none => .ok (-1)
  | some b =>
    if 0 ≤ b && b < node.branchCount then .ok (node.next.getD b.toNat (-1))
    else .error (.showing b (.fault (.noBranch node.name b node.branchCount)))

/-- The node of an id. One that is missed is reported, if the id is one at all. -/
def follow (flow : Flow) (node : Node) (p : Progress) (next : Int) :
    Progress × Except Failure (Option Node) :=
  if next < 0 then (p, .ok none)
  else
    match flow.node? next with
    | some n => (p, .ok (some n))
    | none =>
      match Text.ofInt next with
      | .ok shown =>
        let missing := "Node '" ++ node.name ++ "' points at missing successor #" ++ shown ++
          ", stopping"
        ({ p with log := p.log.push (warning missing) }, .ok none)
      | .error error => (p, .error (.unexpected (.wording error)))

/-- The branch of a node that has one. -/
def branch (node : Node) (inputs : List Value) : Except Failure (Option Int) :=
  if node.branchCount = 0 then .ok none else (node.select inputs).map some

/-- One step: a node resolves its inputs, acts on them and chooses its successor. -/
def step (flow : Flow) (listener : Listener) (node : Node) (p : Progress) :
    Progress × Except Failure (Option Node) :=
  match node.inputs.mapM (resolve flow p) with
  | .error failure => (p, .error failure)
  | .ok inputs =>
    let p := p.modify node.id fun s => { s with inputs := inputs }
    match p.performAll listener node (node.actions p.bindings inputs) with
    | (p, some failure) => (p, .error failure)
    | (p, none) =>
      match branch node inputs with
      | .error failure => (p, .error failure)
      | .ok branch =>
        let p := p.modify node.id fun s => { s with executed := true }
        match successor node branch with
        | .error failure => (p, .error failure)
        | .ok next =>
          let p := p.modify node.id fun s => { s with branch := branch, next := next }
          p.follow flow node next

/-- Steps from a node on, at most `steps` of them; being cut off is a failure too. -/
def walk (flow : Flow) (listener : Listener) (limit : Int) :
    (steps : Nat) → Node → Progress → Progress × Option Failure
  | 0, _, p => (p, some (.showing limit (.deadLoop flow.name limit)))
  | steps + 1, node, p =>
    match p.step flow listener node with
    | (p, .error failure) => (p, some failure)
    | (p, .ok none) => (p.record node.id, none)
    | (p, .ok (some next)) => walk flow listener limit steps next (p.record node.id)

/-- Where a run stands before its first step. -/
def initial (flow : Flow) (payload : List Value) (bindings : Bindings) : Progress :=
  let p : Progress := ⟨flow.nodes.map Status.fresh, Bindings.update [] bindings, #[], 0, #[], #[]⟩
  p.modify flow.start fun s =>
    { s with outputs := payload.take s.outputs.length ++ s.outputs.drop payload.length }

end Progress

inductive Phase where
  | pending
  | completed
  | failed
  deriving DecidableEq, Repr

def Phase.word : Phase → String
  | pending => "pending"
  | completed => "completed"
  | failed => "failed"

/-- One run of a flow: its settings, and the record of what happened. -/
structure Run where
  flow : Flow
  limit : Int
  listener : Listener
  phase : Phase
  statuses : List Status
  bindings : Bindings
  messages : List Message
  stepCount : Nat
  trace : List Status
  failure : Option Failure
  deriving Repr

namespace Run

/-- A run that has not begun. -/
def pending (flow : Flow) (limit : Int) (listener : Listener) : Run where
  flow := flow
  limit := limit
  listener := listener
  phase := .pending
  statuses := flow.nodes.map Status.fresh
  bindings := []
  messages := []
  stepCount := 0
  trace := []
  failure := none

/-- The number of steps a limit allows; a step is refused once more than the limit are done. -/
def allowance (limit : Int) : Nat :=
  (limit + 1).toNat

/-- Where a run of a flow ends, and why. -/
def outcome (flow : Flow) (limit : Int) (listener : Listener) (payload : List Value)
    (bindings : Bindings) : Progress × Option Failure :=
  match flow.startNode? with
  | none =>
    (⟨flow.nodes.map Status.fresh, [], #[], 0, #[], #[]⟩, some (.missingStart flow.name))
  | some start =>
    Progress.walk flow listener limit (allowance limit) start
      (Progress.initial flow payload bindings)

/-- How the end of a run is reported. -/
def endLog (flow : Flow) (steps : Nat) : Option Failure → LogEntry
  | none => info ("Flow '" ++ flow.name ++ "' completed in " ++ toString steps ++ " steps")
  | some failure =>
    warning ("Flow '" ++ flow.name ++ "' terminated with exception: " ++ failure.text)

/-- Runs the flow from its start, whatever the run did before. -/
def execute (r : Run) (payload : List Value) (bindings : Bindings) : Run × Log :=
  let (p, failure) := outcome r.flow r.limit r.listener payload bindings
  let run := { r with
    phase := if failure.isNone then .completed else .failed
    statuses := p.statuses
    bindings := p.bindings
    messages := p.messages.toList
    stepCount := p.steps
    trace := p.trace.toList
    failure := failure }
  (run, p.log.toList ++ [endLog r.flow p.steps failure])

/-- Forgets what a run did; its phase stays. -/
def reset (r : Run) : Run :=
  { r with
    statuses := r.statuses.map Status.reset
    bindings := []
    messages := []
    stepCount := 0
    trace := []
    failure := none }

def succeeded (r : Run) : Bool := r.phase = .completed

def status? (r : Run) (id : Int) : Option Status :=
  r.statuses.find? fun s => s.node == id

/-- The value that a reference reads after a run. -/
def resolve (r : Run) (reference : Reference) : Except Failure Value :=
  Progress.resolve r.flow ⟨r.statuses, r.bindings, #[], 0, #[], #[]⟩ reference

/-- The whole run in words, under the label of the run. -/
def describe (r : Run) (label : String) : Worded String :=
  let title := "Flow '" ++ r.flow.name ++ "' run " ++ label ++ " (" ++ r.phase.word ++ ", " ++
    toString r.stepCount ++ " steps)"
  let failed := match r.failure with
    | some failure => ["Error: " ++ failure.text]
    | none => []
  (Worded.all (r.trace.mapIdx fun i s => s.describe (i + 1) r.flow)).map fun steps =>
    String.intercalate "\n" (title :: steps ++ failed)

end Run

end EventFlow
