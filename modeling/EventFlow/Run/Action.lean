import EventFlow.Node.Basic
import EventFlow.Operator.Binary
import EventFlow.Operator.Unary
import EventFlow.Run.Failure
import EventFlow.Text.Blank

/-!
What a node does when it runs, as a list of actions, and which branch it then takes. The actions
take effect one after the other until one of them fails.
-/

namespace EventFlow

/-- A message to the host. -/
structure Message where
  receiver : String
  channel : String
  text : String
  node : String
  deriving DecidableEq, Repr

/-- The variables of a run, in the order of their first binding. -/
abbrev Bindings := List (String × Value)

namespace Bindings

def get (b : Bindings) (name : String) : Value :=
  (b.lookup name).getD .absent

def set : Bindings → String → Value → Bindings
  | [], name, value => [(name, value)]
  | (key, old) :: rest, name, value =>
    if key = name then (key, value) :: rest else (key, old) :: set rest name value

/-- Bindings updated by others, in order. -/
def update (b : Bindings) (others : Bindings) : Bindings :=
  others.foldl (fun b p => b.set p.1 p.2) b

end Bindings

inductive Action where
  | write (index : Int) (value : Value)
  | bind (name : String) (value : Value)
  | send (message : Message)
  | fail (failure : Failure)
  deriving DecidableEq, Repr

/-- A breakdown inside the computation of a node. -/
def Failure.broken (node : String) (cause : Cause) : Failure :=
  .fault (.brokenDown node cause)

/-- The failure of an operator inside a node. -/
def Failure.ofOperator (node : String) : Operator.Failure → Failure
  | .arithmetic error => .broken node (.arithmetic error)
  | .wording error => .broken node (.wording error)
  | failure => .fault (.operator failure)

namespace Node

/-- The result of an operator goes to the first output. -/
def writeResult (n : Node) : Operator.Result Value → List Action
  | .ok value => [.write 0 value]
  | .error failure => [.fail (.ofOperator n.name failure)]

/-- An operator as it is looked up: without blanks around it and in lower case. -/
def operatorName (v : Value) : Operator.Result String :=
  (Operator.textOf v).map fun s => String.ofList (Text.lower (Text.strip s.toList))

/-- The sum of two numbers. -/
def sum (a b : Value) : Except ArithmeticError Scalar := do
  let x ← a.asNumber
  let y ← b.asNumber
  return x.getD 0 + y.getD 0

def add (n : Node) (a b : Value) : List Action :=
  if a = .absent || b = .absent then [.fail (.fault (.missingOperand n.name))]
  else if a.isNumber && b.isNumber then
    match sum a b with
    | .ok total => [.write 0 (.float total)]
    | .error error => [.fail (.broken n.name (.arithmetic error))]
  else [.fail (.fault (.notAddable n.name a.kind b.kind))]

/-- The variable that a value names, which has to be a name at all. -/
def variableName (n : Node) (v : Value) : Except Failure String :=
  match v.asText with
  | .error error => .error (.broken n.name (.wording error))
  | .ok s => if Text.stripText s = "" then .error (.fault (.noVariableName n.name))
    else .ok (Text.stripText s)

def readVariable (n : Node) (bindings : Bindings) (name : Value) : List Action :=
  match n.variableName name with
  | .error failure => [.fail failure]
  | .ok name => [.write 0 (bindings.get name)]

def writeVariable (n : Node) (bindings : Bindings) (name value : Value) : List Action :=
  match n.variableName name with
  | .error failure => [.fail failure]
  | .ok name => [.bind name value, .write 0 (bindings.get name)]

/-- A text, or another one if it is empty. -/
def orElse (text other : String) : String :=
  if text = "" then other else text

/-- The message that three values make. -/
def message (n : Node) (receiver channel text : Value) : Worded Message := do
  return ⟨orElse (← receiver.asText) "all", orElse (← channel.asText) "chat", ← text.asText, n.name⟩

def sendMessage (n : Node) (receiver channel text : Value) : List Action :=
  if text = .absent then [.fail (.fault (.noMessage n.name))]
  else
    match n.message receiver channel text with
    | .ok message => [.send message]
    | .error error => [.fail (.broken n.name (.wording error))]

def breakOff (n : Node) (text : String) : Breakdown → Failure
  | .crash => .broken n.name (.crash text)
  | .flowError => .raised text
  | .nodeFault => .fault (.raised text)

/-- What a node does with its inputs. -/
def actions (n : Node) (bindings : Bindings) (inputs : List Value) : List Action :=
  match n.type.computation, inputs with
  | .addition, [a, b] => n.add a b
  | .binary, [a, b, op] => n.writeResult (do Operator.binary a b (← operatorName op))
  | .unary, [a, op] => n.writeResult (do Operator.unary a (← operatorName op))
  | .getVariable, [name] => n.readVariable bindings name
  | .setVariable, [name, value] => n.writeVariable bindings name value
  | .broadcast, [receiver, channel, text] => n.sendMessage receiver channel text
  | .echo, inputs => inputs.mapIdx fun i value => .write i value
  | .write writes, _ => writes.map fun w => .write w.1 w.2
  | .breakOff breakdown text, _ => [.fail (n.breakOff text breakdown)]
  | _, _ => []

/-- The digits at the front of a text, with single underscores between them, and what follows. -/
def groupedDigits? : List Char → Option (List Nat × List Char)
  | [] => none
  | c :: rest =>
    match Text.digitValue? c, rest with
    | none, _ => none
    | some d, '_' :: more => (groupedDigits? more).map fun (ds, after) => (d :: ds, after)
    | some d, rest =>
      match groupedDigits? rest with
      | some (ds, after) => some (d :: ds, after)
      | none => if (rest.head?.bind Text.digitValue?).isSome then none else some ([d], rest)

/-- The integer that a text denotes. That it has too many digits is found before what follows
them. -/
def integer (s : String) : Except Cause Int :=
  let (negative, digits) := Number.takeSign (Text.trim s.toList)
  match groupedDigits? digits with
  | none => .error (.notInteger s)
  | some (ds, rest) =>
    if Text.digitLimit < ds.length then .error (.tooManyDigits ds.length)
    else if rest.isEmpty then
      let n : Int := Text.ofDigits ds
      .ok (if negative then -n else n)
    else .error (.notInteger s)

/-- The integer that a value stands for when it selects a branch. -/
def selector : Value → Except Cause Int
  | .bool b => .ok (if b then 1 else 0)
  | .int n => .ok n
  | .float x =>
    if x.isNaN then .error (.arithmetic .integerOfNaN)
    else if x.toFloat.isInf then .error (.arithmetic .integerOfInfinity)
    else .ok (Number.truncate x.toFloat)
  | .text s => integer s
  | v => .error (.notConvertible v)

/-- The branch that a node takes. -/
def select (n : Node) (inputs : List Value) : Except Failure Int :=
  match n.type.computation, inputs with
  | .condition, condition :: _ =>
    match condition.asBoolean with
    | some b => .ok (if b then 0 else 1)
    | none =>
      match condition.format with
      | .ok shown => .error (.fault (.notBoolean n.name shown))
      | .error error => .error (.broken n.name (.wording error))
  | .choose, input :: _ => (selector input).mapError (.broken n.name)
  | .choose, [] => .error (.broken n.name .noInput)
  | _, _ => .ok 0

end Node

end EventFlow
