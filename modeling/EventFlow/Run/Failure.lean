import EventFlow.Operator.Failure
import EventFlow.Text.Quoted

/-!
Why a run fails. A `Fault` is a failure of a node's own computation; if something broke down inside
the computation, the fault carries that as its `Cause`. What breaks down elsewhere in a run, which
is only ever the making of a message, is an unexpected failure.
-/

namespace EventFlow

/-- What broke down inside a computation. -/
inductive Cause where
  | arithmetic (error : ArithmeticError)
  | noOutput (index : Int) (node : String)
  | noInput
  | notInteger (text : String)
  | tooManyDigits (count : Nat)
  | notConvertible (operand : Value)
  | crash (text : String)
  | wording (error : TextError)
  deriving DecidableEq, Repr

namespace Cause

/-- The host's word for a value that is neither text nor number. -/
def typeWord : Value → String
  | .vec2 _ => "Vec2"
  | .vec3 _ => "Vec3"
  | _ => "NoneType"

def message : Cause → String
  | arithmetic error => error.message
  | noOutput index node =>
    "Output index " ++ Text.decimal index ++ " out of range for node '" ++ node ++ "'"
  | noInput => "list index out of range"
  | notInteger text =>
    "invalid literal for int() with base 10: " ++
      String.ofList ((Text.quoted text).toList.take 200)
  | tooManyDigits count =>
    "Exceeds the limit (4300 digits) for integer string conversion: value has " ++ toString count ++
      " digits; use sys.set_int_max_str_digits() to increase the limit"
  | notConvertible operand =>
    "int() argument must be a string, a bytes-like object or a real number, not '" ++
      typeWord operand ++ "'"
  | crash text => text
  | wording error => error.message

/-- The host's word for the class of a cause. -/
def word : Cause → String
  | arithmetic .domain => "ValueError"
  | arithmetic .range => "OverflowError"
  | arithmetic .integerOfNaN => "ValueError"
  | arithmetic .integerOfInfinity => "OverflowError"
  | arithmetic .zeroDivisor => "ZeroDivisionError"
  | arithmetic .integerTooLarge => "OverflowError"
  | noOutput _ _ => "IndexError"
  | noInput => "IndexError"
  | notInteger _ => "ValueError"
  | tooManyDigits _ => "ValueError"
  | notConvertible _ => "TypeError"
  | crash _ => "RuntimeError"
  | wording _ => "ValueError"

/-- A cause in short. -/
def summary (c : Cause) : String :=
  c.word ++ "(" ++ Text.quoted c.message ++ ")"

end Cause

/-- A failure of a node's own computation. -/
inductive Fault where
  | brokenDown (node : String) (cause : Cause)
  | noBranch (node : String) (branch : Int) (count : Nat)
  | operator (failure : Operator.Failure)
  | missingOperand (node : String)
  | notAddable (node : String) (left right : Kind)
  | noVariableName (node : String)
  | noMessage (node : String)
  | notBoolean (node : String) (shown : String)
  | raised (text : String)
  deriving DecidableEq, Repr

/-- Why a run ends before its time. -/
inductive Failure where
  | danglingNode (node : Int)
  | danglingOutput (node : String) (index : Int)
  | notExecuted (node : String)
  | deadLoop (flow : String) (limit : Int)
  | missingStart (flow : String)
  | fault (reason : Fault)
  | raised (text : String)
  | unexpected (cause : Cause)
  deriving DecidableEq, Repr

def Fault.message : Fault → String
  | brokenDown node cause => "Node '" ++ node ++ "' failed: " ++ cause.message
  | noBranch node branch count =>
    "Node '" ++ node ++ "' selected branch " ++ Text.decimal branch ++ " but has " ++ toString count
  | operator failure => failure.message
  | missingOperand node => "Node '" ++ node ++ "' is missing an operand"
  | notAddable node left right =>
    "Node '" ++ node ++ "' cannot add " ++ left.name ++ " and " ++ right.name
  | noVariableName node => "Node '" ++ node ++ "' has no variable name"
  | noMessage node => "Node '" ++ node ++ "' has no message to send"
  | notBoolean node shown => "Condition of node '" ++ node ++ "' is not a boolean: " ++ shown
  | raised text => text

namespace Failure

def message : Failure → String
  | danglingNode node => "Reference to node #" ++ Text.decimal node ++ " which does not exist"
  | danglingOutput node index => "Node '" ++ node ++ "' has no output #" ++ Text.decimal index
  | notExecuted node => "Node '" ++ node ++ "' has not been executed yet"
  | deadLoop flow limit =>
    "Flow '" ++ flow ++ "' exceeded " ++ Text.decimal limit ++ " steps, possible dead loop"
  | missingStart flow => "Flow '" ++ flow ++ "' has no start node"
  | fault reason => reason.message
  | raised text => text
  | unexpected cause => "Unexpected failure: " ++ cause.message

/-- The word for the kind of a failure in reports. -/
def word : Failure → String
  | danglingNode _ => "DanglingReferenceError"
  | danglingOutput _ _ => "DanglingReferenceError"
  | notExecuted _ => "NotExecutedError"
  | deadLoop _ _ => "DeadLoopError"
  | missingStart _ => "MissingStartNodeError"
  | fault _ => "NodeFaultError"
  | raised _ => "LogicError"
  | unexpected _ => "NodeFaultError"

def cause? : Failure → Option Cause
  | fault (.brokenDown _ cause) => some cause
  | unexpected cause => some cause
  | _ => none

/-- A failure whose message shows an integer. A failure is there only once its message is: where the
integer cannot be written, that is what goes wrong. -/
def showing (n : Int) (failure : Failure) : Failure :=
  match Text.ofInt n with
  | .ok _ => failure
  | .error error => .unexpected (.wording error)

/-- The message together with that of the cause. -/
def text (f : Failure) : String :=
  match f.cause? with
  | some cause => f.message ++ " (" ++ cause.message ++ ")"
  | none => f.message

end Failure

end EventFlow
