/-!
The log: what an operation reports to its host, in order.
-/

namespace EventFlow

inductive Level where
  | info
  | warning
  | error
  deriving DecidableEq, Repr

structure LogEntry where
  level : Level
  message : String
  deriving DecidableEq, Repr

abbrev Log := List LogEntry

def info (message : String) : LogEntry := ⟨.info, message⟩

def warning (message : String) : LogEntry := ⟨.warning, message⟩

def failure (message : String) : LogEntry := ⟨.error, message⟩

end EventFlow
