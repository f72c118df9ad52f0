/-!
Histories: the newest runs, oldest first, up to a size.
-/

namespace EventFlow

/-- The number of a run in its host. -/
abbrev RunId := Nat

/-- Why a size is no size of a history. -/
inductive SizeError where
  | negative
  | tooLarge
  deriving DecidableEq, Repr

def SizeError.message : SizeError → String
  | negative => "maxlen must be non-negative"
  | tooLarge => "Python int too large to convert to C ssize_t"

structure History where
  maxSize : Nat
  runs : List RunId
  deriving DecidableEq, Repr

namespace History

/-- Sizes lie below this limit, and not below its opposite. -/
def sizeLimit : Int := 0x8000000000000000

/-- An empty history of a size. -/
def ofSize (size : Int) : Except SizeError History :=
  if size < -sizeLimit || sizeLimit ≤ size then .error .tooLarge
  else if size < 0 then .error .negative
  else .ok ⟨size.toNat, []⟩

/-- The last `n` members of a list. -/
def lastOf {α : Type} (n : Nat) (xs : List α) : List α :=
  xs.drop (xs.length - n)

/-- The history with a run added; the oldest ones beyond its size are dropped. -/
def add (h : History) (run : RunId) : History :=
  { h with runs := lastOf h.maxSize (h.runs ++ [run]) }

def clear (h : History) : History :=
  { h with runs := [] }

def latest? (h : History) : Option RunId :=
  h.runs.getLast?

end History

end EventFlow
