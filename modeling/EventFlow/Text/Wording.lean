import EventFlow.Text.Digit

/-!
Texts that may fail to come about: the host gives up on an integer whose numeral is too long. What
it counts are things that it holds, such as steps, ports and positions. These are too few to come
near the limit, and their numerals are written without asking.
-/

namespace EventFlow

/-- Why something cannot be put into words. -/
inductive TextError where
  | tooManyDigits
  deriving DecidableEq, Repr

def TextError.message : TextError → String
  | tooManyDigits =>
    "Exceeds the limit (4300 digits) for integer string conversion; " ++
      "use sys.set_int_max_str_digits() to increase the limit"

/-- What is put into words. -/
abbrev Worded := Except TextError

/-- The decimal numeral of an integer as the host writes it. -/
def Text.ofInt (n : Int) : Worded String :=
  if Brief n then .ok (decimal n) else .error .tooManyDigits

/-- All texts of a list, unless one of them does not come about. -/
def Worded.all (texts : List (Worded String)) : Worded (List String) :=
  texts.mapM id

end EventFlow
