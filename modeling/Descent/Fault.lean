/-!
# Faults

A fault is a misuse that no diagnostic describes: a token that would end before it starts, or a sum
that no longer fits. It breaks off whatever is going on, and its message is all there is to say.
-/

namespace Descent

/-- Why everything was broken off. -/
inductive Fault where
  /-- a token would end before it starts -/
  | tokenEndsBeforeStart
  /-- a sum does not fit -/
  | addOverflow
  /-- a difference does not fit -/
  | subOverflow
  /-- a product does not fit -/
  | mulOverflow
  /-- the negative of a number does not fit -/
  | negOverflow
  /-- a quotient does not fit -/
  | divOverflow
deriving DecidableEq, Repr

namespace Fault

/-- What there is to say. -/
def message : Fault → String
  | tokenEndsBeforeStart => "token ends before it starts"
  | addOverflow => "attempt to add with overflow"
  | subOverflow => "attempt to subtract with overflow"
  | mulOverflow => "attempt to multiply with overflow"
  | negOverflow => "attempt to negate with overflow"
  | divOverflow => "attempt to divide with overflow"

end Fault

end Descent
