/-!
# Operators of an expression

An operator stands between two operands. Some bind more tightly than others.
-/

namespace ShaderWeave.Marks

inductive Operator
  | add
  | subtract
  | multiply
  | divide
  /-- Division without a fraction, down to the integer that leaves no negative remainder. -/
  | divideWhole
  | remainder
  | power
  /-- The text of one operand and then that of the other. -/
  | join
  | equal
  | unequal
  | less
  | atMost
  | greater
  | atLeast
  /-- Whether the right operand holds the left one. -/
  | member
  deriving DecidableEq

/-- How tightly an operator binds. Below four are `or`, `and` and `not`. -/
def Operator.rank : Operator → Nat
  | equal | unequal | less | atMost | greater | atLeast | member => 4
  | add | subtract => 5
  | join => 6
  | multiply | divide | divideWhole | remainder => 7
  | power => 8

end ShaderWeave.Marks
