import TinyImp.Value

/-!
# Faults

A fault is a broken assumption of a later stage about an earlier one: a name
or a type that should have been refused before.  It is not an error of the
program that is run, and it has no place in the list of its problems.
-/

namespace TinyImp

inductive Fault where
  | missingSymbol (name : String)
  | unboundVariable (name : String)
  | readIntoBool (name : String)
  | assertedValue (value : Value)
  | boundValue (position : Position) (value : Value)
  | negatedValue (value : Value)
  | incomparable (left right : Value)
  | unsupported (operator : BinaryOp) (left right : Value)
deriving DecidableEq

def Fault.message : Fault → String
  | .missingSymbol name =>
      s!"type checker found variable {name} missing from the symbol table"
  | .unboundVariable name => s!"variable {name} is not bound at run time"
  | .readIntoBool name => s!"read into boolean {name} reached the interpreter"
  | .assertedValue value =>
      s!"assert reached the interpreter with {value.outline}"
  | .boundValue position value =>
      s!"expected an integer at {position.text}, found {value.outline}"
  | .negatedValue value =>
      s!"unsupported operand {value.outline} for unary {negationName}"
  | .incomparable left right =>
      s!"cannot compare {left.outline} with {right.outline}"
  | .unsupported operator left right =>
      s!"unsupported operands {left.outline} and {right.outline} for binary {operator.name}"

end TinyImp
