import TinyImp.Diagnostic
import TinyImp.Tree.Basic

/-!
# Type errors

The rules of typing that a program can break, each with what it was broken
by, and the message about it.
-/

namespace TinyImp

inductive TypeRule where
  | negated (type : Ty)
  | unmatched (operator : BinaryOp) (left right : Ty)
  | operand (operator : BinaryOp) (type : Ty)
  | assigned (name : String) (declared value : Ty)
  | index (type : Ty)
  | lowerBound (type : Ty)
  | upperBound (type : Ty)
  | readTarget (name : String) (type : Ty)
  | condition (type : Ty)
deriving DecidableEq

def TypeRule.message : TypeRule → String
  | .negated type =>
      s!"unary operator {negationName} not defined for type {type.name}"
  | .unmatched operator left right =>
      s!"unmatched types {left.name} and {right.name} for binary expression {operator.name}"
  | .operand operator type =>
      s!"operator {operator.name} not defined for type {type.name}"
  | .assigned name declared value =>
      s!"cannot assign type {value.name} to variable {name} of type {declared.name}"
  | .index type => s!"loop index must be {Ty.int.name}, not {type.name}"
  | .lowerBound type =>
      s!"loop lower bound must be {Ty.int.name}, not {type.name}"
  | .upperBound type =>
      s!"loop upper bound must be {Ty.int.name}, not {type.name}"
  | .readTarget name type =>
      s!"cannot read into variable {name} of type {type.name}"
  | .condition type =>
      s!"assert is only defined for type {Ty.bool.name}, not {type.name}"

structure TypeError where
  rule : TypeRule
  position : Position
deriving DecidableEq

def TypeError.diagnostic (error : TypeError) : Diagnostic :=
  ⟨.typing, error.position, error.rule.message⟩

end TinyImp
