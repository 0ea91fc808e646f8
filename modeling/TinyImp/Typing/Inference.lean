import TinyImp.Fault
import TinyImp.Scope.SymbolTable
import TinyImp.Typing.TypeError

/-!
# Type inference

Inference gives every expression a type and notes the rules that it breaks,
left operand before right.  It does not stop at an error: a comparison or a
negation is boolean whatever its operands are, and any other operator has the
type of its left operand.  Only a name that is not declared at all stops it,
and that is a fault.
-/

namespace TinyImp

/-- The errors noted so far, and the answer unless a fault came in between. -/
structure Checked (α : Type) where
  errors : List TypeError
  result : Except Fault α

namespace Checked

instance : Monad Checked where
  pure value := ⟨[], .ok value⟩
  bind checked next :=
    match checked.result with
    | .error fault => ⟨checked.errors, .error fault⟩
    | .ok value =>
        let late := next value
        ⟨checked.errors ++ late.errors, late.result⟩

def fault {α : Type} (fault : Fault) : Checked α :=
  ⟨[], .error fault⟩

/-- Notes an error unless the rule holds. -/
def require (holds : Bool) (rule : TypeRule) (position : Position) :
    Checked Unit :=
  ⟨if holds then [] else [⟨rule, position⟩], .ok ()⟩

end Checked

open Checked (require)

def BinaryOp.accepts : BinaryOp → Ty → Bool
  | .add, type => type == .int || type == .string
  | .subtract, type | .multiply, type | .divide, type => type == .int
  | .both, type => type == .bool
  | .less, _ | .equal, _ => true

/-- The type of an operator's result, given the type of its left operand. -/
def BinaryOp.resultType : BinaryOp → Ty → Ty
  | .less, _ | .equal, _ => .bool
  | .add, left | .subtract, left | .multiply, left | .divide, left
  | .both, left => left

def SymbolTable.declaredType (symbols : SymbolTable) (name : String) :
    Checked Ty :=
  match symbols.typeOf? name with
  | some type => pure type
  | none => .fault (.missingSymbol name)

def Expr.infer (symbols : SymbolTable) : Expr → Checked Ty
  | .number _ _ => pure .int
  | .text _ _ => pure .string
  | .named name _ => symbols.declaredType name
  | .lone operand _ => operand.infer symbols
  | .negation operand position => do
      let type ← operand.infer symbols
      require (type == .bool) (.negated type) position
      return .bool
  | .binary operator left right position => do
      let leftType ← left.infer symbols
      let rightType ← right.infer symbols
      require (leftType == rightType)
        (.unmatched operator leftType rightType) position
      require (operator.accepts leftType)
        (.operand operator leftType) position
      return operator.resultType leftType

end TinyImp
