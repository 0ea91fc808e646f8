import TinyImp.Bindings
import TinyImp.Execution.Failure

/-!
# Evaluation

An expression is evaluated from left to right, and every operand is evaluated.
Arithmetic is exact: a result that is not in the range of the integers is a
failure, and so is a division by zero.
-/

namespace TinyImp

abbrev Store := Bindings Value

def Store.lookup (store : Store) (name : String) :
    Except Stop Value :=
  match store.get? name with
  | some value => .ok value
  | none => .error (.fault (.unboundVariable name))

/-- The value of an arithmetic operation at a place. -/
def Value.ofResult (result : Option Integer) (position : Position) :
    Except Stop Value :=
  match result with
  | some value => .ok (.int value)
  | none => .error (.failed .overflow position)

def BinaryOp.apply (operator : BinaryOp) (left right : Value)
    (position : Position) : Except Stop Value :=
  match operator, left, right with
  | .add, .int left, .int right => Value.ofResult (left.add? right) position
  | .add, .string left, .string right => .ok (.string (left ++ right))
  | .subtract, .int left, .int right => Value.ofResult (left.sub? right) position
  | .multiply, .int left, .int right => Value.ofResult (left.mul? right) position
  | .divide, .int left, .int right =>
      if right = .zero then .error (.failed .divisionByZero position)
      else Value.ofResult (left.div? right) position
  | .both, .bool left, .bool right => .ok (.bool (left && right))
  | .equal, left, right =>
      if left.type = right.type then .ok (.bool (left = right))
      else .error (.fault (.unsupported .equal left right))
  | .less, left, right =>
      match left.compare? right with
      | some order => .ok (.bool (order == .lt))
      | none => .error (.fault (.incomparable left right))
  | operator, left, right =>
      .error (.fault (.unsupported operator left right))

def Value.negate : Value → Except Stop Value
  | .bool value => .ok (.bool !value)
  | value => .error (.fault (.negatedValue value))

def Expr.evaluate (store : Store) : Expr → Except Stop Value
  | .number value _ => .ok (.int value)
  | .text value _ => .ok (.string value)
  | .named name _ => store.lookup name
  | .lone operand _ => operand.evaluate store
  | .negation operand _ => do
      (← operand.evaluate store).negate
  | .binary operator left right position => do
      let leftValue ← left.evaluate store
      let rightValue ← right.evaluate store
      operator.apply leftValue rightValue position

def Expr.evaluateInt (store : Store) (expression : Expr) :
    Except Stop Integer := do
  match ← expression.evaluate store with
  | .int value => .ok value
  | other => .error (.fault (.boundValue expression.position other))

end TinyImp
