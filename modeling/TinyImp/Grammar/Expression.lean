import TinyImp.Grammar.Production

/-!
# Reading expressions

An expression has at most one operator: `!` in front of an operand, or an
operator between two operands.  An operand is a literal, a name, or an
expression in parentheses.  Parentheses may be nested as deep as the input
goes; every level takes a token, so the number of tokens left bounds them.
-/

namespace TinyImp

/-- The operator that a token stands for between two operands. -/
def TokenKind.binaryOp? : TokenKind → Option BinaryOp
  | .plus => some .add
  | .minus => some .subtract
  | .star => some .multiply
  | .slash => some .divide
  | .less => some .less
  | .equal => some .equal
  | .ampersand => some .both
  | _ => none

namespace Production

/-- Reads an operand, given how to read an expression in parentheses. -/
def operandWith (inner : Production Expr) : Production Expr := do
  let token ← current
  match token.kind with
  | .intLiteral value =>
      advance
      return .number value token.position
  | .stringLiteral value =>
      advance
      return .text value token.position
  | .ident name =>
      advance
      return .named name token.position
  | .leftParen =>
      advance
      let expression ← inner
      expect .rightParen
      return expression
  | _ => throw .operand

/-- Reads an expression, given how to read its operands. -/
def expressionWith (operand : Production Expr) : Production Expr := do
  let token ← current
  if token.kind = .exclamation then
    advance
    return .negation (← operand) token.position
  else
    let left ← operand
    match (← current).kind.binaryOp? with
    | none => return .lone left token.position
    | some operator =>
        advance
        return .binary operator left (← operand) token.position

/-- Reads an expression with fewer than `depth` nested parentheses. -/
def expressionWithin : Nat → Production Expr
  | 0 => throw .operand
  | depth + 1 => expressionWith (operandWith (expressionWithin depth))

def expression : Production Expr := do
  expressionWithin ((← get).size + 1)

end Production

end TinyImp
