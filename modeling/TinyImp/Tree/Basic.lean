import TinyImp.Integer
import TinyImp.Position

/-!
# Program trees

Types, operators, expressions and statements.  Every node carries the place of
its first token.  An operand that stands alone as an expression is a node of
its own, `Expr.lone`, around the operand; parentheses leave no node.
-/

namespace TinyImp

inductive Ty where
  | int
  | string
  | bool
deriving DecidableEq, Repr

def Ty.name : Ty → String
  | .int => "INT"
  | .string => "STRING"
  | .bool => "BOOL"

inductive BinaryOp where
  | add
  | subtract
  | multiply
  | divide
  | less
  | equal
  | both
deriving DecidableEq, Repr

def BinaryOp.name : BinaryOp → String
  | .add => "PLUS"
  | .subtract => "MINUS"
  | .multiply => "MULTIPLY"
  | .divide => "DIVIDE"
  | .less => "LT"
  | .equal => "EQ"
  | .both => "AND"

def negationName : String := "NOT"

structure Ident where
  name : String
  position : Position
deriving DecidableEq

inductive Expr where
  | number (value : Integer) (position : Position)
  | text (value : String) (position : Position)
  | named (name : String) (position : Position)
  | lone (operand : Expr) (position : Position)
  | negation (operand : Expr) (position : Position)
  | binary (operator : BinaryOp) (left right : Expr) (position : Position)
deriving DecidableEq

namespace Expr

def position : Expr → Position
  | number _ position | text _ position | named _ position
  | lone _ position | negation _ position | binary _ _ _ position => position

/-- The expression inside all the nodes of lone operands around it. -/
def core : Expr → Expr
  | lone operand _ => operand.core
  | expression => expression

end Expr

inductive Stmt where
  | declare (name : Ident) (type : Ty) (initial : Option Expr)
      (position : Position)
  | assign (target : Ident) (value : Expr) (position : Position)
  | loop (index : Ident) (low high : Expr) (body : List Stmt)
      (position : Position)
  | read (target : Ident) (position : Position)
  | print (value : Expr) (position : Position)
  | assert (condition : Expr) (position : Position)

def Stmt.position : Stmt → Position
  | .declare _ _ _ position | .assign _ _ position | .loop _ _ _ _ position
  | .read _ position | .print _ position | .assert _ position => position

abbrev Program := List Stmt

end TinyImp
