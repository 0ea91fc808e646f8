import TinyImp.Text.Quoted
import TinyImp.Tree.Basic

/-!
# Outlines of trees

One line of text that shows a whole tree with the position of every node, as
the journal records it before a statement is executed.  A node with named
parts is written as a record, a node around one part with parentheses.
-/

namespace TinyImp

namespace Outline

def record (name : String) (parts : List (String × String)) : String :=
  let written := parts.map fun part => part.1 ++ ": " ++ part.2
  name ++ " \x7b " ++ ", ".intercalate written ++ " \x7d"

def wrapped (name part : String) : String :=
  name ++ "(" ++ part ++ ")"

def row (items : List String) : String :=
  "[" ++ ", ".intercalate items ++ "]"

end Outline

open Outline

def Position.outline (position : Position) : String :=
  record "Position"
    [("line", toString position.line), ("column", toString position.column)]

def Ty.outline : Ty → String
  | .int => "Int"
  | .string => "String"
  | .bool => "Bool"

def BinaryOp.outline : BinaryOp → String
  | .add => "Add"
  | .subtract => "Sub"
  | .multiply => "Mul"
  | .divide => "Div"
  | .less => "Less"
  | .equal => "Eq"
  | .both => "And"

def Ident.outline (ident : Ident) : String :=
  record "Ident"
    [("name", Text.quoted ident.name),
      ("position", ident.position.outline)]

/-- An expression of which only the position is still to be shown. -/
private def located (kind : String) (position : Position) : String :=
  record "Expr" [("kind", kind), ("position", position.outline)]

def Expr.outline : Expr → String
  | .number value position => located (wrapped "Number" value.text) position
  | .text value position => located (wrapped "Str" (Text.quoted value)) position
  | .named name position =>
      located (wrapped "Identifier" (Text.quoted name)) position
  | .lone operand position =>
      located (wrapped "Nullary" operand.outline) position
  | .negation operand position =>
      located
        (record "Unary" [("operator", "Not"), ("operand", operand.outline)])
        position
  | .binary operator left right position =>
      located
        (record "Binary"
          [("left", left.outline), ("operator", operator.outline),
            ("right", right.outline)])
        position

mutual

/-- What a statement is, without its position. -/
def Stmt.outline : Stmt → String
  | .declare name type initial _ =>
      record "Declare"
        [("name", name.outline), ("ty", type.outline),
          ("init", match initial with
            | some value => wrapped "Some" value.outline
            | none => "None")]
  | .assign target value _ =>
      record "Assign" [("target", target.outline), ("value", value.outline)]
  | .loop index low high body _ =>
      record "For"
        [("index", index.outline), ("low", low.outline),
          ("high", high.outline), ("body", row (Stmt.outlineList body))]
  | .read target _ => record "Read" [("target", target.outline)]
  | .print value _ => wrapped "Print" value.outline
  | .assert condition _ => wrapped "Assert" condition.outline

/-- The statements of a loop body, each with its position. -/
def Stmt.outlineList : List Stmt → List String
  | [] => []
  | statement :: others =>
      record "Stmt"
        [("kind", statement.outline),
          ("position", statement.position.outline)] ::
        Stmt.outlineList others

end

end TinyImp
