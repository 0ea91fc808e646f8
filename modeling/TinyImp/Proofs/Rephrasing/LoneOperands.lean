import TinyImp.Proofs.Rephrasing.Judging
import TinyImp.Proofs.Rephrasing.Running

/-!
# Lone operands

A node around a lone operand says nothing that the operand does not say
itself.  Without all these nodes a program has the same symbols and the same
errors at the same places, and it runs alike.  Only the fault of a loop bound
that is no integer names the place of the whole bound, so that its place may
be another one.
-/

namespace TinyImp

/-- The expression without the nodes around lone operands, at every depth. -/
def Expr.strip : Expr → Expr
  | .lone operand _ => operand.strip
  | .negation operand position => .negation operand.strip position
  | .binary operator left right position =>
      .binary operator left.strip right.strip position
  | expression => expression

/-- The program without the nodes around lone operands. -/
def Program.strip (program : Program) : Program :=
  Stmt.rephraseList id Expr.strip program

/-- The stop without the place of a loop bound that is no integer. -/
def Stop.blur : Stop → Stop
  | .fault broken => .fault broken.unplaced
  | stop => stop

namespace Expr

theorem scopeErrors_strip (symbols : SymbolTable) (expression : Expr) :
    expression.strip.scopeErrors symbols =
      expression.scopeErrors symbols := by
  induction expression with
  | lone operand position induction => exact induction
  | negation operand position induction => exact induction
  | binary operator left right position leftInduction rightInduction =>
      rw [strip, scopeErrors, leftInduction, rightInduction, scopeErrors]
  | _ => rfl

theorem infer_strip (symbols : SymbolTable) (expression : Expr) :
    expression.strip.infer symbols = expression.infer symbols := by
  induction expression with
  | lone operand position induction => exact induction
  | negation operand position induction =>
      rw [strip, infer, induction, infer]
  | binary operator left right position leftInduction rightInduction =>
      rw [strip, infer, leftInduction, rightInduction, infer]
  | _ => rfl

theorem evaluate_strip (store : Store) (expression : Expr) :
    expression.strip.evaluate store = expression.evaluate store := by
  induction expression with
  | lone operand position induction => exact induction
  | negation operand position induction =>
      rw [strip, evaluate, induction, evaluate]
  | binary operator left right position leftInduction rightInduction =>
      rw [strip, evaluate, leftInduction, rightInduction, evaluate]
  | _ => rfl

end Expr

section Unmoved

/-! Where every place stays as it is, nothing is moved. -/

theorem SymbolTable.relocate_id (symbols : SymbolTable) :
    symbols.relocate id = symbols :=
  Bindings.map_id symbols

theorem ScopeError.map_relocate_id (errors : List ScopeError) :
    errors.map (ScopeError.relocate id) = errors :=
  List.map_id errors

theorem Scoping.relocate_id (scoping : Scoping) :
    scoping.relocate id = scoping := by
  rw [relocate, SymbolTable.relocate_id, ScopeError.map_relocate_id]

theorem Checked.relocate_id {α : Type} (checked : Checked α) :
    checked.relocate id = checked := by
  have unmoved : checked.errors.map (TypeError.relocate id) =
      checked.errors :=
    List.map_id checked.errors
  rw [relocate, unmoved]

end Unmoved

/-- Lone operands written without a node of their own. -/
def Rephrasing.stripping : Rephrasing where
  place := id
  phrase := Expr.strip
  forget := Stop.blur
  scopeErrors_phrase := by
    intro symbols expression
    rw [SymbolTable.relocate_id, ScopeError.map_relocate_id,
      Expr.scopeErrors_strip]
  infer_phrase := by
    intro symbols expression
    rw [SymbolTable.relocate_id, Checked.relocate_id, Expr.infer_strip]
  evaluate_phrase := by
    intro store expression
    rw [Expr.evaluate_strip]
  forget_failed := fun _ _ => rfl
  forget_bound := fun _ _ _ => rfl

namespace Program

open Execution

/-- Without the nodes around lone operands a program is judged the same and
runs alike. -/
theorem strip_transparent (program : Program) :
    program.strip.scoping = program.scoping ∧
      (∀ symbols, program.strip.check symbols = program.check symbols) ∧
      ∀ machine, Agree Journal.SameUntraced Stop.blur
        (program.execute machine) (program.strip.execute machine) := by
  have stripped : program.strip = Rephrasing.stripping.program program := rfl
  refine ⟨?_, ?_, ?_⟩
  · rw [stripped, Rephrasing.stripping.scoping_program]
    exact program.scoping.relocate_id
  · intro symbols
    have checked := Rephrasing.stripping.check_program symbols program
    have unmoved : symbols.relocate Rephrasing.stripping.place = symbols :=
      symbols.relocate_id
    rw [unmoved] at checked
    rw [stripped, checked]
    exact (program.check symbols).relocate_id
  · intro machine
    have lasting := Journal.lasting_sameUntraced
    exact Rephrasing.stripping.parallel_execute lasting program machine machine
      (.refl lasting machine)

end Program

end TinyImp
