import TinyImp.Proofs.Typing.Completion
import TinyImp.Proofs.Typing.Judgement

/-!
# Checking decides typing

Inference goes on behind an error with a type that it makes up, and so does
the check of a program.  Still no error is lost and none is invented: nothing
is noted exactly if the expression has a type by the rules of typing, or the
program is well typed by them.  The table only has to know every name that is
used, for otherwise there is no answer at all.
-/

namespace TinyImp

namespace Checked

variable {α : Type}

theorem clean_iff {checked : Checked α} {answer : α} :
    checked.Clean answer ↔
      checked.errors = [] ∧ checked.result = .ok answer := by
  obtain ⟨errors, result⟩ := checked
  rw [Clean, Checked.mk.injEq]

/-- A check whose answer is known notes nothing exactly if it is clean. -/
theorem errors_eq_nil_iff {checked : Checked α} {answer : α}
    (answered : checked.result = .ok answer) :
    checked.errors = [] ↔ checked.Clean answer := by
  rw [clean_iff, and_iff_left answered]

end Checked

open Checked

namespace Expr

variable {symbols : SymbolTable}

/-- An expression that has a type is inferred to have it. -/
theorem HasType.infer {expression : Expr} {type : Ty}
    (hasType : expression.HasType symbols type) :
    (expression.infer symbols).Clean type := by
  induction hasType with
  | number => exact clean_pure_iff.2 rfl
  | text => exact clean_pure_iff.2 rfl
  | named declared => exact SymbolTable.clean_declaredType_iff.2 declared
  | lone _ induction => exact induction
  | negation _ induction =>
      rw [Expr.infer]
      refine clean_bind_iff.2 ⟨.bool, induction, ?_⟩
      exact clean_bind_iff.2
        ⟨(), clean_require_iff.2 rfl, clean_pure_iff.2 rfl⟩
  | @binary operator left right position type result _ _ used leftInduction
      rightInduction =>
      obtain ⟨accepted, returned⟩ := BinaryOp.usedAt_iff.1 used
      rw [Expr.infer]
      refine clean_bind_iff.2 ⟨type, leftInduction, ?_⟩
      refine clean_bind_iff.2 ⟨type, rightInduction, ?_⟩
      refine clean_bind_iff.2 ⟨(), clean_require_iff.2 (beq_self_eq_true type), ?_⟩
      exact clean_bind_iff.2
        ⟨(), clean_require_iff.2 accepted, clean_pure_iff.2 returned⟩

theorem clean_infer_iff {expression : Expr} {type : Ty} :
    (expression.infer symbols).Clean type ↔
      expression.HasType symbols type :=
  ⟨hasType_of_infer, HasType.infer⟩

end Expr

namespace Stmt

variable {symbols : SymbolTable}

theorem clean_checkList_iff {statements : List Stmt} :
    (Stmt.checkList symbols statements).Clean () ↔
      ∀ statement ∈ statements, (statement.check symbols).Clean () := by
  induction statements with
  | nil =>
      rw [Stmt.checkList, clean_pure_iff]
      constructor
      · intro _ statement member
        cases member
      · intro _
        rfl
  | cons first others induction =>
      rw [Stmt.checkList, clean_bind_iff, List.forall_mem_cons, ← induction]
      constructor
      · intro given
        obtain ⟨_, firstClean, othersClean⟩ := given
        exact ⟨firstClean, othersClean⟩
      · intro given
        exact ⟨(), given.1, given.2⟩

/-- The checker finds nothing in a statement that is well typed. -/
theorem WellTyped.check {statement : Stmt}
    (wellTyped : statement.WellTyped symbols) :
    (statement.check symbols).Clean () := by
  induction wellTyped with
  | declare => exact clean_pure_iff.2 rfl
  | declareAs hasType =>
      rw [Stmt.check]
      exact clean_bind_iff.2
        ⟨_, hasType.infer, clean_require_iff.2 (beq_self_eq_true _)⟩
  | assign declared hasType =>
      rw [Stmt.check]
      refine clean_bind_iff.2
        ⟨_, SymbolTable.clean_declaredType_iff.2 declared, ?_⟩
      exact clean_bind_iff.2
        ⟨_, hasType.infer, clean_require_iff.2 (beq_self_eq_true _)⟩
  | loop declared lowType highType _ induction =>
      rw [Stmt.check]
      refine clean_bind_iff.2
        ⟨.int, SymbolTable.clean_declaredType_iff.2 declared, ?_⟩
      refine clean_bind_iff.2 ⟨.int, lowType.infer, ?_⟩
      refine clean_bind_iff.2 ⟨.int, highType.infer, ?_⟩
      refine clean_bind_iff.2 ⟨(), clean_require_iff.2 rfl, ?_⟩
      refine clean_bind_iff.2 ⟨(), clean_require_iff.2 rfl, ?_⟩
      exact clean_bind_iff.2
        ⟨(), clean_require_iff.2 rfl, clean_checkList_iff.2 induction⟩
  | read declared notBool =>
      rw [Stmt.check]
      exact clean_bind_iff.2
        ⟨_, SymbolTable.clean_declaredType_iff.2 declared,
          clean_require_iff.2 (bne_iff_ne.2 notBool)⟩
  | print hasType =>
      rw [Stmt.check]
      exact clean_bind_iff.2 ⟨_, hasType.infer, clean_pure_iff.2 rfl⟩
  | assert hasType =>
      rw [Stmt.check]
      exact clean_bind_iff.2 ⟨.bool, hasType.infer, clean_require_iff.2 rfl⟩

theorem clean_checkList_iff_wellTyped {statements : List Stmt} :
    (Stmt.checkList symbols statements).Clean () ↔
      ∀ statement ∈ statements, statement.WellTyped symbols := by
  constructor
  · exact wellTyped_of_checkList statements
  · intro wellTyped
    exact clean_checkList_iff.2 fun statement member =>
      (wellTyped statement member).check

end Stmt

/-- A table that knows the names in use.  The check of a program comes to its
end and notes nothing exactly if the program is well typed; inference comes to
a type and notes nothing exactly if the expression has one, which is then the
only one it has. -/
theorem SymbolTable.check_decides_typing (symbols : SymbolTable) :
    (∀ program : Program,
      (∀ name ∈ Stmt.mentionsList program, symbols.contains name = true) →
        (program.check symbols).result = .ok () ∧
          ((program.check symbols).errors = [] ↔
            ∀ statement ∈ program, statement.WellTyped symbols)) ∧
      ∀ expression : Expr,
        (∀ name ∈ expression.names, symbols.contains name = true) →
          ∃ type, (expression.infer symbols).result = .ok type ∧
            ((expression.infer symbols).errors = [] ↔
              ∃ held, expression.HasType symbols held) ∧
            ∀ other, expression.HasType symbols other → other = type := by
  constructor
  · intro program known
    have ended : (program.check symbols).result = .ok () :=
      Stmt.checkList_result program known
    refine ⟨ended, ?_⟩
    rw [errors_eq_nil_iff ended]
    exact Stmt.clean_checkList_iff_wellTyped
  · intro expression known
    obtain ⟨type, answered⟩ := expression.exists_infer_result known
    -- Whatever type the expression has is the answer, for inference is clean.
    have only : ∀ other, expression.HasType symbols other → other = type := by
      intro other hasType
      have inferred := (clean_iff.1 hasType.infer).2
      rw [answered] at inferred
      cases inferred
      rfl
    refine ⟨type, answered, ?_, only⟩
    rw [errors_eq_nil_iff answered, Expr.clean_infer_iff]
    constructor
    · intro hasType
      exact ⟨type, hasType⟩
    · intro given
      obtain ⟨other, hasType⟩ := given
      rw [← only other hasType]
      exact hasType

/-- An integer and a string are declared. -/
def counterAndText : SymbolTable :=
  (SymbolTable.declare .empty "i" ⟨.int, ⟨1, 1⟩⟩).declare "s" ⟨.string, ⟨2, 1⟩⟩

/-- A loop that makes a string longer and compares it in every round. -/
def lengtheningLoop : Program :=
  [.loop ⟨"i", ⟨3, 5⟩⟩ (.lone (.named "i" ⟨3, 10⟩) ⟨3, 10⟩)
    (.lone (.number .zero ⟨3, 13⟩) ⟨3, 13⟩)
    [.assign ⟨"s", ⟨4, 3⟩⟩
        (.binary .add (.named "s" ⟨4, 8⟩) (.text "a" ⟨4, 12⟩) ⟨4, 8⟩) ⟨4, 3⟩,
      .assert
        (.negation
          (.binary .less (.named "s" ⟨5, 13⟩) (.text "b" ⟨5, 17⟩) ⟨5, 13⟩)
          ⟨5, 11⟩) ⟨5, 3⟩] ⟨3, 1⟩]

/-- A sum that mixes types, inside a comparison that is boolean all the same. -/
def mixedComparison : Expr :=
  .binary .less
    (.binary .add (.named "i" ⟨1, 2⟩) (.named "s" ⟨1, 6⟩) ⟨1, 2⟩)
    (.number .zero ⟨1, 11⟩) ⟨1, 1⟩

theorem lengtheningLoop_wellTyped :
    (∀ statement ∈ lengtheningLoop, statement.WellTyped counterAndText) ∧
      (mixedComparison.infer counterAndText).result = .ok .bool ∧
      ¬ ∃ type, mixedComparison.HasType counterAndText type := by
  obtain ⟨programs, expressions⟩ :=
    SymbolTable.check_decides_typing counterAndText
  refine ⟨(programs lengtheningLoop (by decide)).2.1 rfl, rfl, ?_⟩
  obtain ⟨type, _, decided, _⟩ := expressions mixedComparison (by decide)
  intro hasType
  cases decided.2 hasType

end TinyImp
