import TinyImp.Typing.Check

/-!
# Typing judgements

When an expression has a type and when a statement is well typed, said as
rules and without errors to note.  A program in which the checker notes
nothing is well typed by these rules.
-/

namespace TinyImp

/-- The operand type and the result type that an operator can be used at. -/
inductive BinaryOp.UsedAt : BinaryOp → Ty → Ty → Prop where
  | addInt : UsedAt .add .int .int
  | addString : UsedAt .add .string .string
  | subtract : UsedAt .subtract .int .int
  | multiply : UsedAt .multiply .int .int
  | divide : UsedAt .divide .int .int
  | both : UsedAt .both .bool .bool
  | less (type : Ty) : UsedAt .less type .bool
  | equal (type : Ty) : UsedAt .equal type .bool

/-- The types of expressions over the declared variables. -/
inductive Expr.HasType (symbols : SymbolTable) : Expr → Ty → Prop where
  | number {value : Integer} {position : Position} :
      HasType symbols (.number value position) .int
  | text {value : String} {position : Position} :
      HasType symbols (.text value position) .string
  | named {name : String} {position : Position} {type : Ty} :
      symbols.typeOf? name = some type →
      HasType symbols (.named name position) type
  | lone {operand : Expr} {position : Position} {type : Ty} :
      HasType symbols operand type →
      HasType symbols (.lone operand position) type
  | negation {operand : Expr} {position : Position} :
      HasType symbols operand .bool →
      HasType symbols (.negation operand position) .bool
  | binary {operator : BinaryOp} {left right : Expr} {position : Position}
      {type result : Ty} :
      HasType symbols left type →
      HasType symbols right type →
      operator.UsedAt type result →
      HasType symbols (.binary operator left right position) result

/-- The statements that are well typed over the declared variables. -/
inductive Stmt.WellTyped (symbols : SymbolTable) : Stmt → Prop where
  | declare {name : Ident} {type : Ty} {position : Position} :
      WellTyped symbols (.declare name type none position)
  | declareAs {name : Ident} {type : Ty} {value : Expr} {position : Position} :
      value.HasType symbols type →
      WellTyped symbols (.declare name type (some value) position)
  | assign {target : Ident} {value : Expr} {position : Position} {type : Ty} :
      symbols.typeOf? target.name = some type →
      value.HasType symbols type →
      WellTyped symbols (.assign target value position)
  | loop {index : Ident} {low high : Expr} {body : List Stmt}
      {position : Position} :
      symbols.typeOf? index.name = some .int →
      low.HasType symbols .int →
      high.HasType symbols .int →
      (∀ statement ∈ body, WellTyped symbols statement) →
      WellTyped symbols (.loop index low high body position)
  | read {target : Ident} {position : Position} {type : Ty} :
      symbols.typeOf? target.name = some type →
      type ≠ .bool →
      WellTyped symbols (.read target position)
  | print {value : Expr} {position : Position} {type : Ty} :
      value.HasType symbols type →
      WellTyped symbols (.print value position)
  | assert {condition : Expr} {position : Position} :
      condition.HasType symbols .bool →
      WellTyped symbols (.assert condition position)

theorem BinaryOp.usedAt_iff {operator : BinaryOp} {type result : Ty} :
    operator.UsedAt type result ↔
      operator.accepts type = true ∧ operator.resultType type = result := by
  constructor
  · intro used
    cases used <;> exact ⟨rfl, rfl⟩
  · intro given
    obtain ⟨accepted, rfl⟩ := given
    cases operator with
    | less => exact .less type
    | equal => exact .equal type
    | add =>
        cases type with
        | int => exact .addInt
        | string => exact .addString
        | bool => cases accepted
    | subtract =>
        cases type with
        | int => exact .subtract
        | string => cases accepted
        | bool => cases accepted
    | multiply =>
        cases type with
        | int => exact .multiply
        | string => cases accepted
        | bool => cases accepted
    | divide =>
        cases type with
        | int => exact .divide
        | string => cases accepted
        | bool => cases accepted
    | both =>
        cases type with
        | int => cases accepted
        | string => cases accepted
        | bool => exact .both

namespace Checked

/-- The check finds nothing and comes to an answer. -/
def Clean {α : Type} (checked : Checked α) (answer : α) : Prop :=
  checked = ⟨[], .ok answer⟩

theorem clean_bind_iff {α β : Type} {first : Checked α}
    {next : α → Checked β} {answer : β} :
    (first >>= next).Clean answer ↔
      ∃ value, first.Clean value ∧ (next value).Clean answer := by
  obtain ⟨errors, result⟩ := first
  constructor
  · intro clean
    cases result with
    | error fault => cases clean
    | ok value =>
        have parts : errors ++ (next value).errors = [] ∧
            (next value).result = .ok answer := by
          simpa only [Clean, bind, Checked.mk.injEq] using clean
        obtain ⟨none, answered⟩ := parts
        obtain ⟨early, late⟩ := List.append_eq_nil_iff.1 none
        refine ⟨value, ?_, ?_⟩
        · rw [Clean, early]
        · rw [Clean, ← late, ← answered]
  · intro given
    obtain ⟨value, early, late⟩ := given
    cases early
    simp only [Clean, bind, List.nil_append]
    rw [Clean] at late
    rw [late]

theorem clean_require_iff {holds : Bool} {rule : TypeRule}
    {position : Position} :
    (require holds rule position).Clean () ↔ holds = true := by
  cases holds with
  | true => exact ⟨fun _ => rfl, fun _ => rfl⟩
  | false =>
      constructor
      · intro clean
        cases clean
      · intro absurdity
        cases absurdity

theorem clean_pure_iff {α : Type} {value answer : α} :
    (pure value : Checked α).Clean answer ↔ value = answer := by
  constructor
  · intro clean
    cases clean
    rfl
  · intro given
    subst given
    rfl

end Checked

open Checked

theorem SymbolTable.clean_declaredType_iff {symbols : SymbolTable}
    {name : String} {type : Ty} :
    (symbols.declaredType name).Clean type ↔
      symbols.typeOf? name = some type := by
  unfold SymbolTable.declaredType
  cases symbols.typeOf? name with
  | none =>
      constructor
      · intro clean
        cases clean
      · intro absurdity
        cases absurdity
  | some declared =>
      rw [clean_pure_iff, Option.some.injEq]

/-- Inference that finds nothing gives the type of the expression. -/
theorem Expr.hasType_of_infer {symbols : SymbolTable} {expression : Expr}
    {type : Ty} (clean : (expression.infer symbols).Clean type) :
    expression.HasType symbols type := by
  induction expression generalizing type with
  | number value position =>
      cases clean
      exact .number
  | text value position =>
      cases clean
      exact .text
  | named name position =>
      exact .named (SymbolTable.clean_declaredType_iff.1 clean)
  | lone operand position induction => exact .lone (induction clean)
  | negation operand position induction =>
      rw [Expr.infer] at clean
      obtain ⟨inner, operandClean, rest⟩ := clean_bind_iff.1 clean
      obtain ⟨_, required, returned⟩ := clean_bind_iff.1 rest
      cases clean_pure_iff.1 returned
      have isBool : inner = .bool := by
        simpa using clean_require_iff.1 required
      subst isBool
      exact .negation (induction operandClean)
  | binary operator left right position leftInduction rightInduction =>
      rw [Expr.infer] at clean
      obtain ⟨leftType, leftClean, rest⟩ := clean_bind_iff.1 clean
      obtain ⟨rightType, rightClean, rest⟩ := clean_bind_iff.1 rest
      obtain ⟨_, matched, rest⟩ := clean_bind_iff.1 rest
      obtain ⟨_, accepted, returned⟩ := clean_bind_iff.1 rest
      have same : leftType = rightType := by
        simpa using clean_require_iff.1 matched
      subst same
      have used : operator.UsedAt leftType type :=
        BinaryOp.usedAt_iff.2
          ⟨clean_require_iff.1 accepted, clean_pure_iff.1 returned⟩
      exact .binary (leftInduction leftClean) (rightInduction rightClean) used

mutual

/-- A statement in which the checker finds nothing is well typed. -/
theorem Stmt.wellTyped_of_check {symbols : SymbolTable} (statement : Stmt)
    (clean : (statement.check symbols).Clean ()) :
    statement.WellTyped symbols := by
  cases statement with
  | declare name type initial position =>
      cases initial with
      | none => exact .declare
      | some value =>
          rw [Stmt.check] at clean
          obtain ⟨valueType, inferred, required⟩ := clean_bind_iff.1 clean
          have same : valueType = type := by
            simpa using clean_require_iff.1 required
          subst same
          exact .declareAs (Expr.hasType_of_infer inferred)
  | assign target value position =>
      rw [Stmt.check] at clean
      obtain ⟨targetType, declared, rest⟩ := clean_bind_iff.1 clean
      obtain ⟨valueType, inferred, required⟩ := clean_bind_iff.1 rest
      have same : valueType = targetType := by
        simpa using clean_require_iff.1 required
      subst same
      exact .assign (SymbolTable.clean_declaredType_iff.1 declared)
        (Expr.hasType_of_infer inferred)
  | loop index low high body position =>
      rw [Stmt.check] at clean
      obtain ⟨indexType, declared, rest⟩ := clean_bind_iff.1 clean
      obtain ⟨lowType, lowInferred, rest⟩ := clean_bind_iff.1 rest
      obtain ⟨highType, highInferred, rest⟩ := clean_bind_iff.1 rest
      obtain ⟨_, indexRequired, rest⟩ := clean_bind_iff.1 rest
      obtain ⟨_, lowRequired, rest⟩ := clean_bind_iff.1 rest
      obtain ⟨_, highRequired, bodyClean⟩ := clean_bind_iff.1 rest
      have indexInt : indexType = .int := by
        simpa using clean_require_iff.1 indexRequired
      have lowInt : lowType = .int := by
        simpa using clean_require_iff.1 lowRequired
      have highInt : highType = .int := by
        simpa using clean_require_iff.1 highRequired
      subst indexInt lowInt highInt
      exact .loop (SymbolTable.clean_declaredType_iff.1 declared)
        (Expr.hasType_of_infer lowInferred)
        (Expr.hasType_of_infer highInferred)
        (Stmt.wellTyped_of_checkList body bodyClean)
  | read target position =>
      rw [Stmt.check] at clean
      obtain ⟨targetType, declared, required⟩ := clean_bind_iff.1 clean
      have notBool : targetType ≠ .bool := by
        simpa using clean_require_iff.1 required
      exact .read (SymbolTable.clean_declaredType_iff.1 declared) notBool
  | print value position =>
      rw [Stmt.check] at clean
      obtain ⟨valueType, inferred, _⟩ := clean_bind_iff.1 clean
      exact .print (Expr.hasType_of_infer inferred)
  | assert condition position =>
      rw [Stmt.check] at clean
      obtain ⟨conditionType, inferred, required⟩ := clean_bind_iff.1 clean
      have isBool : conditionType = .bool := by
        simpa using clean_require_iff.1 required
      subst isBool
      exact .assert (Expr.hasType_of_infer inferred)

theorem Stmt.wellTyped_of_checkList {symbols : SymbolTable}
    (statements : List Stmt)
    (clean : (Stmt.checkList symbols statements).Clean ()) :
    ∀ statement ∈ statements, statement.WellTyped symbols := by
  cases statements with
  | nil =>
      intro statement member
      cases member
  | cons first others =>
      rw [Stmt.checkList] at clean
      obtain ⟨_, firstClean, othersClean⟩ := clean_bind_iff.1 clean
      intro statement member
      rcases List.mem_cons.1 member with same | later
      · rw [same]
        exact Stmt.wellTyped_of_check first firstClean
      · exact Stmt.wellTyped_of_checkList others othersClean statement later

end

end TinyImp
