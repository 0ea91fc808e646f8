import TinyImp.Scope.Analysis
import TinyImp.Typing.Check

/-!
# Names of programs

A part of a program is named by fit names if every name in it is fit, those
that are declared included.  The analyses of names and of types speak of no
names but those of the program, so what is true of all its names is true of
the names in their errors.
-/

namespace TinyImp

/-- Every name in an expression is fit. -/
def Expr.NamedBy (fit : String → Prop) : Expr → Prop
  | .number _ _ | .text _ _ => True
  | .named name _ => fit name
  | .lone operand _ | .negation operand _ => operand.NamedBy fit
  | .binary _ left right _ => left.NamedBy fit ∧ right.NamedBy fit

mutual

/-- Every name in a statement is fit, the statements inside it included. -/
def Stmt.NamedBy (fit : String → Prop) : Stmt → Prop
  | .declare name _ initial _ =>
      fit name.name ∧ ∀ value ∈ initial, value.NamedBy fit
  | .assign target value _ => fit target.name ∧ value.NamedBy fit
  | .loop index low high body _ =>
      fit index.name ∧ low.NamedBy fit ∧ high.NamedBy fit ∧
        Stmt.NamedByList fit body
  | .read target _ => fit target.name
  | .print value _ | .assert value _ => value.NamedBy fit

def Stmt.NamedByList (fit : String → Prop) : List Stmt → Prop
  | [] => True
  | statement :: others => statement.NamedBy fit ∧ Stmt.NamedByList fit others

end

variable {fit : String → Prop}

/-! ## Errors about names -/

/-- The errors are about fit names. -/
def ScopeError.AllAbout (fit : String → Prop) (errors : List ScopeError) :
    Prop :=
  ∀ error ∈ errors, fit error.name

namespace ScopeError.AllAbout

theorem nil : AllAbout fit [] :=
  List.forall_mem_nil _

theorem append {early late : List ScopeError} (first : AllAbout fit early)
    (second : AllAbout fit late) : AllAbout fit (early ++ late) :=
  List.forall_mem_append.2 ⟨first, second⟩

theorem flagged {error : ScopeError} (named : fit error.name)
    (broken : Bool) : AllAbout fit (ScopeError.flagged broken error) := by
  cases broken with
  | false => exact .nil
  | true => exact List.forall_mem_singleton.2 named

end ScopeError.AllAbout

open ScopeError (AllAbout)

theorem Expr.allAbout_scopeErrors {expression : Expr}
    (symbols : SymbolTable) (named : expression.NamedBy fit) :
    AllAbout fit (expression.scopeErrors symbols) := by
  induction expression with
  | number _ _ | text _ _ => exact .nil
  | named name position => exact .flagged named _
  | lone operand _ induction | negation operand _ induction =>
      exact induction named
  | binary _ left right _ leftInduction rightInduction =>
      exact (leftInduction named.1).append (rightInduction named.2)

mutual

theorem Stmt.allAbout_scoping (statement : Stmt) (locked : List String)
    (symbols : SymbolTable) (named : statement.NamedBy fit) :
    AllAbout fit (statement.scoping locked symbols).errors := by
  cases statement with
  | declare name type initial position =>
      rw [Stmt.scoping]
      refine .append ?_ (.flagged named.1 _)
      cases initial with
      | none => exact .nil
      | some value => exact value.allAbout_scopeErrors symbols (named.2 _ rfl)
  | assign target value position =>
      rw [Stmt.scoping]
      refine .append (.append ?_ ?_) ?_
      · exact .flagged named.1 _
      · exact .flagged named.1 _
      · exact value.allAbout_scopeErrors symbols named.2
  | loop index low high body position =>
      obtain ⟨indexNamed, lowNamed, highNamed, bodyNamed⟩ := named
      rw [Stmt.scoping]
      refine .append (.append (.append (.append ?_ ?_) ?_) ?_) ?_
      · exact .flagged indexNamed _
      · exact .flagged indexNamed _
      · exact low.allAbout_scopeErrors symbols lowNamed
      · exact high.allAbout_scopeErrors symbols highNamed
      · exact Stmt.allAbout_scopingList body _ symbols bodyNamed
  | read target position =>
      rw [Stmt.scoping]
      exact .append (.flagged named _) (.flagged named _)
  | print value position | assert value position =>
      rw [Stmt.scoping]
      exact value.allAbout_scopeErrors symbols named

theorem Stmt.allAbout_scopingList (block : List Stmt) (locked : List String)
    (symbols : SymbolTable) (named : Stmt.NamedByList fit block) :
    AllAbout fit (Stmt.scopingList locked symbols block).errors := by
  cases block with
  | nil => exact .nil
  | cons statement others =>
      rw [Stmt.scopingList]
      exact (statement.allAbout_scoping locked symbols named.1).append
        (Stmt.allAbout_scopingList others _ _ named.2)

end

/-! ## Errors about types -/

/-- The names that a broken rule of typing speaks of. -/
def TypeRule.names : TypeRule → List String
  | .assigned name _ _ | .readTarget name _ => [name]
  | .negated _ | .unmatched _ _ _ | .operand _ _ | .index _ | .lowerBound _
  | .upperBound _ | .condition _ => []

namespace Checked

/-- A judgement whose errors speak of fit names only. -/
def Cites (fit : String → Prop) {α : Type} (checked : Checked α) : Prop :=
  ∀ error ∈ checked.errors, ∀ name ∈ error.rule.names, fit name

variable {α β : Type}

theorem cites_of_clean {checked : Checked α} (clean : checked.errors = []) :
    checked.Cites fit := by
  intro error member
  rw [clean] at member
  cases member

theorem cites_pure (value : α) : Cites fit (pure value) :=
  cites_of_clean rfl

theorem Cites.bind {first : Checked α} {next : α → Checked β}
    (early : first.Cites fit) (late : ∀ value, (next value).Cites fit) :
    (first >>= next).Cites fit := by
  obtain ⟨errors, result⟩ := first
  cases result with
  | error fault => exact early
  | ok value => exact List.forall_mem_append.2 ⟨early, late value⟩

theorem cites_require {rule : TypeRule} (holds : Bool) (position : Position)
    (named : ∀ name ∈ rule.names, fit name) :
    (require holds rule position).Cites fit := by
  cases holds with
  | true => exact cites_of_clean rfl
  | false => exact List.forall_mem_singleton.2 named

/-- A rule that speaks of no name may be broken by anything. -/
theorem cites_require_nameless {rule : TypeRule} (holds : Bool)
    (position : Position) (nameless : rule.names = []) :
    (require holds rule position).Cites fit := by
  refine cites_require holds position fun name member => ?_
  rw [nameless] at member
  cases member

end Checked

open Checked

theorem SymbolTable.cites_declaredType (symbols : SymbolTable)
    (name : String) : (symbols.declaredType name).Cites fit := by
  apply cites_of_clean
  unfold SymbolTable.declaredType
  split <;> rfl

theorem Expr.cites_infer (symbols : SymbolTable) (expression : Expr) :
    (expression.infer symbols).Cites fit := by
  induction expression with
  | number _ _ | text _ _ => exact cites_pure _
  | named name _ => exact symbols.cites_declaredType name
  | lone operand _ induction => exact induction
  | negation operand position induction =>
      refine induction.bind fun type => ?_
      exact (cites_require_nameless _ _ rfl).bind fun _ => cites_pure _
  | binary operator left right position leftInduction rightInduction =>
      refine leftInduction.bind fun leftType => ?_
      refine rightInduction.bind fun rightType => ?_
      refine (cites_require_nameless _ _ rfl).bind fun _ => ?_
      exact (cites_require_nameless _ _ rfl).bind fun _ => cites_pure _

mutual

theorem Stmt.cites_check (statement : Stmt) (symbols : SymbolTable)
    (named : statement.NamedBy fit) : (statement.check symbols).Cites fit := by
  cases statement with
  | declare name type initial position =>
      cases initial with
      | none => exact cites_pure _
      | some value =>
          refine (value.cites_infer symbols).bind fun valueType => ?_
          exact cites_require _ _ (List.forall_mem_singleton.2 named.1)
  | assign target value position =>
      refine (symbols.cites_declaredType _).bind fun targetType => ?_
      refine (value.cites_infer symbols).bind fun valueType => ?_
      exact cites_require _ _ (List.forall_mem_singleton.2 named.1)
  | loop index low high body position =>
      refine (symbols.cites_declaredType _).bind fun indexType => ?_
      refine (low.cites_infer symbols).bind fun lowType => ?_
      refine (high.cites_infer symbols).bind fun highType => ?_
      refine (cites_require_nameless _ _ rfl).bind fun _ => ?_
      refine (cites_require_nameless _ _ rfl).bind fun _ => ?_
      refine (cites_require_nameless _ _ rfl).bind fun _ => ?_
      exact Stmt.cites_checkList body symbols named.2.2.2
  | read target position =>
      refine (symbols.cites_declaredType _).bind fun targetType => ?_
      exact cites_require _ _ (List.forall_mem_singleton.2 named)
  | print value position =>
      exact (value.cites_infer symbols).bind fun _ => cites_pure _
  | assert condition position =>
      refine (condition.cites_infer symbols).bind fun type => ?_
      exact cites_require_nameless _ _ rfl

theorem Stmt.cites_checkList (block : List Stmt) (symbols : SymbolTable)
    (named : Stmt.NamedByList fit block) :
    (Stmt.checkList symbols block).Cites fit := by
  cases block with
  | nil => exact cites_pure _
  | cons statement others =>
      refine (statement.cites_check symbols named.1).bind fun _ => ?_
      exact Stmt.cites_checkList others symbols named.2

end

end TinyImp
