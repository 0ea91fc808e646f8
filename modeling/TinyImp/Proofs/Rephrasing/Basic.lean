import TinyImp.Execution.Expression
import TinyImp.Scope.Analysis
import TinyImp.Typing.Check

/-!
# Rephrasings

A program can be written in other words without a change of its meaning: at
other places, or with other nodes around its operands.  A `Rephrasing` says
what becomes of every place and of every expression.  It comes with the laws
that all stages treat the two expressions alike: the analysis of names and the
inference of types find the same at the moved places, and evaluation gives the
same value, or stops with what is the same once some details are forgotten.

From these laws about expressions, the modules that follow derive that whole
programs are judged and executed alike.
-/

namespace TinyImp

namespace Bindings

variable {α β : Type} (change : α → β) (bindings : Bindings α)

/-- The same names with changed values. -/
def map : Bindings β :=
  ⟨bindings.entries.map fun entry => (entry.1, change entry.2)⟩

theorem get?_map (name : String) :
    (bindings.map change).get? name = (bindings.get? name).map change := by
  obtain ⟨entries⟩ := bindings
  change (entries.map _).lookup name = (entries.lookup name).map change
  induction entries with
  | nil => rfl
  | cons entry entries induction =>
      rw [List.map_cons, List.lookup_cons, List.lookup_cons, induction]
      split <;> rfl

theorem contains_map (name : String) :
    (bindings.map change).contains name = bindings.contains name := by
  rw [contains, get?_map, Option.isSome_map, contains]

theorem map_set (name : String) (value : α) :
    (bindings.set name value).map change =
      (bindings.map change).set name (change value) := by
  obtain ⟨entries⟩ := bindings
  apply congrArg Bindings.mk
  change (setEntries name value entries).map _ =
    setEntries name (change value) (entries.map _)
  induction entries with
  | nil => rfl
  | cons entry entries induction =>
      by_cases found : entry.1 = name
      · simp [setEntries, found]
      · simp [setEntries, found, induction]

theorem map_id : bindings.map id = bindings := by
  simp [map]

end Bindings

section Places

variable (place : Position → Position)

def Ident.relocate (ident : Ident) : Ident :=
  ⟨ident.name, place ident.position⟩

def Expr.relocate : Expr → Expr
  | .number value position => .number value (place position)
  | .text value position => .text value (place position)
  | .named name position => .named name (place position)
  | .lone operand position => .lone operand.relocate (place position)
  | .negation operand position => .negation operand.relocate (place position)
  | .binary operator left right position =>
      .binary operator left.relocate right.relocate (place position)

def Symbol.relocate (symbol : Symbol) : Symbol :=
  ⟨symbol.type, place symbol.declaredAt⟩

def SymbolTable.relocate (symbols : SymbolTable) : SymbolTable :=
  symbols.map (Symbol.relocate place)

def ScopeError.relocate (error : ScopeError) : ScopeError :=
  ⟨error.rule, error.name, place error.position⟩

def Scoping.relocate (scoping : Scoping) : Scoping where
  symbols := scoping.symbols.relocate place
  locked := scoping.locked
  errors := scoping.errors.map (ScopeError.relocate place)

def TypeError.relocate (error : TypeError) : TypeError :=
  ⟨error.rule, place error.position⟩

def Checked.relocate {α : Type} (checked : Checked α) : Checked α :=
  ⟨checked.errors.map (TypeError.relocate place), checked.result⟩

variable (phrase : Expr → Expr)

mutual

/-- The statement with all its places and expressions changed, those of the
statements inside it included. -/
def Stmt.rephrase : Stmt → Stmt
  | .declare name type initial position =>
      .declare (name.relocate place) type (initial.map phrase)
        (place position)
  | .assign target value position =>
      .assign (target.relocate place) (phrase value) (place position)
  | .loop index low high body position =>
      .loop (index.relocate place) (phrase low) (phrase high)
        (Stmt.rephraseList body) (place position)
  | .read target position => .read (target.relocate place) (place position)
  | .print value position => .print (phrase value) (place position)
  | .assert condition position =>
      .assert (phrase condition) (place position)

def Stmt.rephraseList : List Stmt → List Stmt
  | [] => []
  | statement :: others =>
      statement.rephrase :: Stmt.rephraseList others

end

theorem Stmt.rephraseList_eq_map (block : List Stmt) :
    Stmt.rephraseList place phrase block =
      block.map (Stmt.rephrase place phrase) := by
  induction block with
  | nil => rfl
  | cons statement others induction =>
      rw [Stmt.rephraseList, List.map_cons, induction]

def Stmt.relocate : Stmt → Stmt :=
  Stmt.rephrase place (Expr.relocate place)

def Program.relocate : Program → Program :=
  Stmt.rephraseList place (Expr.relocate place)

end Places

/-! Where no place changes, nothing does. -/

theorem Expr.relocate_id (expression : Expr) :
    expression.relocate id = expression := by
  induction expression with
  | number _ _ | text _ _ | named _ _ => rfl
  | lone operand _ induction | negation operand _ induction =>
      rw [relocate, induction, id]
  | binary _ left right _ leftInduction rightInduction =>
      rw [relocate, leftInduction, rightInduction, id]

mutual

theorem Stmt.relocate_id (statement : Stmt) :
    statement.relocate id = statement := by
  have same : Expr.relocate id = id := funext Expr.relocate_id
  cases statement with
  | declare name type initial position =>
      rw [Stmt.relocate, same, Stmt.rephrase, Option.map_id]
      rfl
  | loop index low high body position =>
      have inside : Stmt.rephraseList id id body = body := by
        rw [← same]
        exact Program.relocate_id body
      rw [Stmt.relocate, same, Stmt.rephrase, inside]
      rfl
  | assign _ _ _ | read _ _ | print _ _ | assert _ _ =>
      rw [Stmt.relocate, same]
      rfl

theorem Program.relocate_id (program : Program) :
    program.relocate id = program := by
  cases program with
  | nil => rfl
  | cons statement others =>
      have first : statement.rephrase id (Expr.relocate id) = statement :=
        Stmt.relocate_id statement
      have behind : Stmt.rephraseList id (Expr.relocate id) others = others :=
        Program.relocate_id others
      rw [Program.relocate, Stmt.rephraseList, first, behind]

end

/-- The fault without the place that it names, if it names one. -/
def Fault.unplaced : Fault → Fault
  | .boundValue _ value => .boundValue .start value
  | fault => fault

/-- Two computations in a row stop with the same if each of them does. -/
theorem mapError_bind {ε α β : Type} {forget : ε → ε}
    {first second : Except ε α} {next other : α → Except ε β}
    (early : first.mapError forget = second.mapError forget)
    (late : ∀ value,
      (next value).mapError forget = (other value).mapError forget) :
    (first >>= next).mapError forget = (second >>= other).mapError forget := by
  cases first with
  | error stop =>
      cases second with
      | error other => exact congrArg Except.error (Except.error.inj early)
      | ok other => cases early
  | ok value =>
      cases second with
      | error other => cases early
      | ok other =>
          cases early
          exact late value

/-- Another way to write programs. -/
structure Rephrasing where
  place : Position → Position
  phrase : Expr → Expr
  /-- A stop without the details in which the two ways may differ. -/
  forget : Stop → Stop
  scopeErrors_phrase : ∀ symbols expression,
    (phrase expression).scopeErrors (symbols.relocate place) =
      (expression.scopeErrors symbols).map (ScopeError.relocate place)
  infer_phrase : ∀ symbols expression,
    (phrase expression).infer (symbols.relocate place) =
      (expression.infer symbols).relocate place
  evaluate_phrase : ∀ store expression,
    ((phrase expression).evaluate store).mapError forget =
      (expression.evaluate store).mapError forget
  forget_failed : ∀ cause position,
    forget (.failed cause (place position)) = forget (.failed cause position)
  forget_bound : ∀ value position other,
    forget (.fault (.boundValue position value)) =
      forget (.fault (.boundValue other value))

namespace Rephrasing

def statement (rephrasing : Rephrasing) : Stmt → Stmt :=
  Stmt.rephrase rephrasing.place rephrasing.phrase

def program (rephrasing : Rephrasing) : Program → Program :=
  Stmt.rephraseList rephrasing.place rephrasing.phrase

variable (rephrasing : Rephrasing)

theorem statement_declare (name : Ident) (type : Ty) (initial : Option Expr)
    (position : Position) :
    rephrasing.statement (.declare name type initial position) =
      .declare (name.relocate rephrasing.place) type
        (initial.map rephrasing.phrase) (rephrasing.place position) :=
  rfl

theorem statement_assign (target : Ident) (value : Expr)
    (position : Position) :
    rephrasing.statement (.assign target value position) =
      .assign (target.relocate rephrasing.place) (rephrasing.phrase value)
        (rephrasing.place position) :=
  rfl

theorem statement_loop (index : Ident) (low high : Expr) (body : List Stmt)
    (position : Position) :
    rephrasing.statement (.loop index low high body position) =
      .loop (index.relocate rephrasing.place) (rephrasing.phrase low)
        (rephrasing.phrase high) (rephrasing.program body)
        (rephrasing.place position) :=
  rfl

theorem statement_read (target : Ident) (position : Position) :
    rephrasing.statement (.read target position) =
      .read (target.relocate rephrasing.place) (rephrasing.place position) :=
  rfl

theorem statement_print (value : Expr) (position : Position) :
    rephrasing.statement (.print value position) =
      .print (rephrasing.phrase value) (rephrasing.place position) :=
  rfl

theorem statement_assert (condition : Expr) (position : Position) :
    rephrasing.statement (.assert condition position) =
      .assert (rephrasing.phrase condition) (rephrasing.place position) :=
  rfl

theorem program_cons (statement : Stmt) (others : List Stmt) :
    rephrasing.program (statement :: others) =
      rephrasing.statement statement :: rephrasing.program others :=
  rfl

theorem length_program (program : Program) :
    (rephrasing.program program).length = program.length := by
  rw [Rephrasing.program, Stmt.rephraseList_eq_map, List.length_map]

end Rephrasing

end TinyImp
