import TinyImp.Diagnostic
import TinyImp.Scope.SymbolTable

/-!
# Scope analysis

Every name has to be declared, in the order of the text, before it is used and
only once.  A declaration inside a loop counts for all that follows.  While a
loop runs its index belongs to the loop: it must not be assigned, read into or
taken as the index of another loop inside.

The analysis goes through the whole program even if there are errors.  It
takes along the table of what is declared so far and the indices that are
locked, which a loop adds to before its body and takes from behind it.
-/

namespace TinyImp

inductive ScopeRule where
  | redeclared
  | undeclared
  | assignedIndex
  | readIndex
  | reusedIndex
deriving DecidableEq, Repr

structure ScopeError where
  rule : ScopeRule
  name : String
  position : Position
deriving DecidableEq

namespace ScopeError

def message (error : ScopeError) : String :=
  match error.rule with
  | .redeclared => s!"redeclaration of variable {error.name}"
  | .undeclared => s!"variable {error.name} used before declaration"
  | .assignedIndex => s!"cannot modify loop index {error.name} during loop"
  | .readIndex => s!"cannot read into loop index {error.name} during loop"
  | .reusedIndex =>
      s!"loop index {error.name} is already in use by an enclosing loop"

def diagnostic (error : ScopeError) : Diagnostic :=
  ⟨.scope, error.position, error.message⟩

/-- The error alone if its rule is broken, and nothing otherwise. -/
def flagged (broken : Bool) (error : ScopeError) : List ScopeError :=
  if broken then [error] else []

end ScopeError

open ScopeError (flagged)

/-- A name has to be declared where it is used. -/
def SymbolTable.use (symbols : SymbolTable) (name : String)
    (position : Position) : List ScopeError :=
  flagged (!symbols.contains name) ⟨.undeclared, name, position⟩

/-- The names in an expression that are not declared, from left to right. -/
def Expr.scopeErrors (symbols : SymbolTable) : Expr → List ScopeError
  | .number _ _ | .text _ _ => []
  | .named name position => symbols.use name position
  | .lone operand _ | .negation operand _ => operand.scopeErrors symbols
  | .binary _ left right _ =>
      left.scopeErrors symbols ++ right.scopeErrors symbols

/-- What is declared and which indices are locked behind a part of a program,
and the errors in that part. -/
structure Scoping where
  symbols : SymbolTable
  locked : List String
  errors : List ScopeError

mutual

/-- Analyzes a statement after the declarations `symbols`, while the indices
`locked` are locked.  A loop over an index that is locked already leaves it
locked. -/
def Stmt.scoping (locked : List String) (symbols : SymbolTable) :
    Stmt → Scoping
  | .declare name type initial position =>
      { symbols := symbols.declare name.name ⟨type, position⟩
        locked
        errors :=
          initial.elim [] (Expr.scopeErrors symbols) ++
            flagged (symbols.contains name.name)
              ⟨.redeclared, name.name, position⟩ }
  | .assign target value position =>
      { symbols
        locked
        errors :=
          symbols.use target.name target.position ++
            flagged (locked.contains target.name)
              ⟨.assignedIndex, target.name, position⟩ ++
            value.scopeErrors symbols }
  | .loop index low high body _ =>
      let inner :=
        Stmt.scopingList (locked.insert index.name) symbols body
      { symbols := inner.symbols
        locked :=
          if locked.contains index.name then inner.locked
          else inner.locked.erase index.name
        errors :=
          symbols.use index.name index.position ++
            flagged (locked.contains index.name)
              ⟨.reusedIndex, index.name, index.position⟩ ++
            low.scopeErrors symbols ++ high.scopeErrors symbols ++
            inner.errors }
  | .read target position =>
      { symbols
        locked
        errors :=
          symbols.use target.name target.position ++
            flagged (locked.contains target.name)
              ⟨.readIndex, target.name, position⟩ }
  | .print value _ =>
      { symbols, locked, errors := value.scopeErrors symbols }
  | .assert condition _ =>
      { symbols, locked, errors := condition.scopeErrors symbols }

def Stmt.scopingList (locked : List String) (symbols : SymbolTable) :
    List Stmt → Scoping
  | [] => { symbols, locked, errors := [] }
  | statement :: others =>
      let early := statement.scoping locked symbols
      let late := Stmt.scopingList early.locked early.symbols others
      { late with errors := early.errors ++ late.errors }

end

def Program.scoping (program : Program) : Scoping :=
  Stmt.scopingList [] .empty program

end TinyImp
